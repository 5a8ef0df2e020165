import Marquee.Program.Basic

/-!
# Comparing and copying programs

A chain can be long, so it is compared and copied link by link. Two chains are walked side by side
until a pair of links differs or one of them ends. A copy is put together of copies of the single
links, each of which forgets what followed it.
-/

namespace Marquee

mutual

/-- Whether two statements are equal, with all that is inside them. -/
def Statement.same : Statement → Statement → Bool
  | .start actions, .start others => actions.same others
  | .displayImage filename, .displayImage other => filename == other
  | .playAnimation folder playFor, .playAnimation otherFolder otherPlayFor =>
    folder == otherFolder && playFor == otherPlayFor
  | .wait time, .wait other => time == other
  | .branch condition whenTrue whenFalse, .branch other otherTrue otherFalse =>
    condition == other && whenTrue.same otherTrue && whenFalse.same otherFalse
  | .setVariable name value, .setVariable otherName otherValue =>
    name == otherName && value == otherValue
  | .forever body, .forever other => body.same other
  | .repeatLoop times body, .repeatLoop otherTimes other => times == otherTimes && body.same other
  | .whileLoop condition body, .whileLoop otherCondition other =>
    condition == otherCondition && body.same other
  | .breakLoop, .breakLoop => true
  | .gpio pin level, .gpio otherPin otherLevel => pin == otherPin && level == otherLevel
  | .gpioBranch pin level whenTrue whenFalse, .gpioBranch otherPin other otherTrue otherFalse =>
    pin == otherPin && level == other && whenTrue.same otherTrue && whenFalse.same otherFalse
  | .gpioTrigger pin trigger actions, .gpioTrigger otherPin other others =>
    pin == otherPin && trigger == other && actions.same others
  | .setColor color, .setColor other => color == other
  | .value expression, .value other => expression == other
  | _, _ => false

/-- Whether two chains are equal link by link and end together. -/
def Chain.same : Chain → Chain → Bool
  | .nil, .nil => true
  | .link id statement next, .link otherId other otherNext =>
    id == otherId && statement.same other && next.same otherNext
  | _, _ => false

end

mutual

/-- A copy of a statement, with copies of all chains in it. -/
def Statement.copy : Statement → Statement
  | .start actions => .start actions.copy
  | .displayImage filename => .displayImage filename
  | .playAnimation folder playFor => .playAnimation folder playFor
  | .wait time => .wait time
  | .branch condition whenTrue whenFalse => .branch condition whenTrue.copy whenFalse.copy
  | .setVariable name value => .setVariable name value
  | .forever body => .forever body.copy
  | .repeatLoop times body => .repeatLoop times body.copy
  | .whileLoop condition body => .whileLoop condition body.copy
  | .breakLoop => .breakLoop
  | .gpio pin level => .gpio pin level
  | .gpioBranch pin level whenTrue whenFalse =>
    .gpioBranch pin level whenTrue.copy whenFalse.copy
  | .gpioTrigger pin trigger actions => .gpioTrigger pin trigger actions.copy
  | .setColor color => .setColor color
  | .value expression => .value expression

/-- Copies of the links of a chain, each without what follows it. -/
def Chain.loose : Chain → List Node
  | .nil => []
  | .link id statement next => ⟨id, statement.copy, .nil⟩ :: next.loose

/-- A copy of a chain: a copy of its first link, with copies of the others hung on it again. -/
def Chain.copy : Chain → Chain
  | .nil => .nil
  | .link id statement next => .link id statement.copy (.ofNodes next.loose)

end

namespace Node

def same (first second : Node) : Bool :=
  first.toChain.same second.toChain

def copy (node : Node) : Node :=
  ⟨node.id, node.statement.copy, .ofNodes node.next.loose⟩

end Node

namespace Program

def same (first second : Program) : Bool :=
  first.root.same second.root

def copy (program : Program) : Program :=
  ⟨program.id, program.actions.copy, .ofNodes program.next.loose⟩

end Program

end Marquee
