import Marquee.Program.Basic

/-!
# Walking a program

The kinds of all blocks of a program in reading order: a block, then its inputs, then its statement
sockets in the order of the editor, then the blocks that follow it. Literals count as the blocks
that the editor would make of them. Dropping the ids leaves the kinds as they are.
-/

namespace Marquee

mutual

def Input.kinds : Input → List Kind
  | .empty => []
  | .number _ => [.number]
  | .text _ => [.customColor]
  | .block _ expression => expression.kinds

def Expression.kinds : Expression → List Kind
  | .compare left _ right => .compare :: left.kinds ++ right.kinds
  | .number _ => [.number]
  | .randomRange _ _ => [.randomRange]
  | .getVariable _ => [.getVariable]
  | .colorValue _ => [.colorValue]
  | .customColor _ => [.customColor]
  | .rgbColor _ => [.rgbColor]

end

mutual

/-- The kinds of a statement and all that is inside it. -/
def Statement.kinds : Statement → List Kind
  | .start actions => .start :: actions.kinds
  | .displayImage _ => [.displayImage]
  | .playAnimation _ _ => [.playAnimation]
  | .wait time => .wait :: time.kinds
  | .branch condition whenTrue whenFalse =>
    .branch :: condition.kinds ++ whenTrue.kinds ++ whenFalse.kinds
  | .setVariable _ value => .setVariable :: value.kinds
  | .forever body => .forever :: body.kinds
  | .repeatLoop times body => .repeatLoop :: times.kinds ++ body.kinds
  | .whileLoop condition body => .whileLoop :: condition.kinds ++ body.kinds
  | .breakLoop => [.breakLoop]
  | .gpio _ _ => [.gpio]
  | .gpioBranch _ _ whenTrue whenFalse => .gpioBranch :: whenTrue.kinds ++ whenFalse.kinds
  | .gpioTrigger _ _ actions => .gpioTrigger :: actions.kinds
  | .setColor color => .setColor :: color.kinds
  | .value expression => expression.kinds

def Chain.kinds : Chain → List Kind
  | .nil => []
  | .link _ statement next => statement.kinds ++ next.kinds

end

/-- The kinds of a node and of all that follows it. -/
def Node.kinds (node : Node) : List Kind :=
  node.statement.kinds ++ node.next.kinds

/-- The number of statements and value blocks of a program. -/
def Program.size (program : Program) : Nat :=
  program.root.kinds.length

mutual

def Input.stripIds : Input → Input
  | .empty => .empty
  | .number value => .number value
  | .text text => .text text
  | .block _ expression => .block none expression.stripIds

def Expression.stripIds : Expression → Expression
  | .compare left relation right => .compare left.stripIds relation right.stripIds
  | .number value => .number value
  | .randomRange min max => .randomRange min max
  | .getVariable name => .getVariable name
  | .colorValue color => .colorValue color
  | .customColor color => .customColor color
  | .rgbColor color => .rgbColor color

end

mutual

def Statement.stripIds : Statement → Statement
  | .start actions => .start actions.stripIds
  | .displayImage filename => .displayImage filename
  | .playAnimation folder playFor => .playAnimation folder playFor
  | .wait time => .wait time.stripIds
  | .branch condition whenTrue whenFalse =>
    .branch condition.stripIds whenTrue.stripIds whenFalse.stripIds
  | .setVariable name value => .setVariable name value.stripIds
  | .forever body => .forever body.stripIds
  | .repeatLoop times body => .repeatLoop times.stripIds body.stripIds
  | .whileLoop condition body => .whileLoop condition.stripIds body.stripIds
  | .breakLoop => .breakLoop
  | .gpio pin level => .gpio pin level
  | .gpioBranch pin level whenTrue whenFalse =>
    .gpioBranch pin level whenTrue.stripIds whenFalse.stripIds
  | .gpioTrigger pin trigger actions => .gpioTrigger pin trigger actions.stripIds
  | .setColor color => .setColor color.stripIds
  | .value expression => .value expression.stripIds

def Chain.stripIds : Chain → Chain
  | .nil => .nil
  | .link _ statement next => .link none statement.stripIds next.stripIds

end

def Node.stripIds (node : Node) : Node :=
  ⟨none, node.statement.stripIds, node.next.stripIds⟩

def Program.stripIds (program : Program) : Program :=
  ⟨none, program.actions.stripIds, program.next.stripIds⟩

end Marquee
