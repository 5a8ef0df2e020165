import Marquee.Editor.Load
import Marquee.Proofs.Program.Sockets

/-!
# Pruning a program

Some kinds of blocks are taken out of a program: an input that would become such a block is removed,
and a chain is cut before the first statement that would.
-/

namespace Marquee

mutual

/-- The input of a block of a kind, without blocks of the kinds to take out. -/
def Input.prune (kinds : List Kind) (parent : Kind) : Input → Input
  | .empty => .empty
  | .number value => if kinds.contains .number then .empty else .number value
  | .text text => if kinds.contains (literalKind parent text) then .empty else .text text
  | .block id expression =>
    if kinds.contains expression.kind then .empty else .block id (expression.prune kinds)

def Expression.prune (kinds : List Kind) : Expression → Expression
  | .compare left relation right =>
    .compare (left.prune kinds .compare) relation (right.prune kinds .compare)
  | .number value => .number value
  | .randomRange min max => .randomRange min max
  | .getVariable name => .getVariable name
  | .colorValue color => .colorValue color
  | .customColor color => .customColor color
  | .rgbColor color => .rgbColor color

end

mutual

def Statement.prune (kinds : List Kind) : Statement → Statement
  | .start actions => .start (actions.prune kinds)
  | .displayImage filename => .displayImage filename
  | .playAnimation folder playFor => .playAnimation folder playFor
  | .wait time => .wait (time.prune kinds .wait)
  | .branch condition whenTrue whenFalse =>
    .branch (condition.prune kinds .branch) (whenTrue.prune kinds) (whenFalse.prune kinds)
  | .setVariable name new => .setVariable name (new.prune kinds .setVariable)
  | .forever body => .forever (body.prune kinds)
  | .repeatLoop times body => .repeatLoop (times.prune kinds .repeatLoop) (body.prune kinds)
  | .whileLoop condition body => .whileLoop (condition.prune kinds .whileLoop) (body.prune kinds)
  | .breakLoop => .breakLoop
  | .gpio pin level => .gpio pin level
  | .gpioBranch pin level whenTrue whenFalse =>
    .gpioBranch pin level (whenTrue.prune kinds) (whenFalse.prune kinds)
  | .gpioTrigger pin trigger actions => .gpioTrigger pin trigger (actions.prune kinds)
  | .setColor color => .setColor (color.prune kinds .setColor)
  | .value expression => .value (expression.prune kinds)

/-- The chain up to the first statement of a kind to take out. -/
def Chain.prune (kinds : List Kind) : Chain → Chain
  | .nil => .nil
  | .link id statement next =>
    if kinds.contains statement.kind then .nil
    else .link id (statement.prune kinds) (next.prune kinds)

end

def Program.prune (kinds : List Kind) (program : Program) : Program :=
  ⟨program.id, program.actions.prune kinds, program.next.prune kinds⟩

variable (kinds : List Kind)

@[simp] theorem Expression.kind_prune (expression : Expression) :
    (expression.prune kinds).kind = expression.kind := by
  cases expression <;> rfl

@[simp] theorem Statement.kind_prune (statement : Statement) :
    (statement.prune kinds).kind = statement.kind := by
  cases statement with
  | value expression => exact expression.kind_prune kinds
  | _ => rfl

theorem Expression.inputs_prune (expression : Expression) :
    (expression.prune kinds).inputs =
      expression.inputs.map (Prod.map id (Input.prune kinds expression.kind)) := by
  cases expression <;> rfl

theorem Statement.inputs_prune (statement : Statement) :
    (statement.prune kinds).inputs =
      statement.inputs.map (Prod.map id (Input.prune kinds statement.kind)) := by
  cases statement with
  | value expression => exact expression.inputs_prune kinds
  | _ => rfl

theorem Statement.chains_prune (statement : Statement) :
    (statement.prune kinds).chains = statement.chains.map (Prod.map id (Chain.prune kinds)) := by
  cases statement <;> rfl

end Marquee
