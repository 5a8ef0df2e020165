import Marquee.Program.Walk

/-!
# Ids in a program

The ids of all statements and value blocks in reading order, and what dropping them leaves as it is.
-/

namespace Marquee

mutual

def Input.ids : Input → List String
  | .empty => []
  | .number _ => []
  | .text _ => []
  | .block id expression => id.toList ++ expression.ids

def Expression.ids : Expression → List String
  | .compare left _ right => left.ids ++ right.ids
  | .number _ => []
  | .randomRange _ _ => []
  | .getVariable _ => []
  | .colorValue _ => []
  | .customColor _ => []
  | .rgbColor _ => []

end

mutual

def Statement.ids : Statement → List String
  | .start actions => actions.ids
  | .displayImage _ => []
  | .playAnimation _ _ => []
  | .wait time => time.ids
  | .branch condition whenTrue whenFalse => condition.ids ++ (whenTrue.ids ++ whenFalse.ids)
  | .setVariable _ value => value.ids
  | .forever body => body.ids
  | .repeatLoop times body => times.ids ++ body.ids
  | .whileLoop condition body => condition.ids ++ body.ids
  | .breakLoop => []
  | .gpio _ _ => []
  | .gpioBranch _ _ whenTrue whenFalse => whenTrue.ids ++ whenFalse.ids
  | .gpioTrigger _ _ actions => actions.ids
  | .setColor color => color.ids
  | .value expression => expression.ids

def Chain.ids : Chain → List String
  | .nil => []
  | .link id statement next => id.toList ++ (statement.ids ++ next.ids)

end

def Program.ids (program : Program) : List String :=
  program.id.toList ++ (program.actions.ids ++ program.next.ids)

@[simp] theorem Expression.kind_stripIds (expression : Expression) :
    expression.stripIds.kind = expression.kind := by
  cases expression <;> rfl

@[simp] theorem Statement.kind_stripIds (statement : Statement) :
    statement.stripIds.kind = statement.kind := by
  cases statement with
  | value expression => exact expression.kind_stripIds
  | _ => rfl

end Marquee
