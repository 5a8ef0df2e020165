import Marquee.Program.Basic
import Marquee.Json.Writer

/-!
# Programs as JSON

A block is an object with its id, its kind under `type`, its own fields in a fixed order and the
block that follows it. What is absent is left out: an id, an empty input, an empty chain. A chain
in a statement socket is an array that holds its first block.
-/

namespace Marquee

namespace Json

/-- Members that start with this one, unless its value is null. -/
def Members.consUnlessNull (name : String) (value : Json) (rest : Members) : Members :=
  match value with
  | .null => rest
  | _ => .cons name value rest

/-- Members that start with an optional text. -/
def Members.consText? (name : String) (text : Option String) (rest : Members) : Members :=
  match text with
  | some text => .cons name (.string text) rest
  | none => rest

/-- A value in an array of its own, unless it is null. -/
def singleton : Json → Json
  | .null => .null
  | value => .array (.cons value .nil)

end Json

open Json (Members)

mutual

/-- The JSON of an input; an empty one is null. -/
def Input.toJson : Input → Json
  | .empty => .null
  | .number value => .int value.toInt
  | .text text => .string text
  | .block id expression =>
    .object <| .consText? "id" id <|
      .cons "type" (.string expression.kind.name) <| expression.members .nil

/-- The fields of a value block, before others. -/
def Expression.members (rest : Members) : Expression → Members
  | .number value => .cons "value" (.int value.toInt) rest
  | .randomRange min max => .cons "min" (.int min.toInt) <| .cons "max" (.int max.toInt) rest
  | .getVariable name => .cons "var_name" (.string name) rest
  | .compare left relation right =>
    .consUnlessNull "left" left.toJson <| .cons "operator" (.string relation.name) <|
      .consUnlessNull "right" right.toJson rest
  | .colorValue color => .cons "color" (.string color) rest
  | .customColor color => .cons "color" (.string color) rest
  | .rgbColor color =>
    .cons "red" (.int color.red.toNat) <| .cons "green" (.int color.green.toNat) <|
      .cons "blue" (.int color.blue.toNat) rest

end

mutual

def Statement.members (rest : Members) : Statement → Members
  | .start actions => .consUnlessNull "actions" actions.toJson.singleton rest
  | .displayImage filename => .cons "filename" (.string filename) rest
  | .playAnimation folder playFor =>
    .cons "folder" (.string folder) <| .cons "play_for" (.int playFor.toNat) rest
  | .wait time => .consUnlessNull "time" time.toJson rest
  | .branch condition whenTrue whenFalse =>
    .consUnlessNull "condition" condition.toJson <|
      .consUnlessNull "true_branch" whenTrue.toJson.singleton <|
      .consUnlessNull "false_branch" whenFalse.toJson.singleton rest
  | .setVariable name value =>
    .cons "var_name" (.string name) <| .consUnlessNull "value" value.toJson rest
  | .forever body => .consUnlessNull "loop_body" body.toJson.singleton rest
  | .repeatLoop times body =>
    .consUnlessNull "times" times.toJson <|
      .consUnlessNull "loop_body" body.toJson.singleton rest
  | .whileLoop condition body =>
    .consUnlessNull "condition" condition.toJson <|
      .consUnlessNull "loop_body" body.toJson.singleton rest
  | .breakLoop => rest
  | .gpio pin level =>
    .cons "pin" (.int pin.toNat) <| .cons "state" (.string level.name) rest
  | .gpioBranch pin level whenTrue whenFalse =>
    .cons "pin" (.int pin.toNat) <| .cons "state" (.string level.name) <|
      .consUnlessNull "true_branch" whenTrue.toJson.singleton <|
      .consUnlessNull "false_branch" whenFalse.toJson.singleton rest
  | .gpioTrigger pin trigger actions =>
    .cons "pin" (.int pin.toNat) <| .cons "trigger" (.string trigger.name) <|
      .consUnlessNull "actions" actions.toJson.singleton rest
  | .setColor color => .consUnlessNull "color" color.toJson rest
  | .value expression => expression.members rest

/-- The JSON of the first block of a chain with all that follows it; an empty chain is null. -/
def Chain.toJson : Chain → Json
  | .nil => .null
  | .link id statement next =>
    .object <| .consText? "id" id <| .cons "type" (.string statement.kind.name) <|
      statement.members (.consUnlessNull "next" next.toJson .nil)

end

/-- The JSON of a node with all that follows it. -/
def Node.toJson (node : Node) : Json :=
  node.toChain.toJson

def Program.toJson (program : Program) : Json :=
  program.root.toJson

end Marquee
