import Marquee.Proofs.Editor.Making
import Marquee.Proofs.Program.Sockets

/-!
# Filling a block

Once a block is made, a load does the same with every kind of block: it sets the fields in their
order, then builds the inputs for the value sockets and the chains for the statement sockets.
-/

namespace Marquee

/-- The fields of a value block, in the order in which they are set. -/
def Expression.fields : Expression → List (String × FieldValue)
  | .number value => [("NUMBER", .number value)]
  | .randomRange min max => [("MIN", .number min), ("MAX", .number max)]
  | .getVariable name => [("VAR_NAME", .text name)]
  | .compare _ relation _ => [("OPERATOR", .text relation.name)]
  | .colorValue color => [("COLOR", .text color)]
  | .customColor color => [("COLOR", .text color)]
  | .rgbColor color =>
    [("RED", .number (byteField color.red)), ("GREEN", .number (byteField color.green)),
      ("BLUE", .number (byteField color.blue))]

def Statement.fields : Statement → List (String × FieldValue)
  | .displayImage filename => [("FILENAME", .text filename)]
  | .playAnimation folder playFor =>
    [("FOLDER", .text folder), ("PLAY_FOR", .number (durationField playFor))]
  | .setVariable name _ => [("VAR_NAME", .text name)]
  | .gpio pin level => [("PIN", .number (byteField pin)), ("STATE", .text level.name)]
  | .gpioBranch pin level _ _ => [("PIN", .number (byteField pin)), ("STATE", .text level.name)]
  | .gpioTrigger pin trigger _ =>
    [("PIN", .number (byteField pin)), ("TRIGGER", .text trigger.name)]
  | .value expression => expression.fields
  | _ => []

private theorem Expression.names_fields (expression : Expression) :
    expression.fields.map Prod.fst = expression.kind.fields := by
  cases expression <;> rfl

theorem Statement.names_fields (statement : Statement) :
    statement.fields.map Prod.fst = statement.kind.fields := by
  cases statement with
  | value expression => exact expression.names_fields
  | _ => rfl

theorem Statement.mem_fields {statement : Statement} {field : String × FieldValue}
    (member : field ∈ statement.fields) : field.1 ∈ statement.kind.fields := by
  rw [← statement.names_fields]
  exact List.mem_map_of_mem member

/-- No two fields of a block have the same name. -/
theorem Kind.nodup_fields (kind : Kind) : kind.fields.Nodup := by
  cases kind <;> decide

private theorem Expression.fields_stripIds (expression : Expression) :
    expression.stripIds.fields = expression.fields := by
  cases expression <;> rfl

private theorem Statement.fields_stripIds (statement : Statement) :
    statement.stripIds.fields = statement.fields := by
  cases statement with
  | value expression => exact expression.fields_stripIds
  | _ => rfl

namespace Loading

variable {σ β : Type} (sink : Sink σ β) (block : β)

def setFields (fields : List (String × FieldValue)) (loading : Loading σ β) : Loading σ β :=
  fields.foldl (fun loading field => loading.setField sink block field.1 field.2) loading

/-- Builds the inputs of a block of a kind. -/
def plugInputs (kind : Kind) (inputs : List (String × Input)) (loading : Loading σ β) :
    Loading σ β :=
  inputs.foldl (fun loading socket => socket.2.load sink block kind socket.1 loading) loading

def plugChains (chains : List (String × Chain)) (loading : Loading σ β) : Loading σ β :=
  chains.foldl (fun loading socket => socket.2.loadSlot sink block socket.1 loading) loading

end Loading

open Loading

section

variable {σ β : Type} (sink : Sink σ β) (block : β)

theorem Expression.load_eq (expression : Expression) (loading : Loading σ β) :
    expression.load sink block loading =
      plugInputs sink block expression.kind expression.inputs
        (setFields sink block expression.fields loading) := by
  cases expression <;> rfl

theorem Statement.load_eq (statement : Statement) (loading : Loading σ β) :
    statement.load sink block loading =
      plugChains sink block statement.chains
        (plugInputs sink block statement.kind statement.inputs
          (setFields sink block statement.fields loading)) := by
  cases statement with
  | value expression => cases expression <;> rfl
  | _ => rfl

theorem Expression.load_stripIds (expression : Expression) (loading : Loading σ β) :
    expression.stripIds.load sink block loading =
      expression.inputs.foldl
        (fun loading socket =>
          socket.2.stripIds.load sink block expression.kind socket.1 loading)
        (setFields sink block expression.fields loading) := by
  rw [Expression.load_eq, expression.inputs_stripIds, expression.fields_stripIds,
    expression.kind_stripIds, plugInputs, List.foldl_map]
  rfl

theorem Statement.load_stripIds (statement : Statement) (loading : Loading σ β) :
    statement.stripIds.load sink block loading =
      statement.chains.foldl
        (fun loading socket => socket.2.stripIds.loadSlot sink block socket.1 loading)
        (statement.inputs.foldl
          (fun loading socket =>
            socket.2.stripIds.load sink block statement.kind socket.1 loading)
          (setFields sink block statement.fields loading)) := by
  rw [Statement.load_eq, statement.inputs_stripIds, statement.chains_stripIds,
    statement.fields_stripIds, statement.kind_stripIds, plugInputs, plugChains, List.foldl_map,
    List.foldl_map]
  rfl

end

end Marquee
