import Marquee.Editor.Workspace

/-!
# Looking into an editor

A source is an editor whose blocks can be looked at. It knows its blocks by handles, and says for
each what it is called, what its fields hold and what is connected to it.
-/

namespace Marquee

/-- What can be seen of an editor with handles `β`. -/
structure Source (β : Type) where
  /-- The blocks that hang on nothing, in order. -/
  tops : List β
  kindName : β → Option String
  id : β → Option String
  field : β → String → Option FieldValue
  statement : β → String → Option β
  value : β → String → Option β
  next : β → Option β
  /-- No way down along connections has more blocks than this. -/
  height : Nat

namespace Workspace

/-- The block in a socket, if the kind of its parent has that socket. -/
def plugged? (workspace : Workspace) (sockets : Kind → List String) (handle : Nat)
    (socket : String) : Option Nat :=
  match workspace.block? handle with
  | some block =>
    if (sockets block.kind).contains socket then block.sockets.get? socket else none
  | none => none

def statementIn? (workspace : Workspace) : Nat → String → Option Nat :=
  workspace.plugged? Kind.statementSockets

def valueIn? (workspace : Workspace) : Nat → String → Option Nat :=
  workspace.plugged? Kind.valueSockets

def field? (workspace : Workspace) (handle : Nat) (field : String) : Option FieldValue :=
  (workspace.block? handle).bind fun block => block.fields.get? field

def next? (workspace : Workspace) (handle : Nat) : Option Nat :=
  (workspace.block? handle).bind Block.next

/-- The workspace as an editor to look into. -/
def source (workspace : Workspace) : Source Nat where
  tops := workspace.tops
  kindName handle := (workspace.block? handle).map fun block => block.kind.name
  id handle := (workspace.block? handle).map Block.id
  field := workspace.field?
  statement := workspace.statementIn?
  value := workspace.valueIn?
  next := workspace.next?
  height := workspace.blocks.size

end Workspace

end Marquee
