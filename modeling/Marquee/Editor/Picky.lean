import Marquee.Editor.Workspace

/-!
# Picky editors

An editor that refuses more than it has to: it makes no blocks of some kinds, sets no fields of
some names, and connects nothing to some sockets. What it does not refuse it hands on.
-/

namespace Marquee

/-- What a picky editor refuses. The socket `next` stands for the connection to the statement that
follows. -/
structure Dislikes where
  kinds : List Kind
  fields : List String
  sockets : List String
  deriving DecidableEq, Repr

namespace Dislikes

variable {σ β : Type}

/-- Refuses a connection of a parent to a socket. -/
def refuseSocket (kindOf : β → σ → Option Kind) (parent : β) (socket : String) (editor : σ) :
    Except Refusal Unit × σ :=
  match kindOf parent editor with
  | some kind => (.error (.missingInput kind socket), editor)
  | none => (.error .unknownBlock, editor)

/-- The picky version of an editor that knows the kinds of its blocks. -/
def sink (dislikes : Dislikes) (kindOf : β → σ → Option Kind) (inner : Sink σ β) : Sink σ β where
  allocate kind editor :=
    if dislikes.kinds.contains kind then (.error (.rejected kind), editor)
    else inner.allocate kind editor
  setField block field value editor :=
    if dislikes.fields.contains field then (.error .unknownBlock, editor)
    else inner.setField block field value editor
  connectStatement parent socket child editor :=
    if dislikes.sockets.contains socket then refuseSocket kindOf parent socket editor
    else inner.connectStatement parent socket child editor
  connectValue parent socket child editor :=
    if dislikes.sockets.contains socket then refuseSocket kindOf parent socket editor
    else inner.connectValue parent socket child editor
  connectNext previous next editor :=
    if dislikes.sockets.contains "next" then refuseSocket kindOf previous "next" editor
    else inner.connectNext previous next editor

end Dislikes

/-- The kind of a block of a workspace. -/
def Workspace.kindOf (handle : Nat) (workspace : Workspace) : Option Kind :=
  (workspace.block? handle).map Block.kind

end Marquee
