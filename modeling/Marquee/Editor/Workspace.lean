import Marquee.Editor.Sink
import Marquee.Table

/-!
# The workspace

The editor keeps its blocks in the order in which they were made; a handle is a position in that
order. A block knows what is plugged into its sockets, what follows it, and what it hangs on. A
block that hangs on nothing is a top block.
-/

namespace Marquee

structure Block where
  id : String
  kind : Kind
  fields : Table FieldValue
  sockets : Table Nat
  next : Option Nat
  /-- The block that this one is plugged into or follows. -/
  parent : Option Nat
  deriving DecidableEq, Inhabited

structure Workspace where
  blocks : Array Block
  /-- How many ids have been given out, also before the workspace was cleared. -/
  ids : Nat
  deriving DecidableEq, Inhabited

namespace Workspace

def empty : Workspace :=
  ⟨#[], 0⟩

/-- Removes all blocks. Ids are not given out again. -/
def clear (workspace : Workspace) : Workspace :=
  { workspace with blocks := #[] }

def block? (workspace : Workspace) (handle : Nat) : Option Block :=
  workspace.blocks[handle]?

def modify (workspace : Workspace) (handle : Nat) (change : Block → Block) : Workspace :=
  { workspace with blocks := workspace.blocks.modify handle change }

/-- Makes a block that hangs on nothing, with an id of its own. -/
def add (workspace : Workspace) (kind : Kind) : Nat × Workspace :=
  let id := "b" ++ toString (workspace.ids + 1)
  (workspace.blocks.size,
    ⟨workspace.blocks.push ⟨id, kind, .empty, .empty, none, none⟩, workspace.ids + 1⟩)

/-- The handles of the blocks that pass a test, in the order in which they were made. -/
def handlesWhere (workspace : Workspace) (test : Block → Bool) : List Nat :=
  (List.range workspace.blocks.size).filter fun handle =>
    match workspace.block? handle with
    | some block => test block
    | none => false

def ofKind (workspace : Workspace) (kind : Kind) : List Nat :=
  workspace.handlesWhere fun block => block.kind == kind

def find? (workspace : Workspace) (id : String) : Option Nat :=
  (workspace.handlesWhere fun block => block.id == id).head?

def tops (workspace : Workspace) : List Nat :=
  workspace.handlesWhere fun block => block.parent.isNone

/-- Whether the way up from a block leads to a candidate, in at most this many steps. -/
def leadsUpTo (workspace : Workspace) (candidate : Nat) : Nat → Nat → Bool
  | 0, handle => handle == candidate
  | steps + 1, handle =>
    handle == candidate ||
      match workspace.block? handle with
      | some ⟨_, _, _, _, _, some parent⟩ => workspace.leadsUpTo candidate steps parent
      | _ => false

/-- Whether a candidate is a block or lies above it. No way up is longer than the number of
blocks. -/
def isAncestor (workspace : Workspace) (candidate handle : Nat) : Bool :=
  workspace.leadsUpTo candidate workspace.blocks.size handle

def detach (workspace : Workspace) (child : Nat) : Workspace :=
  match workspace.block? child with
  | some ⟨_, _, _, _, _, some parent⟩ =>
    let released :=
      workspace.modify parent fun block =>
        { block with
          next := if block.next = some child then none else block.next
          sockets := block.sockets.keep fun plugged => plugged != child }
    released.modify child fun block => { block with parent := none }
  | _ => workspace

/-- Plugs a block into a socket. What was there before becomes a top block. -/
def plug (workspace : Workspace) (parent : Nat) (socket : String) (child : Nat) : Workspace :=
  let moved := workspace.detach child
  let bumped :=
    match moved.block? parent with
    | some block =>
      match block.sockets.get? socket with
      | some previous => moved.detach previous
      | none => moved
    | none => moved
  (bumped.modify parent fun block => { block with sockets := block.sockets.set socket child })
    |>.modify child fun block => { block with parent := some parent }

/-- Makes a statement follow another. What followed before becomes a top block. -/
def link (workspace : Workspace) (previous next : Nat) : Workspace :=
  let moved := workspace.detach next
  let bumped :=
    match moved.block? previous with
    | some ⟨_, _, _, _, some follower, _⟩ => moved.detach follower
    | _ => moved
  (bumped.modify previous fun block => { block with next := some next })
    |>.modify next fun block => { block with parent := some previous }

def fieldRefusal? (workspace : Workspace) (handle : Nat) (field : String) : Option Refusal :=
  match workspace.block? handle with
  | none => some .unknownBlock
  | some block =>
    if block.kind.fields.contains field then none else some (.missingField block.kind field)

def setField (workspace : Workspace) (handle : Nat) (field : String) (value : FieldValue) :
    Except Refusal Workspace :=
  match workspace.fieldRefusal? handle field with
  | some refusal => .error refusal
  | none =>
    .ok <| workspace.modify handle fun block =>
      { block with fields := block.fields.set field value }

/-- Why a block cannot be plugged into a socket, given the sockets that are of the right sort and
what is wrong with a child of the wrong sort. -/
def plugRefusal? (workspace : Workspace) (sockets : Kind → List String)
    (childFault? : Kind → Option ConnectionFault) (parent : Nat) (socket : String) (child : Nat) :
    Option Refusal :=
  match workspace.block? parent, workspace.block? child with
  | some above, some below =>
    if (sockets above.kind).contains socket then
      match childFault? below.kind with
      | some fault => some (.connection above.kind below.kind fault)
      | none =>
        if workspace.isAncestor child parent then
          some (.connection above.kind below.kind .cycle)
        else none
    else some (.missingInput above.kind socket)
  | _, _ => some .unknownBlock

def statementFault? (child : Kind) : Option ConnectionFault :=
  if child.hasPrevious then none else some .noPrevious

def valueFault? (child : Kind) : Option ConnectionFault :=
  if child.isValue then none else some .noOutput

def connectStatement (workspace : Workspace) (parent : Nat) (socket : String) (child : Nat) :
    Except Refusal Workspace :=
  match workspace.plugRefusal? Kind.statementSockets statementFault? parent socket child with
  | some refusal => .error refusal
  | none => .ok (workspace.plug parent socket child)

def connectValue (workspace : Workspace) (parent : Nat) (socket : String) (child : Nat) :
    Except Refusal Workspace :=
  match workspace.plugRefusal? Kind.valueSockets valueFault? parent socket child with
  | some refusal => .error refusal
  | none => .ok (workspace.plug parent socket child)

def linkRefusal? (workspace : Workspace) (previous next : Nat) : Option Refusal :=
  match workspace.block? previous, workspace.block? next with
  | some above, some below =>
    if above.kind.hasNext && below.kind.hasPrevious then
      if workspace.isAncestor next previous then
        some (.connection above.kind below.kind .cycle)
      else none
    else some (.connection above.kind below.kind .notChainable)
  | _, _ => some .unknownBlock

def connectNext (workspace : Workspace) (previous next : Nat) : Except Refusal Workspace :=
  match workspace.linkRefusal? previous next with
  | some refusal => .error refusal
  | none => .ok (workspace.link previous next)

/-- A request as an answer and the workspace after it, which a refusal leaves as it was. -/
def answer (workspace : Workspace) : Except Refusal Workspace → Except Refusal Unit × Workspace
  | .ok changed => (.ok (), changed)
  | .error refusal => (.error refusal, workspace)

/-- The workspace as an editor to build in. -/
def sink : Sink Workspace Nat where
  allocate kind workspace := (.ok (workspace.add kind).1, (workspace.add kind).2)
  setField handle field value workspace :=
    workspace.answer (workspace.setField handle field value)
  connectStatement parent socket child workspace :=
    workspace.answer (workspace.connectStatement parent socket child)
  connectValue parent socket child workspace :=
    workspace.answer (workspace.connectValue parent socket child)
  connectNext previous next workspace := workspace.answer (workspace.connectNext previous next)

end Workspace

end Marquee
