import Marquee.Document.Basic
import Marquee.Json.Reader
import Marquee.Program.Decode

/-!
# Reading documents

A document is read more kindly than its blocks by themselves: `kind` may stand for `type`, only the
first block of a list counts, and errors name the place of the block. A block is read in this
order: its kind, all inputs and the value blocks inside them, its statement sockets, and then its
fields. The blocks that follow it come last.
-/

namespace Marquee

open Json (Members)

/-- The keys that name the kind of a block inside a document. -/
def looseKindKeys : List String :=
  ["type", "kind"]

/-- The keys of the statement sockets, in the order in which they are read. -/
def slotKeys : List String :=
  ["actions", "true_branch", "false_branch", "loop_body"]

/-- Whether a key of a block of this kind holds an input. -/
def isInputKey (kind : Kind) (key : String) : Bool :=
  ["time", "value", "condition", "times", "left", "right"].contains key ||
    (key == "color" && kind == .setColor)

def namedKind (name : String) : Except LoadError Kind :=
  match Kind.ofName? name with
  | some kind => .ok kind
  | none => .error (.unknownKind name)

def blockKind (path : Path) (members : Members) : Except LoadError Kind :=
  match kindValue? looseKindKeys members with
  | some (.string name) => namedKind name
  | some other => .error (.schema path (.kindNotText other))
  | none => .error (.missingKind path)

/-- A known kind that an object names in its kind key; nothing for an object that names no kind
properly. -/
def claimedKind? (members : Members) : Option Kind :=
  match kindValue? looseKindKeys members with
  | some (.string name) => Kind.ofName? name
  | _ => none

mutual

/-- Checks the value of an input at a place, and the value blocks inside it. -/
def checkInput (path : Path) : Json → Except LoadError Unit
  | .null => .ok ()
  | .string _ => .ok ()
  | .number (.int _) => .ok ()
  | .number found => .error (.schema path (.notInteger found))
  | .object members =>
    match claimedKind? members with
    | some kind =>
      if kind.isValue then checkInputs path kind members
      else .error (.schema path (.notValue kind))
    | none => (blockKind path members).map fun _ => ()
  | .bool found => .error (.schema path (.notOperand (.bool found)))
  | .array found => .error (.schema path (.notOperand (.array found)))

def checkInputs (path : Path) (kind : Kind) : Members → Except LoadError Unit
  | .nil => .ok ()
  | .cons key value rest =>
    if isInputKey kind key then
      match checkInput (path.step (.field key)) value with
      | .error error => .error error
      | .ok () => checkInputs path kind rest
    else checkInputs path kind rest

end

/-- The chains read from the statement sockets of a block, by key. -/
abbrev Slots :=
  List (String × Chain)

def Slots.at (slots : Slots) (key : String) : Chain :=
  (slots.lookup key).getD .nil

/-- The fields of a block whose kind and statement sockets are read. -/
def readBlock (kind : Kind) (members : Members) (slots : Slots) :
    Except DecodeError (Option String × Statement) := do
  let id ← readId members
  let statement ←
    readStatement (inputAt looseKindKeys members) (fun key => .ok (slots.at key)) kind members
  return (id, statement)

/-- Names the place of a field that does not decode. -/
def atPlace {α : Type} (path : Path) : Except DecodeError α → Except LoadError α
  | .ok value => .ok value
  | .error error => .error (.schema path (.field error))

mutual

/-- A block with all that follows it, `count` links after the block at a place. -/
def readNodeAt (head : Path) (count : Nat) (value : Json) : Except LoadError Node :=
  match value with
  | .object members => do
    let path := head.after count
    let kind ← blockKind path members
    checkInputs path kind members
    let slot (key : String) : Except LoadError (String × Chain) :=
      match found : members.get? key with
      | none => .ok (key, .nil)
      | some inner =>
        have := Members.size_get? found
        (readSlotAt (path.step (.field key)) inner).map fun chain => (key, chain)
    let slots ← slotKeys.mapM slot
    let (id, statement) ← atPlace path (readBlock kind members slots)
    let next ←
      match found : members.get? "next" with
      | none => pure Chain.nil
      | some .null => pure Chain.nil
      | some next =>
        have := Members.size_get? found
        Node.toChain <$> readNodeAt head (count + 1) next
    return ⟨id, statement, next⟩
  | other => .error (.schema (head.after count) (.notBlock other))
termination_by 2 * value.size
decreasing_by
  all_goals
    simp only [Json.size]
    omega

/-- The value of a statement socket at a place: a list whose first block counts, a block, or
null. -/
def readSlotAt (path : Path) (value : Json) : Except LoadError Chain :=
  match value with
  | .null => .ok .nil
  | .array .nil => .ok .nil
  | .array (.cons head _) => Node.toChain <$> readNodeAt (path.step .first) 0 head
  | .object members => Node.toChain <$> readNodeAt path 0 (.object members)
  | other => .error (.schema path (.notBlocks other))
termination_by 2 * value.size + 1
decreasing_by
  all_goals
    simp only [Json.size, Json.Items.size]
    omega

end

def reasonText : Json → String
  | .string text => text
  | other => other.compact

namespace Document

/-- The document of a JSON value. An object with an `error` member says that there is no
program. -/
def ofJson (value : Json) : Except LoadError Document :=
  let reason :=
    match value with
    | .object members => members.get? "error"
    | _ => none
  match reason with
  | some reason => .ok (.noProgram (reasonText reason))
  | none => do
    let root ← readNodeAt .root 0 value
    match root.program? with
    | some content => return .program content
    | none => throw (.notStart root.kind)

def parse (text : String) : Except LoadError Document :=
  match Json.parse text with
  | .ok value => ofJson value
  | .error fault => .error (.notJson fault)

end Document

end Marquee
