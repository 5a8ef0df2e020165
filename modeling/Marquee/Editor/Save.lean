import Marquee.Document.Basic
import Marquee.Editor.Source

/-!
# Saving the program of an editor

The program of an editor hangs on its first top block of kind start. Fields that are missing, or
that do not read as what they should be, have defaults; numbers are cut to the range of their
field. Number and color blocks in value sockets become literals. Blocks of unknown kinds are left
out.
-/

namespace Marquee

namespace Source

variable {β : Type} (source : Source β)

def kind? (block : β) : Option Kind :=
  (source.kindName block).bind Kind.ofName?

def text? (block : β) (field : String) : Option String :=
  (source.field block field).map FieldValue.toText

def int? (block : β) (field : String) : Option Int64 :=
  (source.field block field).bind FieldValue.toInt?

def textOr (default : String) (block : β) (field : String) : String :=
  (source.text? block field).getD default

def intOr (default : Int64) (block : β) (field : String) : Int64 :=
  (source.int? block field).getD default

/-- A field as a byte between zero and a bound. -/
def byteUpTo (highest : UInt8) (block : β) (field : String) : UInt8 :=
  UInt8.ofNat (min (source.intOr 0 block field).toInt.toNat highest.toNat)

/-- A field as a duration in milliseconds; a negative one is zero. -/
def duration (block : β) (field : String) : UInt64 :=
  match source.int? block field with
  | some milliseconds => UInt64.ofNat milliseconds.toInt.toNat
  | none => defaultPlayFor

/-- A field as one of a list of names, with a default. -/
def choice {α : Type} (ofName? : String → Option α) (default : α) (block : β) (field : String) :
    α :=
  ((source.text? block field).bind ofName?).getD default

def pin (block : β) : UInt8 :=
  source.byteUpTo maxPin block "PIN"

def level (block : β) : Level :=
  source.choice Level.ofName? .high block "STATE"

def color (block : β) : String :=
  source.textOr defaultColor block "COLOR"

def variableName (block : β) : String :=
  source.textOr defaultVariable block "VAR_NAME"

/-- What a value block of a kind computes, given the inputs in its sockets. -/
def saveExpression (inputIn : String → Input) (block : β) : Kind → Option Expression
  | .number => some (.number (source.intOr 0 block "NUMBER"))
  | .randomRange =>
    some <| .randomRange (source.intOr defaultRandomMin block "MIN")
      (source.intOr defaultRandomMax block "MAX")
  | .getVariable => some (.getVariable (source.variableName block))
  | .compare =>
    some <| .compare (inputIn "LEFT") (source.choice Relation.ofName? .eq block "OPERATOR")
      (inputIn "RIGHT")
  | .colorValue => some (.colorValue (source.color block))
  | .customColor => some (.customColor (source.color block))
  | .rgbColor =>
    some <| .rgbColor ⟨source.byteUpTo 255 block "RED", source.byteUpTo 255 block "GREEN",
      source.byteUpTo 255 block "BLUE"⟩
  | _ => none

/-- A value block in a value socket: numbers and colors are literals there. -/
def asInput (id : Option String) : Expression → Input
  | .number value => .number value
  | .colorValue color => .text color
  | .customColor color => .text color
  | expression => .block id expression

/-- The input that a block becomes; a statement becomes an empty one. The depth bounds how far down
the way leads. -/
def saveInput : Nat → β → Input
  | 0, _ => .empty
  | depth + 1, block =>
    let inputIn (socket : String) : Input :=
      match source.value block socket with
      | some child => saveInput depth child
      | none => .empty
    match (source.kind? block).bind (source.saveExpression inputIn block) with
    | some expression => asInput (source.id block) expression
    | none => .empty

/-- The input in a socket, with a default for an empty socket. -/
def inputOr (default : Input) (depth : Nat) (block : β) (socket : String) : Input :=
  match source.value block socket with
  | some child => source.saveInput depth child
  | none => default

/-- The color that a set-color block names in a field of its own. -/
def ownColor (block : β) : Input :=
  match source.text? block "COLOR" with
  | some color => .text color
  | none => .empty

/-- The statement of a block of a kind, given the chains in its sockets. -/
def saveFields (depth : Nat) (block : β) (chainIn : String → Chain) : Kind → Option Statement
  | .start => some (.start (chainIn "DO"))
  | .displayImage => some (.displayImage (source.textOr defaultFilename block "FILENAME"))
  | .playAnimation =>
    some <| .playAnimation (source.textOr defaultFolder block "FOLDER")
      (source.duration block "PLAY_FOR")
  | .wait =>
    some <| .wait <| source.inputOr (.number (source.intOr 0 block "NUMBER")) depth block "TIME"
  | .branch =>
    some <| .branch (source.inputOr .empty depth block "CONDITION") (chainIn "TRUE")
      (chainIn "FALSE")
  | .setVariable =>
    some <| .setVariable (source.variableName block) (source.inputOr .empty depth block "VALUE")
  | .forever => some (.forever (chainIn "DO"))
  | .repeatLoop =>
    some <| .repeatLoop (source.inputOr (.number 1) depth block "TIMES") (chainIn "DO")
  | .whileLoop =>
    some <| .whileLoop (source.inputOr .empty depth block "CONDITION") (chainIn "DO")
  | .breakLoop => some .breakLoop
  | .gpio => some (.gpio (source.pin block) (source.level block))
  | .gpioBranch =>
    some <| .gpioBranch (source.pin block) (source.level block) (chainIn "TRUE") (chainIn "FALSE")
  | .gpioTrigger =>
    some <| .gpioTrigger (source.pin block)
      (source.choice Trigger.ofName? .rising block "TRIGGER") (chainIn "DO")
  | .setColor => some (.setColor (source.inputOr (source.ownColor block) depth block "COLOR"))
  | kind => (source.saveExpression (source.inputOr .empty depth block) block kind).map .value

def saveChain : Nat → Option β → Chain
  | 0, _ => .nil
  | _ + 1, none => .nil
  | depth + 1, some block =>
    let chainIn (socket : String) : Chain := saveChain depth (source.statement block socket)
    let rest := saveChain depth (source.next block)
    match (source.kind? block).bind (source.saveFields depth block chainIn) with
    | some statement => .link (source.id block) statement rest
    | none => rest

def saveProgram (block : β) : Program :=
  ⟨source.id block, source.saveChain source.height (source.statement block "DO"), .nil⟩

/-- The block that the program hangs on. -/
def start? : Option β :=
  source.tops.find? fun block => source.kindName block == some Kind.start.name

/-- The document of an editor: its program, or the reason why there is none. -/
def save : Document :=
  match source.start? with
  | some block => .program (source.saveProgram block)
  | none => .noProgram noStartBlock

def saveBlock (block : β) : Option Node :=
  (source.saveChain source.height (some block)).head?

end Source

def Workspace.save (workspace : Workspace) : Document :=
  workspace.source.save

end Marquee
