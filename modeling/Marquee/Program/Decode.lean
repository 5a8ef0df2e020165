import Marquee.Program.Basic
import Marquee.Program.DecodeError
import Marquee.Text.Numeral

/-!
# Blocks from JSON

The typed fields of a block are read in ascending order of their keys, so that the first bad one is
reported; unknown keys are ignored and absent ones have defaults. Two things are left to the
caller: which keys may name the kind of a value block, and how statement sockets are read.
-/

namespace Marquee

open Json (Members)

/-- Reads the field under a key, with a default for an absent one. -/
def fieldOr {α : Type} (default : α) (read : Json → Except DecodeError α) (key : String)
    (members : Members) : Except DecodeError α :=
  match members.get? key with
  | none => .ok default
  | some value => read value

def readText : Json → Except DecodeError String
  | .string text => .ok text
  | other => .error (.wrongType other .text)

/-- An integer that a bounded type must hold. -/
def readBounded {α : Type} (expected : Expected) (bounded : Int → Option α) :
    Json → Except DecodeError α
  | .number (.int value) =>
    match bounded value with
    | some fitting => .ok fitting
    | none => .error (.outOfRange value expected)
  | other => .error (.wrongType other expected)

def readInt64 : Json → Except DecodeError Int64 :=
  readBounded .int64 toInt64?

def readUInt64 : Json → Except DecodeError UInt64 :=
  readBounded .uint64 fun value => if value < 0 then none else toUInt64? value.toNat

def readByte : Json → Except DecodeError UInt8 :=
  readBounded .byte fun value => if value < 0 then none else toByte? value.toNat

def readName {α : Type} (ofName? : String → Option α) (known : List String) (name : String) :
    Except DecodeError α :=
  match ofName? name with
  | some choice => .ok choice
  | none => .error (.unknownName name known)

/-- A name from a list, as a text or as the only key of an object without content. -/
def readChoice {α : Type} (ofName? : String → Option α) (known : List String) :
    Json → Except DecodeError α
  | .string name => readName ofName? known name
  | .object (.cons name content .nil) => do
    let choice ← readName ofName? known name
    match content with
    | .null => return choice
    | .object .nil => return choice
    | other => throw (.wrongType other .unit)
  | .object _ => .error .notOneKey
  | other => .error (.wrongType other .choice)

def readRelation : Json → Except DecodeError Relation :=
  readChoice Relation.ofName? (Relation.all.map Relation.name)

def readLevel : Json → Except DecodeError Level :=
  readChoice Level.ofName? (Level.all.map Level.name)

def readTrigger : Json → Except DecodeError Trigger :=
  readChoice Trigger.ofName? (Trigger.all.map Trigger.name)

def readId (members : Members) : Except DecodeError (Option String) :=
  match members.get? "id" with
  | none => .ok none
  | some .null => .ok none
  | some value => some <$> readText value

/-- The value kinds, in the order of their own vocabulary. -/
def valueKinds : List Kind :=
  [.number, .randomRange, .getVariable, .compare, .colorValue, .customColor, .rgbColor]

theorem mem_valueKinds (kind : Kind) : kind ∈ valueKinds ↔ kind.isValue = true := by
  cases kind <;> decide

/-- The value that names the kind of an object: the first of these keys that it has. -/
def kindValue? (keys : List String) (members : Members) : Option Json :=
  keys.findSome? members.get?

/-- A kind of a vocabulary, by its name or by its position. -/
def readKind (kinds : List Kind) : Option Json → Except DecodeError Kind
  | none => .error .noKind
  | some (.string name) =>
    readName (fun name => kinds.find? fun kind => kind.name == name) (kinds.map Kind.name) name
  | some (.number (.int index)) =>
    if index < 0 then .error (.wrongType (.int index) .kind)
    else
      match kinds[index.toNat]? with
      | some kind => .ok kind
      | none => .error (.unknownIndex index kinds.length)
  | some other => .error (.wrongType other .kind)

def readExpression (input : String → Except DecodeError Input) (kind : Kind) (members : Members) :
    Except DecodeError Expression :=
  match kind with
  | .number => return .number (← fieldOr 0 readInt64 "value" members)
  | .randomRange => do
    let max ← fieldOr defaultRandomMax readInt64 "max" members
    let min ← fieldOr defaultRandomMin readInt64 "min" members
    return .randomRange min max
  | .getVariable => return .getVariable (← fieldOr defaultVariable readText "var_name" members)
  | .compare => do
    let left ← input "left"
    let relation ← fieldOr .eq readRelation "operator" members
    let right ← input "right"
    return .compare left relation right
  | .colorValue => return .colorValue (← fieldOr defaultColor readText "color" members)
  | .customColor => return .customColor (← fieldOr defaultColor readText "color" members)
  | .rgbColor => do
    let blue ← fieldOr 0 readByte "blue" members
    let green ← fieldOr 0 readByte "green" members
    let red ← fieldOr 0 readByte "red" members
    return .rgbColor ⟨red, green, blue⟩
  | _ => .error .notInput

/-- What a value socket holds. Whatever is wrong inside, the input as a whole does not fit. The
kind of a value block is named by the first of the given keys. -/
def readInput (kindKeys : List String) (value : Json) : Except DecodeError Input :=
  match value with
  | .null => .ok .empty
  | .string text => .ok (.text text)
  | .number (.int number) =>
    match toInt64? number with
    | some number => .ok (.number number)
    | none => .error .notInput
  | .object members =>
    let input (key : String) : Except DecodeError Input :=
      match found : members.get? key with
      | none => .ok .empty
      | some inner =>
        have := Members.size_get? found
        readInput kindKeys inner
    let block : Except DecodeError Input := do
      let id ← readId members
      let kind ← readKind valueKinds (kindValue? kindKeys members)
      return .block id (← readExpression input kind members)
    match block with
    | .ok block => .ok block
    | .error _ => .error .notInput
  | _ => .error .notInput
termination_by value.size
decreasing_by
  simp only [Json.size]
  omega

def inputAt (kindKeys : List String) (members : Members) (key : String) :
    Except DecodeError Input :=
  fieldOr .empty (readInput kindKeys) key members

/-- The fields of a statement, given how its inputs and its statement sockets are read. -/
def readStatement (input : String → Except DecodeError Input)
    (slot : String → Except DecodeError Chain) (kind : Kind) (members : Members) :
    Except DecodeError Statement :=
  match kind with
  | .start => return .start (← slot "actions")
  | .displayImage =>
    return .displayImage (← fieldOr defaultFilename readText "filename" members)
  | .playAnimation => do
    let folder ← fieldOr defaultFolder readText "folder" members
    let playFor ← fieldOr defaultPlayFor readUInt64 "play_for" members
    return .playAnimation folder playFor
  | .wait => return .wait (← input "time")
  | .branch => do
    let condition ← input "condition"
    let whenFalse ← slot "false_branch"
    let whenTrue ← slot "true_branch"
    return .branch condition whenTrue whenFalse
  | .setVariable => do
    let value ← input "value"
    let name ← fieldOr defaultVariable readText "var_name" members
    return .setVariable name value
  | .forever => return .forever (← slot "loop_body")
  | .repeatLoop => do
    let body ← slot "loop_body"
    let times ← input "times"
    return .repeatLoop times body
  | .whileLoop => do
    let condition ← input "condition"
    let body ← slot "loop_body"
    return .whileLoop condition body
  | .breakLoop => return .breakLoop
  | .gpio => do
    let pin ← fieldOr 0 readByte "pin" members
    let level ← fieldOr .high readLevel "state" members
    return .gpio pin level
  | .gpioBranch => do
    let whenFalse ← slot "false_branch"
    let pin ← fieldOr 0 readByte "pin" members
    let level ← fieldOr .high readLevel "state" members
    let whenTrue ← slot "true_branch"
    return .gpioBranch pin level whenTrue whenFalse
  | .gpioTrigger => do
    let actions ← slot "actions"
    let pin ← fieldOr 0 readByte "pin" members
    let trigger ← fieldOr .rising readTrigger "trigger" members
    return .gpioTrigger pin trigger actions
  | .setColor => return .setColor (← input "color")
  | valueKind => return .value (← readExpression input valueKind members)

/-- The keys that name the kind of a block that is read by itself. -/
def strictKindKeys : List String :=
  ["type"]

mutual

/-- A block with all that follows it. Its id and what follows come before its own fields. -/
def readNode (value : Json) : Except DecodeError Node :=
  match value with
  | .object members => do
    let id ← readId members
    let next ←
      match found : members.get? "next" with
      | none => pure Chain.nil
      | some .null => pure Chain.nil
      | some next =>
        have := Members.size_get? found
        Node.toChain <$> readNode next
    let kind ← readKind Kind.all (kindValue? strictKindKeys members)
    let slot (key : String) : Except DecodeError Chain :=
      match found : members.get? key with
      | none => .ok .nil
      | some inner =>
        have := Members.size_get? found
        readSlot inner
    let statement ← readStatement (inputAt strictKindKeys members) slot kind members
    return ⟨id, statement, next⟩
  | other => .error (.wrongType other .block)
termination_by 2 * value.size
decreasing_by
  all_goals
    simp only [Json.size]
    omega

/-- A statement socket: an array of blocks whose first one counts, a block, or null. -/
def readSlot (value : Json) : Except DecodeError Chain :=
  match value with
  | .null => .ok .nil
  | .array items =>
    match readNodes items with
    | .ok [] => .ok .nil
    | .ok (head :: _) => .ok head.toChain
    | .error _ => .error .notChain
  | .object members =>
    match readNode (.object members) with
    | .ok head => .ok head.toChain
    | .error _ => .error .notChain
  | _ => .error .notChain
termination_by 2 * value.size + 1
decreasing_by
  all_goals
    simp only [Json.size]
    omega

def readNodes (items : Json.Items) : Except DecodeError (List Node) :=
  match items with
  | .nil => .ok []
  | .cons head tail => do
    let node ← readNode head
    let rest ← readNodes tail
    return node :: rest
termination_by 2 * items.size
decreasing_by
  all_goals
    simp only [Json.Items.size]
    omega

end

end Marquee
