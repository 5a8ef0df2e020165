import Marquee.Program.Decode
import Marquee.Proofs.Program.Parts
import Mathlib.Data.List.Basic

/-!
# Written blocks are read back

What is written for a node reads as the node again, in whatever order the members of its objects
stand: as they were written, or sorted as a reader of texts leaves them.
-/

namespace Marquee

open Json (Members)

/-- A way to order the members of all objects in a value. -/
structure Arrangement where
  value : Json → Json
  members : Members → Members
  value_null : value .null = .null
  value_number : ∀ number, value (.number number) = .number number
  value_string : ∀ text, value (.string text) = .string text
  value_singleton : ∀ item,
    value (.array (.cons item .nil)) = .array (.cons (value item) .nil)
  value_object : ∀ inner, value (.object inner) = .object (members inner)
  get?_members : ∀ {inner : Members}, inner.keys.Nodup → ∀ key,
    (members inner).get? key = (inner.get? key).map value
  mem_members : ∀ {inner : Members} {key item}, (key, item) ∈ (members inner).toList →
    ∃ original, (key, original) ∈ inner.toList ∧ item = value original

namespace Arrangement

def asWritten : Arrangement where
  value := id
  members := id
  value_null := rfl
  value_number _ := rfl
  value_string _ := rfl
  value_singleton _ := rfl
  value_object _ := rfl
  get?_members _ _ := Option.map_id'.symm
  mem_members member := ⟨_, member, rfl⟩

def sorted : Arrangement where
  value := Json.sorted
  members inner := inner.sortInto .nil
  value_null := rfl
  value_number _ := rfl
  value_string _ := rfl
  value_singleton _ := rfl
  value_object _ := rfl
  get?_members distinct key := by
    rw [Members.get?_sortInto _ _ distinct]
    exact Option.or_none
  mem_members member := by
    rcases Members.mem_toList_sortInto member with early | found
    · cases early
    · exact found

/-- The members of a block, as they are written and then arranged. -/
def write (arrangement : Arrangement) (parts : List (String × Part)) : Members :=
  arrangement.members (writeParts .nil parts)

section

variable (arrangement : Arrangement) {parts : List (String × Part)} {key : String}

theorem value_write (parts : List (String × Part)) :
    arrangement.value (.object (writeParts .nil parts)) = .object (arrangement.write parts) :=
  arrangement.value_object _

theorem get?_part (distinct : (parts.map Prod.fst).Nodup) {part : Part}
    (member : (key, part) ∈ parts) :
    (arrangement.write parts).get? key = part.toJson.present?.map arrangement.value := by
  rw [write, arrangement.get?_members ((keys_writeParts parts).nodup distinct),
    get?_writeParts distinct member]

theorem get?_absent (distinct : (parts.map Prod.fst).Nodup) (absent : key ∉ parts.map Prod.fst) :
    (arrangement.write parts).get? key = none := by
  rw [write, arrangement.get?_members ((keys_writeParts parts).nodup distinct),
    get?_writeParts_of_not_mem absent]
  rfl

theorem get?_slot (distinct : (parts.map Prod.fst).Nodup) {chain : Chain}
    (member : (key, .slot chain) ∈ parts) :
    (arrangement.write parts).get? key =
      chain.head?.map fun _ => .array (.cons (arrangement.value chain.toJson) .nil) := by
  rw [arrangement.get?_part distinct member]
  cases chain with
  | nil => rfl
  | link id statement next =>
      rw [Part.toJson, Chain.toJson_link]
      exact congrArg some (arrangement.value_singleton _)

theorem get?_next (distinct : (parts.map Prod.fst).Nodup) {chain : Chain}
    (member : (key, .next chain) ∈ parts) :
    (arrangement.write parts).get? key =
      chain.head?.map fun _ => arrangement.value chain.toJson := by
  rw [arrangement.get?_part distinct member]
  cases chain with
  | nil => rfl
  | link id statement next =>
      rw [Part.toJson, Chain.toJson_link]
      rfl

theorem get?_text (distinct : (parts.map Prod.fst).Nodup) {text : String}
    (member : (key, .text text) ∈ parts) :
    (arrangement.write parts).get? key = some (.string text) :=
  (arrangement.get?_part distinct member).trans (congrArg some (arrangement.value_string text))

private theorem get?_int (distinct : (parts.map Prod.fst).Nodup) {value : Int}
    (member : (key, .int value) ∈ parts) :
    (arrangement.write parts).get? key = some (.int value) :=
  (arrangement.get?_part distinct member).trans (congrArg some (arrangement.value_number _))

end

end Arrangement

section

variable {members : Members} {key : String}

private theorem fieldOr_some {α : Type} {read : Json → Except DecodeError α} {value : Json}
    {result : α}
    (found : members.get? key = some value) (reads : read value = .ok result) (default : α) :
    fieldOr default read key members = .ok result := by
  rw [fieldOr, found]
  exact reads

/-- The same, where the value is known to be the one under the key. -/
theorem fieldOr_eq_found {α : Type} (default : α) (read : Json → Except DecodeError α)
    (key : String) (members : Members) :
    fieldOr default read key members =
      match _found : members.get? key with
      | none => .ok default
      | some value => read value := by
  rw [fieldOr]
  generalize members.get? key = found
  cases found <;> rfl

theorem toInt64?_toInt (value : Int64) : toInt64? value.toInt = some value := by
  have low := value.le_toInt
  have high := value.toInt_lt
  have fits : -(signedLimit : Int) ≤ value.toInt ∧ value.toInt < (signedLimit : Int) := by
    simp only [signedLimit]
    omega
  rw [toInt64?, if_pos fits, Int64.ofInt_toInt]

private theorem readInt64_toInt (value : Int64) : readInt64 (.int value.toInt) = .ok value := by
  simp only [readInt64, readBounded, Json.int, toInt64?_toInt]

private theorem readUInt64_toNat (value : UInt64) : readUInt64 (.int value.toNat) = .ok value := by
  have small : value.toNat < longLimit := value.toNat_lt
  have nonnegative : ¬ (value.toNat : Int) < 0 := Int.not_lt.mpr (Int.natCast_nonneg _)
  simp only [readUInt64, readBounded, Json.int, nonnegative, if_false, Int.toNat_natCast,
    toUInt64?, small, if_true, UInt64.ofNat_toNat]

private theorem readByte_toNat (byte : UInt8) : readByte (.int byte.toNat) = .ok byte := by
  have small : byte.toNat < byteLimit := byte.toNat_lt
  have nonnegative : ¬ (byte.toNat : Int) < 0 := Int.not_lt.mpr (Int.natCast_nonneg _)
  simp only [readByte, readBounded, Json.int, nonnegative, if_false, Int.toNat_natCast,
    toByte?, small, if_true, UInt8.ofNat_toNat]

private theorem readChoice_name {α : Type} {ofName? : String → Option α} {name : String}
    {choice : α} (named : ofName? name = some choice) (known : List String) :
    readChoice ofName? known (.string name) = .ok choice := by
  rw [readChoice, readName, named]

private theorem readText_string (text : String) : readText (.string text) = .ok text := rfl

private theorem readRelation_name (relation : Relation) :
    readRelation (.string relation.name) = .ok relation :=
  readChoice_name relation.ofName?_name _

private theorem readLevel_name (level : Level) : readLevel (.string level.name) = .ok level :=
  readChoice_name level.ofName?_name _

private theorem readTrigger_name (trigger : Trigger) :
    readTrigger (.string trigger.name) = .ok trigger :=
  readChoice_name trigger.ofName?_name _

/-- A kind is read by its name in every vocabulary it is in. -/
theorem readKind_of_mem {kinds : List Kind} {kind : Kind} (member : kind ∈ kinds) :
    readKind kinds (some (.string kind.name)) = .ok kind := by
  rw [readKind, readName]
  cases found : kinds.find? fun other => other.name == kind.name with
  | none => exact absurd (beq_self_eq_true _) (List.find?_eq_none.mp found kind member)
  | some other =>
      have same : other.name = kind.name := by simpa using List.find?_some found
      rw [Kind.name_inj.mp same]

theorem readKind_all (kind : Kind) : readKind Kind.all (some (.string kind.name)) = .ok kind :=
  readKind_of_mem kind.mem_all

private theorem readKind_valueKinds (expression : Expression) :
    readKind valueKinds (some (.string expression.kind.name)) = .ok expression.kind :=
  readKind_of_mem ((mem_valueKinds _).mpr expression.isValue_kind)

end

/-! ## Fields by parts -/

/-- The members, and what is read of inputs and chains, are as the parts say. -/
structure Reads (members : Members) (input : String → Except DecodeError Input)
    (slot : String → Except DecodeError Chain) (parts : List (String × Part)) : Prop where
  text : ∀ {key text}, (key, .text text) ∈ parts → members.get? key = some (.string text)
  int : ∀ {key value}, (key, .int value) ∈ parts → members.get? key = some (.int value)
  input : ∀ {key held}, (key, .input held) ∈ parts → input key = .ok held
  slot : ∀ {key chain}, (key, .slot chain) ∈ parts → slot key = .ok chain

section

variable {members : Members} {input : String → Except DecodeError Input}
  {slot : String → Except DecodeError Chain}

private theorem readExpression_of_reads (expression : Expression)
    (reads : Reads members input slot expression.parts) :
    readExpression input expression.kind members = .ok expression := by
  match expression with
  | .number value =>
      have only := fieldOr_some (reads.int (.head _)) (readInt64_toInt value) 0
      rw [Expression.kind, readExpression, only]
      rfl
  | .randomRange min max =>
      have low := fieldOr_some (reads.int (.head _)) (readInt64_toInt min) defaultRandomMin
      have high := fieldOr_some (reads.int (.tail _ (.head _))) (readInt64_toInt max)
        defaultRandomMax
      rw [Expression.kind, readExpression, low, high]
      rfl
  | .getVariable name =>
      have only := fieldOr_some (reads.text (.head _)) (readText_string name) defaultVariable
      rw [Expression.kind, readExpression, only]
      rfl
  | .compare left relation right =>
      have first := reads.input (.head _)
      have operator := fieldOr_some (reads.text (.tail _ (.head _))) (readRelation_name relation)
        .eq
      have second := reads.input (.tail _ (.tail _ (.head _)))
      rw [Expression.kind, readExpression, first, operator, second]
      rfl
  | .colorValue color =>
      have only := fieldOr_some (reads.text (.head _)) (readText_string color) defaultColor
      rw [Expression.kind, readExpression, only]
      rfl
  | .customColor color =>
      have only := fieldOr_some (reads.text (.head _)) (readText_string color) defaultColor
      rw [Expression.kind, readExpression, only]
      rfl
  | .rgbColor color =>
      have red := fieldOr_some (reads.int (.head _)) (readByte_toNat color.red) 0
      have green := fieldOr_some (reads.int (.tail _ (.head _))) (readByte_toNat color.green) 0
      have blue := fieldOr_some (reads.int (.tail _ (.tail _ (.head _))))
        (readByte_toNat color.blue) 0
      rw [Expression.kind, readExpression, blue, green, red]
      rfl

private theorem readStatement_value (expression : Expression) :
    readStatement input slot expression.kind members =
      .value <$> readExpression input expression.kind members := by
  cases expression <;> exact (map_eq_pure_bind _ _).symm

theorem readStatement_of_reads (statement : Statement)
    (reads : Reads members input slot statement.parts) :
    readStatement input slot statement.kind members = .ok statement := by
  match statement with
  | .start actions =>
      rw [Statement.kind, readStatement, reads.slot (.head _)]
      rfl
  | .displayImage filename =>
      have only := fieldOr_some (reads.text (.head _)) (readText_string filename) defaultFilename
      rw [Statement.kind, readStatement, only]
      rfl
  | .playAnimation folder playFor =>
      have first := fieldOr_some (reads.text (.head _)) (readText_string folder) defaultFolder
      have second := fieldOr_some (reads.int (.tail _ (.head _))) (readUInt64_toNat playFor)
        defaultPlayFor
      rw [Statement.kind, readStatement, first, second]
      rfl
  | .wait time =>
      rw [Statement.kind, readStatement, reads.input (.head _)]
      rfl
  | .branch condition whenTrue whenFalse =>
      have test := reads.input (.head _)
      have first := reads.slot (.tail _ (.head _))
      have second := reads.slot (.tail _ (.tail _ (.head _)))
      rw [Statement.kind, readStatement, test, second, first]
      rfl
  | .setVariable name new =>
      have first := fieldOr_some (reads.text (.head _)) (readText_string name) defaultVariable
      have second := reads.input (.tail _ (.head _))
      rw [Statement.kind, readStatement, second, first]
      rfl
  | .forever body =>
      rw [Statement.kind, readStatement, reads.slot (.head _)]
      rfl
  | .repeatLoop times body =>
      have count := reads.input (.head _)
      have inner := reads.slot (.tail _ (.head _))
      rw [Statement.kind, readStatement, inner, count]
      rfl
  | .whileLoop condition body =>
      have test := reads.input (.head _)
      have inner := reads.slot (.tail _ (.head _))
      rw [Statement.kind, readStatement, test, inner]
      rfl
  | .breakLoop => rfl
  | .gpio pin level =>
      have first := fieldOr_some (reads.int (.head _)) (readByte_toNat pin) 0
      have second := fieldOr_some (reads.text (.tail _ (.head _))) (readLevel_name level) .high
      rw [Statement.kind, readStatement, first, second]
      rfl
  | .gpioBranch pin level whenTrue whenFalse =>
      have first := fieldOr_some (reads.int (.head _)) (readByte_toNat pin) 0
      have second := fieldOr_some (reads.text (.tail _ (.head _))) (readLevel_name level) .high
      have third := reads.slot (.tail _ (.tail _ (.head _)))
      have fourth := reads.slot (.tail _ (.tail _ (.tail _ (.head _))))
      rw [Statement.kind, readStatement, fourth, first, second, third]
      rfl
  | .gpioTrigger pin trigger actions =>
      have first := fieldOr_some (reads.int (.head _)) (readByte_toNat pin) 0
      have second := fieldOr_some (reads.text (.tail _ (.head _))) (readTrigger_name trigger)
        .rising
      have third := reads.slot (.tail _ (.tail _ (.head _)))
      rw [Statement.kind, readStatement, third, first, second]
      rfl
  | .setColor color =>
      rw [Statement.kind, readStatement, reads.input (.head _)]
      rfl
  | .value expression =>
      rw [Statement.kind, readStatement_value, readExpression_of_reads expression reads]
      rfl

end

theorem readInput_object (kindKeys : List String) (members : Members) :
    readInput kindKeys (.object members) =
      match (do
        let id ← readId members
        let kind ← readKind valueKinds (kindValue? kindKeys members)
        return Input.block id (← readExpression (inputAt kindKeys members) kind members)) with
      | .ok block => .ok block
      | .error _ => .error .notInput := by
  have inputs : inputAt kindKeys members = _ :=
    funext fun key => fieldOr_eq_found Input.empty (readInput kindKeys) key members
  rw [readInput]
  exact inputs ▸ rfl

section

variable (arrangement : Arrangement)

private theorem inputAt_of_part {members : Members} {kindKeys : List String} {key : String}
    {held : Input} (found : members.get? key = held.toJson.present?.map arrangement.value)
    (reads : readInput kindKeys (arrangement.value held.toJson) = .ok held) :
    inputAt kindKeys members key = .ok held := by
  rw [inputAt, fieldOr, found]
  cases held with
  | empty => rfl
  | number _ => exact reads
  | text _ => exact reads
  | block _ _ => exact reads

theorem readId_of_part {members : Members} {id : Option String}
    (found : members.get? "id" = (Part.id id).toJson.present?.map arrangement.value) :
    readId members = .ok id := by
  rw [readId, found]
  cases id with
  | none => rfl
  | some name =>
      simp only [Part.toJson, Json.present?, Option.map_some, arrangement.value_string]
      rfl

theorem kindValue?_of_text {members : Members} {kindKeys : List String} {name : String}
    (found : members.get? "type" = some (.string name)) :
    kindValue? ("type" :: kindKeys) members = some (.string name) := by
  rw [kindValue?, List.findSome?_cons, found]

/-- The parts among those that are written can be read. -/
theorem Arrangement.reads_of_parts {parts inner : List (String × Part)} (kindKeys : List String)
    (slot : String → Except DecodeError Chain) (distinct : (parts.map Prod.fst).Nodup)
    (inside : ∀ part ∈ inner, part ∈ parts)
    (inputs : ∀ key held, (key, .input held) ∈ inner →
      readInput kindKeys (arrangement.value held.toJson) = .ok held)
    (slots : ∀ key chain, (key, .slot chain) ∈ inner → slot key = .ok chain) :
    Reads (arrangement.write parts) (inputAt kindKeys (arrangement.write parts)) slot inner := by
  refine ⟨?_, ?_, ?_, ?_⟩
  · intro key text member
    exact arrangement.get?_text distinct (inside _ member)
  · intro key value member
    exact arrangement.get?_int distinct (inside _ member)
  · intro key held member
    exact inputAt_of_part arrangement (arrangement.get?_part distinct (inside _ member))
      (inputs key held member)
  · intro key chain member
    exact slots key chain member

theorem Input.readInput_toJson (input : Input) (kindKeys : List String) :
    readInput ("type" :: kindKeys) (arrangement.value input.toJson) = .ok input := by
  induction input using Input.partInduction with
  | empty => rw [Input.toJson, arrangement.value_null, readInput]
  | number value =>
      rw [Input.toJson, Json.int, arrangement.value_number, readInput, toInt64?_toInt]
  | text written => rw [Input.toJson, arrangement.value_string, readInput]
  | block id expression inductionHypothesis =>
      have distinct := expression.nodup_keys id
      have sameId := readId_of_part arrangement (arrangement.get?_part distinct (.head _))
      have type := arrangement.get?_text distinct (.tail _ (.head _))
      have reads := arrangement.reads_of_parts ("type" :: kindKeys) (fun _ => .ok .nil) distinct
        (fun part inside => List.mem_cons_of_mem _ (List.mem_cons_of_mem _ inside))
        inductionHypothesis
        (fun key chain member => absurd member (expression.slot_not_mem_parts key chain))
      rw [Input.toJson_block, arrangement.value_write, readInput_object, sameId,
        kindValue?_of_text type, readKind_valueKinds]
      dsimp only [bind, Except.bind]
      rw [readExpression_of_reads expression reads]
      rfl

end

/-- What follows a block that is read by itself. -/
def readFollowing : Json → Except DecodeError Chain
  | .null => .ok .nil
  | next => Node.toChain <$> readNode next

theorem readNode_object (members : Members) :
    readNode (.object members) = do
      let id ← readId members
      let next ← fieldOr .nil readFollowing "next" members
      let kind ← readKind Kind.all (kindValue? strictKindKeys members)
      let statement ← readStatement (inputAt strictKindKeys members)
        (fun key => fieldOr .nil readSlot key members) kind members
      return ⟨id, statement, next⟩ := by
  have slots : (fun key => fieldOr .nil readSlot key members) = _ :=
    funext fun key => fieldOr_eq_found .nil readSlot key members
  rw [readNode, slots]
  apply congrArg (bind (readId members))
  funext id
  rw [fieldOr]
  dsimp only
  split
  · next absent =>
      rw [absent]
      rfl
  · next found =>
      rw [found]
      rfl
  · next next notNull found =>
      rw [found]
      cases next with
      | null => exact absurd rfl notNull
      | _ => rfl

section

variable {members : Members} {key : String} {chain : Chain} {item : Json}

private theorem slotAt_of_get?
    (found : members.get? key = chain.head?.map fun _ => .array (.cons item .nil))
    (reads : ∀ node, chain.head? = some node → readNode item = .ok node) :
    fieldOr .nil readSlot key members = .ok chain := by
  rw [fieldOr, found]
  cases chain with
  | nil => rfl
  | link id statement next =>
      have head := reads _ rfl
      dsimp only [Chain.head?, Option.map_some]
      rw [readSlot, readNodes, head, readNodes]
      rfl

private theorem following_of_get? (found : members.get? "next" = chain.head?.map fun _ => item)
    (reads : ∀ node, chain.head? = some node → readNode item = .ok node) :
    fieldOr .nil readFollowing "next" members = .ok chain := by
  rw [fieldOr, found]
  cases chain with
  | nil => rfl
  | link id statement next =>
      have head := reads _ rfl
      cases item with
      | null =>
          rw [readNode] at head
          · cases head
          · exact fun _ impossible => Json.noConfusion impossible
      | _ => exact congrArg (Functor.map Node.toChain) head

end

section

variable (arrangement : Arrangement)

theorem Statement.mem_blockParts {id : Option String} {statement : Statement} {next : Chain}
    {part : String × Part} (member : part ∈ statement.parts) :
    part ∈ statement.blockParts id next :=
  .tail _ (.tail _ (List.mem_append_left _ member))

theorem Statement.next_mem_blockParts (id : Option String) (statement : Statement)
    (next : Chain) : ("next", .next next) ∈ statement.blockParts id next :=
  .tail _ (.tail _ (List.mem_append_right _ (List.mem_singleton_self _)))

private theorem Chain.readNode_toJson (chain : Chain) :
    ∀ node, chain.head? = some node → readNode (arrangement.value chain.toJson) = .ok node := by
  induction chain using Chain.socketInduction with
  | nil =>
      intro node head
      cases head
  | link id statement next inside after =>
      intro node head
      cases head
      have distinct := statement.nodup_keys id next
      have sameId := readId_of_part arrangement (arrangement.get?_part distinct (.head _))
      have type := arrangement.get?_text distinct (.tail _ (.head _))
      have follows := following_of_get?
        (arrangement.get?_next distinct (statement.next_mem_blockParts id next)) after
      have reads := arrangement.reads_of_parts strictKindKeys _ distinct
        (fun part inside => Statement.mem_blockParts inside)
        (fun key held member => held.readInput_toJson arrangement [])
        (fun key chain member => slotAt_of_get?
          (arrangement.get?_slot distinct (Statement.mem_blockParts member))
          (inside chain (Statement.mem_slots member)))
      rw [Chain.toJson_link, arrangement.value_write, readNode_object, sameId, follows,
        strictKindKeys, kindValue?_of_text type, readKind_all]
      dsimp only [bind, Except.bind]
      rw [← strictKindKeys, readStatement_of_reads statement reads]
      rfl

/-- What is written for a node reads as the node. -/
theorem Node.readNode_toJson (node : Node) :
    readNode (arrangement.value node.toJson) = .ok node :=
  node.toChain.readNode_toJson arrangement node rfl

end

end Marquee
