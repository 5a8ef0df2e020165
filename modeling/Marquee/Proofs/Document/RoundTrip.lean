import Marquee.Document.Reader
import Marquee.Proofs.Program.Reading

/-!
# Written documents are read back

The reader of documents goes through a block in other ways than the reader of single blocks: it
checks the inputs by their keys, reads the statement sockets before the fields, and follows the
links to later blocks itself. What is written passes its checks, so a document reads as itself.
-/

namespace Marquee

open Json (Members)

/-- The chain in the statement socket with a key. -/
def Statement.slotAt (statement : Statement) (key : String) : Chain :=
  match statement.parts.lookup key with
  | some (.slot chain) => chain
  | _ => .nil

private theorem Statement.slotAt_of_mem {statement : Statement} {key : String} {chain : Chain}
    (member : (key, Part.slot chain) ∈ statement.parts) : statement.slotAt key = chain := by
  have distinct := (statement.nodup_keys none .nil).of_cons.of_cons
  rw [List.map_append] at distinct
  rw [slotAt, lookup_of_mem (List.nodup_append.mp distinct).1 member]

private theorem Statement.mem_slotKeys {statement : Statement} {key : String} {chain : Chain}
    (member : (key, Part.slot chain) ∈ statement.parts) : key ∈ slotKeys := by
  cases statement with
  | value expression => exact absurd member (expression.slot_not_mem_parts key chain)
  | _ => grind [parts, slotKeys]

private theorem Expression.slotKey_not_mem_parts (expression : Expression) {key : String}
    (slotKey : key ∈ slotKeys) : key ∉ expression.parts.map Prod.fst := by
  cases expression <;> grind [parts, slotKeys]

private theorem Statement.part_of_slotKey {statement : Statement} {key : String} {part : Part}
    (slotKey : key ∈ slotKeys) (member : (key, part) ∈ statement.parts) :
    ∃ chain, part = .slot chain := by
  cases statement with
  | value expression =>
      exact absurd (List.mem_map.mpr ⟨(key, part), member, rfl⟩)
        (expression.slotKey_not_mem_parts slotKey)
  | _ => grind [parts, slotKeys]

/-- Under the key of a statement socket stands a chain or nothing. -/
theorem Statement.slot_or_absent (id : Option String) (statement : Statement) (next : Chain)
    {key : String} (slotKey : key ∈ slotKeys) :
    (key, Part.slot (statement.slotAt key)) ∈ statement.parts ∨
      statement.slotAt key = .nil ∧ key ∉ (statement.blockParts id next).map Prod.fst := by
  by_cases present : key ∈ statement.parts.map Prod.fst
  · obtain ⟨⟨name, part⟩, inside, rfl⟩ := List.mem_map.mp present
    obtain ⟨chain, rfl⟩ := Statement.part_of_slotKey slotKey inside
    rw [Statement.slotAt_of_mem inside]
    exact Or.inl inside
  · refine Or.inr ⟨?_, ?_⟩
    · have unfound : statement.parts.lookup key = none :=
        List.lookup_eq_none_iff.mpr fun entry inside =>
          bne_iff_ne.mpr fun same => present (List.mem_map.mpr ⟨entry, inside, same.symm⟩)
      rw [slotAt, unfound]
    · have others : ∀ name ∈ slotKeys, name ≠ "id" ∧ name ≠ "type" ∧ name ≠ "next" := by
        decide
      obtain ⟨notId, notType, notNext⟩ := others key slotKey
      simpa [blockParts, notId, notType, notNext] using present

/-- Only inputs stand under the keys of inputs, apart from the value of a number. -/
theorem Expression.part_of_inputKey {expression : Expression} {key : String} {part : Part}
    (inputKey : isInputKey expression.kind key) (member : (key, part) ∈ expression.parts) :
    (∃ held, part = .input held) ∨ ∃ value, part = .int value := by
  cases expression <;> grind [parts, kind, isInputKey]

private theorem Statement.part_of_inputKey {statement : Statement} {key : String} {part : Part}
    (inputKey : isInputKey statement.kind key) (member : (key, part) ∈ statement.parts) :
    (∃ held, part = .input held) ∨ ∃ value, part = .int value := by
  cases statement with
  | value expression => exact Expression.part_of_inputKey inputKey member
  | _ => grind [parts, kind, isInputKey]

/-- The keys that all blocks have. -/
def frameKeys : List String :=
  ["id", "type", "next"]

private theorem not_isInputKey (kind : Kind) {key : String} (frame : key ∈ frameKeys) :
    ¬ isInputKey kind key := by
  simp only [frameKeys, List.mem_cons, List.not_mem_nil, or_false] at frame
  rcases frame with rfl | rfl | rfl <;> exact Bool.false_ne_true

private theorem Expression.frame_or_part (id : Option String) (expression : Expression) :
    ∀ entry ∈ expression.blockParts id, entry.1 ∈ frameKeys ∨ entry ∈ expression.parts := by
  intro entry member
  rcases member with _ | ⟨_, _ | ⟨_, inside⟩⟩
  · exact Or.inl (.head _)
  · exact Or.inl (.tail _ (.head _))
  · exact Or.inr inside

private theorem Statement.frame_or_part (id : Option String) (statement : Statement)
    (next : Chain) :
    ∀ entry ∈ statement.blockParts id next, entry.1 ∈ frameKeys ∨ entry ∈ statement.parts := by
  intro entry member
  rcases member with _ | ⟨_, _ | ⟨_, inside⟩⟩
  · exact Or.inl (.head _)
  · exact Or.inl (.tail _ (.head _))
  · rcases List.mem_append.mp inside with part | last
    · exact Or.inr part
    · cases List.mem_singleton.mp last
      exact Or.inl (.tail _ (.tail _ (.head _)))

theorem checkInputs_of_mem {path : Path} {kind : Kind} {members : Members}
    (all : ∀ key value, (key, value) ∈ members.toList → isInputKey kind key →
      checkInput (path.step (.field key)) value = .ok ()) :
    checkInputs path kind members = .ok () := by
  match members with
  | .nil => rw [checkInputs]
  | .cons key value rest =>
      have others := checkInputs_of_mem fun name other member =>
        all name other (List.mem_cons_of_mem _ member)
      rw [checkInputs]
      split
      · next inputKey =>
          rw [all key value List.mem_cons_self inputKey]
          exact others
      · exact others

private theorem blockKind_of_type {members : Members} {kind : Kind}
    (found : members.get? "type" = some (.string kind.name)) (path : Path) :
    blockKind path members = .ok kind := by
  rw [blockKind, looseKindKeys, kindValue?_of_text found]
  dsimp only
  rw [namedKind, kind.ofName?_name]

private theorem claimedKind?_of_type {members : Members} {kind : Kind}
    (found : members.get? "type" = some (.string kind.name)) :
    claimedKind? members = some kind := by
  rw [claimedKind?, looseKindKeys, kindValue?_of_text found]
  exact kind.ofName?_name

section

variable (arrangement : Arrangement)

private theorem checkInputs_of_parts {parts inner : List (String × Part)} {kind : Kind}
    (path : Path) (split : ∀ entry ∈ parts, entry.1 ∈ frameKeys ∨ entry ∈ inner)
    (kinds : ∀ {key part}, isInputKey kind key → (key, part) ∈ inner →
      (∃ held, part = .input held) ∨ ∃ value, part = .int value)
    (checks : ∀ {key held}, (key, .input held) ∈ inner → ∀ place,
      checkInput place (arrangement.value held.toJson) = .ok ()) :
    checkInputs path kind (arrangement.write parts) = .ok () := by
  apply checkInputs_of_mem
  intro key value member inputKey
  obtain ⟨original, written, rfl⟩ := arrangement.mem_members member
  obtain ⟨part, present, rfl⟩ := mem_toList_writeParts written
  rcases split _ present with frame | inside
  · exact absurd inputKey (not_isInputKey kind frame)
  · rcases kinds inputKey inside with ⟨held, rfl⟩ | ⟨number, rfl⟩
    · exact checks inside _
    · rw [Part.toJson, Json.int, arrangement.value_number, checkInput]

private theorem Input.checkInput_toJson (input : Input) :
    ∀ path, checkInput path (arrangement.value input.toJson) = .ok () := by
  induction input using Input.partInduction with
  | empty =>
      intro path
      rw [Input.toJson, arrangement.value_null, checkInput]
  | number value =>
      intro path
      rw [Input.toJson, Json.int, arrangement.value_number, checkInput]
  | text written =>
      intro path
      rw [Input.toJson, arrangement.value_string, checkInput]
  | block id expression inductionHypothesis =>
      intro path
      have type := arrangement.get?_text (expression.nodup_keys id) (.tail _ (.head _))
      have checked := checkInputs_of_parts arrangement path (expression.frame_or_part id)
        (fun inputKey member => Expression.part_of_inputKey inputKey member)
        (fun member => inductionHypothesis _ _ member)
      rw [Input.toJson_block, arrangement.value_write, checkInput, claimedKind?_of_type type]
      dsimp only
      rw [if_pos expression.isValue_kind]
      exact checked

private theorem Statement.checkInputs_toJson (id : Option String) (statement : Statement)
    (next : Chain) (path : Path) :
    checkInputs path statement.kind (arrangement.write (statement.blockParts id next)) =
      .ok () := by
  apply checkInputs_of_parts arrangement path (statement.frame_or_part id next)
  · intro key part inputKey member
    exact Statement.part_of_inputKey inputKey member
  · intro key held member place
    exact held.checkInput_toJson arrangement place

end

/-! ## Blocks at places -/

/-- What is read from the statement socket with a key. -/
def slotReadAt (path : Path) (members : Members) (key : String) : Except LoadError Chain :=
  match members.get? key with
  | none => .ok .nil
  | some inner => readSlotAt (path.step (.field key)) inner

/-- What is read after a link to the block that follows, the `count`th from a place. -/
def followingAt (head : Path) (count : Nat) : Json → Except LoadError Chain
  | .null => .ok .nil
  | next => Node.toChain <$> readNodeAt head count next

/-- What is read of the blocks that follow. -/
def followingReadAt (head : Path) (count : Nat) (members : Members) : Except LoadError Chain :=
  match members.get? "next" with
  | none => .ok .nil
  | some next => followingAt head count next

private theorem slotReadAt_eq_found (path : Path) (members : Members) (key : String) :
    ((slotReadAt path members key).map fun chain => (key, chain)) =
      match _found : members.get? key with
      | none => .ok (key, .nil)
      | some inner =>
        (readSlotAt (path.step (.field key)) inner).map fun chain => (key, chain) := by
  rw [slotReadAt]
  generalize members.get? key = found
  cases found <;> rfl

theorem readNodeAt_object (head : Path) (count : Nat) (members : Members) :
    readNodeAt head count (.object members) = do
      let kind ← blockKind (head.after count) members
      checkInputs (head.after count) kind members
      let slots ← slotKeys.mapM fun key =>
        (slotReadAt (head.after count) members key).map fun chain => (key, chain)
      let (id, statement) ← atPlace (head.after count) (readBlock kind members slots)
      let next ← followingReadAt head (count + 1) members
      return ⟨id, statement, next⟩ := by
  have slots : (fun key => (slotReadAt (head.after count) members key).map
      fun chain => (key, chain)) = _ :=
    funext fun key => slotReadAt_eq_found (head.after count) members key
  rw [readNodeAt, slots]
  apply congrArg (bind _)
  funext kind
  apply congrArg (bind _)
  funext _
  apply congrArg (bind _)
  funext slots
  apply congrArg (bind _)
  funext block
  rw [followingReadAt]
  dsimp only
  split
  · next absent =>
      rw [absent]
      rfl
  · next found =>
      rw [found]
      rfl
  · next next notNull found =>
      rw [found]
      cases next with
      | null => exact absurd rfl notNull
      | _ => rfl

theorem mapM_ok {α β ε : Type} {read : α → Except ε β} {result : α → β} {items : List α}
    (reads : ∀ item ∈ items, read item = .ok (result item)) :
    items.mapM read = .ok (items.map result) := by
  induction items with
  | nil => rfl
  | cons first rest inductionHypothesis =>
      obtain ⟨here, others⟩ := List.forall_mem_cons.mp reads
      rw [List.mapM_cons, here, inductionHypothesis others]
      rfl

theorem slots_at {chainOf : String → Chain} {key : String} (slotKey : key ∈ slotKeys) :
    Slots.at (slotKeys.map fun name => (name, chainOf name)) key = chainOf key := by
  rw [Slots.at, List.lookup_graph chainOf slotKey]
  rfl

section

variable {members : Members} {key : String} {chain : Chain} {item : Json}

private theorem slotReadAt_of_get? (path : Path)
    (found : members.get? key = chain.head?.map fun _ => .array (.cons item .nil))
    (reads : ∀ node, chain.head? = some node → ∀ head count,
      readNodeAt head count item = .ok node) :
    slotReadAt path members key = .ok chain := by
  rw [slotReadAt, found]
  cases chain with
  | nil => rfl
  | link id statement next =>
      have first := reads _ rfl ((path.step (.field key)).step .first) 0
      dsimp only [Chain.head?, Option.map_some]
      rw [readSlotAt, first]
      rfl

private theorem followingReadAt_of_get? (head : Path) (count : Nat)
    (found : members.get? "next" = chain.head?.map fun _ => item)
    (reads : ∀ node, chain.head? = some node → ∀ head count,
      readNodeAt head count item = .ok node) :
    followingReadAt head count members = .ok chain := by
  rw [followingReadAt, found]
  cases chain with
  | nil => rfl
  | link id statement next =>
      have first := reads _ rfl head count
      cases item with
      | null =>
          rw [readNodeAt] at first
          · cases first
          · exact fun _ impossible => Json.noConfusion impossible
      | _ => exact congrArg (Functor.map Node.toChain) first

end

section

variable (arrangement : Arrangement)

/-- The fields of a block are read once its statement sockets are. -/
theorem readBlock_toJson (id : Option String) (statement : Statement) (next : Chain) :
    readBlock statement.kind (arrangement.write (statement.blockParts id next))
      (slotKeys.map fun key => (key, statement.slotAt key)) = .ok (id, statement) := by
  have distinct := statement.nodup_keys id next
  have sameId := readId_of_part arrangement (arrangement.get?_part distinct (.head _))
  have slots (key : String) (chain : Chain) (member : (key, .slot chain) ∈ statement.parts) :
      Except.ok (Slots.at (slotKeys.map fun name => (name, statement.slotAt name)) key) =
        (.ok chain : Except DecodeError Chain) := by
    rw [slots_at (Statement.mem_slotKeys member), Statement.slotAt_of_mem member]
  have reads := arrangement.reads_of_parts looseKindKeys _ distinct
    (fun part inside => Statement.mem_blockParts inside)
    (fun key held member => held.readInput_toJson arrangement ["kind"]) slots
  rw [readBlock, sameId]
  dsimp only [bind, Except.bind]
  rw [readStatement_of_reads statement reads]
  rfl

private theorem Chain.readNodeAt_toJson (chain : Chain) :
    ∀ node, chain.head? = some node → ∀ head count,
      readNodeAt head count (arrangement.value chain.toJson) = .ok node := by
  induction chain using Chain.socketInduction with
  | nil =>
      intro node first
      cases first
  | link id statement next inside after =>
      intro node first head count
      cases first
      have distinct := statement.nodup_keys id next
      have type := arrangement.get?_text distinct (.tail _ (.head _))
      have follows := followingReadAt_of_get? head (count + 1)
        (arrangement.get?_next distinct (statement.next_mem_blockParts id next)) after
      have slots : ∀ key ∈ slotKeys,
          ((slotReadAt (head.after count) (arrangement.write (statement.blockParts id next))
            key).map fun chain => (key, chain)) = .ok (key, statement.slotAt key) := by
        intro key slotKey
        rcases statement.slot_or_absent id next slotKey with member | ⟨empty, absent⟩
        · have found := arrangement.get?_slot distinct (Statement.mem_blockParts member)
          rw [slotReadAt_of_get? (head.after count) found (inside _ (Statement.mem_slots member))]
          rfl
        · rw [slotReadAt, arrangement.get?_absent distinct absent, empty]
          rfl
      rw [Chain.toJson_link, arrangement.value_write, readNodeAt_object,
        blockKind_of_type type]
      dsimp only [bind, Except.bind]
      rw [statement.checkInputs_toJson arrangement, mapM_ok slots]
      dsimp only
      rw [readBlock_toJson, atPlace]
      dsimp only
      rw [follows]
      rfl

private theorem Statement.error_absent (id : Option String) (statement : Statement) (next : Chain) :
    "error" ∉ (statement.blockParts id next).map Prod.fst := by
  cases statement with
  | value expression => cases expression <;> simp [blockParts, parts, Expression.parts]
  | _ => simp [blockParts, parts]

private theorem Document.ofJson_program (content : Program) :
    ofJson (arrangement.value content.toJson) = .ok (.program content) := by
  have absent := Statement.error_absent content.id (.start content.actions) content.next
  have unfound := arrangement.get?_absent (Statement.nodup_keys _ _ _) absent
  have read := content.root.toChain.readNodeAt_toJson arrangement content.root rfl .root 0
  change ofJson (arrangement.value content.root.toChain.toJson) = _
  rw [Node.toChain, Chain.toJson_link, arrangement.value_write] at read ⊢
  have noError : (arrangement.write (Statement.blockParts content.root.id content.root.statement
      content.root.next)).get? "error" = none := unfound
  rw [ofJson, noError, read]
  rfl

end

theorem Document.integral_toJson (document : Document) : document.toJson.Integral := by
  cases document with
  | program content => exact content.root.toChain.integral_toJson
  | noProgram reason => exact ⟨trivial, trivial⟩

theorem Document.ofJson_sorted (document : Document) :
    ofJson document.toJson.sorted = .ok document := by
  cases document with
  | program content => exact Document.ofJson_program .sorted content
  | noProgram reason => rfl

/-- What is written for a document, in either layout, is read as the document again, and what is
written for a node as the node. -/
theorem Document.parse_written :
    (∀ document : Document, Document.parse document.compact = .ok document ∧
      Document.parse document.pretty = .ok document) ∧
    ∀ node : Node, readNode node.toJson = .ok node ∧ readNode node.toJson.sorted = .ok node := by
  refine ⟨?_, ?_⟩
  · intro document
    have compact := Json.parse_compact document.integral_toJson
    have pretty := Json.parse_pretty document.integral_toJson
    refine ⟨?_, ?_⟩
    · rw [parse, Document.compact, compact]
      exact document.ofJson_sorted
    · rw [parse, Document.pretty, pretty]
      exact document.ofJson_sorted
  · intro node
    exact ⟨node.readNode_toJson .asWritten, node.readNode_toJson .sorted⟩

end Marquee
