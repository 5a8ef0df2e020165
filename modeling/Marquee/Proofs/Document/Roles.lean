import Marquee.Proofs.Document.RoundTrip
import Marquee.Proofs.Program.Entails

/-!
# The parts of a document

What a part of a document means is decided by its place: by the key that it stands under, and by the
kind of the block around it. A block is read part by part, so what it reads as is said by what its
parts read as.
-/

namespace Marquee

open Json (Members)

namespace Json.Members

theorem mem_toList_of_get? {members : Members} {key : String} {value : Json}
    (found : members.get? key = some value) : (key, value) ∈ members.toList := by
  cases members with
  | nil => cases found
  | cons name first rest =>
      rw [get?] at found
      split at found
      · next same =>
          cases found
          rw [same]
          exact List.mem_cons_self
      · exact List.mem_cons_of_mem _ (mem_toList_of_get? found)

theorem get?_of_mem_toList {members : Members} {key : String} {value : Json}
    (distinct : members.keys.Nodup) (member : (key, value) ∈ members.toList) :
    members.get? key = some value := by
  cases members with
  | nil => cases member
  | cons name first rest =>
      obtain ⟨fresh, others⟩ := List.nodup_cons.mp distinct
      rcases List.mem_cons.mp member with here | later
      · cases here
        exact if_pos rfl
      · have found := get?_of_mem_toList others later
        have different : name ≠ key := by
          rintro rfl
          cases (get?_eq_none fresh).symm.trans found
        rw [get?, if_neg different, found]

theorem size_of_mem_toList {members : Members} {key : String} {value : Json}
    (member : (key, value) ∈ members.toList) : value.size ≤ members.size := by
  cases members with
  | nil => cases member
  | cons name first rest =>
      rw [size]
      rcases List.mem_cons.mp member with here | later
      · cases here
        omega
      · have smaller := size_of_mem_toList later
        omega

theorem get?_erase (members : Members) (name other : String) :
    (members.erase name).get? other = if name = other then none else members.get? other := by
  cases members with
  | nil => exact (ite_self none).symm
  | cons key value rest =>
      have inductionHypothesis := get?_erase rest name other
      rw [erase]
      split
      · next same =>
          rw [inductionHypothesis, get?, same]
          split <;> rfl
      · next different =>
          rw [get?, get?, inductionHypothesis]
          by_cases found : key = other
          · have absent : name ≠ other := fun same => different (found.trans same.symm)
            rw [if_pos found, if_neg absent, if_pos found]
          · rw [if_neg found, if_neg found]

theorem mem_toList_erase {members : Members} {name : String} {entry : String × Json}
    (member : entry ∈ (members.erase name).toList) : entry ∈ members.toList := by
  cases members with
  | nil => exact member
  | cons key value rest =>
      rw [erase] at member
      split at member
      · exact List.mem_cons_of_mem _ (mem_toList_erase member)
      · rcases List.mem_cons.mp member with here | later
        · exact here ▸ List.mem_cons_self
        · exact List.mem_cons_of_mem _ (mem_toList_erase later)

end Json.Members

/-! ## Roles -/

/-- What stands somewhere in a document. -/
inductive Role where
  /-- A block with all that follows it. -/
  | block
  /-- What is in a statement socket. -/
  | slot
  /-- What is in a value socket. -/
  | input
  | id
  /-- Something that is never taken apart: a name, a literal, or what nobody reads. -/
  | plain
  deriving DecidableEq, Repr

/-- The roles of the objects that name a kind. -/
def Role.kinded : List Role :=
  [.block, .input]

/-- Whether a block of this kind has an input under a key. Inputs that the kind does not know count,
since they are checked all the same. -/
def Kind.takesInput (kind : Kind) (key : String) : Bool :=
  isInputKey kind key && !kind.fieldKeys.contains key

/-- What stands under a key of a block, or of a value block in a value socket, that names this
kind. -/
def Role.under (outer : Role) (kind : Option Kind) (key : String) : Role :=
  match outer with
  | .block =>
    if key = "id" then .id
    else if key = "next" then .block
    else if key ∈ slotKeys then .slot
    else if kind.any fun kind => kind.takesInput key then .input
    else .plain
  | .input =>
    if key = "id" then .id
    else if kind.any fun kind => kind.takesInput key then .input
    else .plain
  | _ => .plain

theorem Kind.takesInput_of_mem (kind : Kind) :
    ∀ key ∈ kind.inputKeys, kind.takesInput key = true := by
  cases kind <;> decide

theorem Kind.isInputKey_of_mem (kind : Kind) {key : String} (inputKey : key ∈ kind.inputKeys) :
    isInputKey kind key :=
  (Bool.and_eq_true_iff.mp (kind.takesInput_of_mem key inputKey)).1

theorem Kind.takesInput_of_not_mem {kind : Kind} {key : String} (inputKey : isInputKey kind key)
    (notLiteral : key ∉ kind.fieldKeys) : kind.takesInput key = true := by
  have other : kind.fieldKeys.contains key = false := by
    simpa using notLiteral
  rw [takesInput, inputKey, other]
  rfl

/-- The keys that never have an input. -/
theorem isInputKey_eq_false (kind : Kind) :
    ∀ key ∈ "id" :: "next" :: (slotKeys ++ looseKindKeys), isInputKey kind key = false := by
  cases kind <;> decide

theorem Role.under_id {outer : Role} (holds : outer ∈ kinded) (kind : Option Kind) :
    outer.under kind "id" = .id := by
  simp only [kinded, List.mem_cons, List.not_mem_nil, or_false] at holds
  rcases holds with rfl | rfl <;> rfl

theorem Role.under_slotKey (kind : Option Kind) {key : String} (slotKey : key ∈ slotKeys) :
    Role.under .block kind key = .slot := by
  have others : ∀ name ∈ slotKeys, name ≠ "id" ∧ name ≠ "next" := by decide
  obtain ⟨notId, notNext⟩ := others key slotKey
  rw [under, if_neg notId, if_neg notNext, if_pos slotKey]

theorem Role.under_inputKey {outer : Role} (holds : outer ∈ kinded) {kind : Kind} {key : String}
    (inputKey : kind.takesInput key) : outer.under (some kind) key = .input := by
  have taken : ((some kind).any fun kind => kind.takesInput key) = true := inputKey
  have input : isInputKey kind key = true := (Bool.and_eq_true_iff.mp inputKey).1
  have apart : ¬ (key = "id" ∨ key = "next" ∨ key ∈ slotKeys) := by
    intro found
    have listed : key ∈ "id" :: "next" :: (slotKeys ++ looseKindKeys) := by
      rcases found with rfl | rfl | slotKey
      · exact .head _
      · exact .tail _ (.head _)
      · exact .tail _ (.tail _ (List.mem_append_left _ slotKey))
    rw [isInputKey_eq_false kind key listed] at input
    cases input
  simp only [not_or] at apart
  obtain ⟨notId, notNext, notSlot⟩ := apart
  simp only [kinded, List.mem_cons, List.not_mem_nil, or_false] at holds
  rcases holds with rfl | rfl
  · rw [under, if_neg notId, if_neg notNext, if_neg notSlot, if_pos taken]
  · rw [under, if_neg notId, if_pos taken]

/-- Literals are never taken apart. -/
theorem Role.under_fieldKey (kind : Kind) :
    ∀ key ∈ kind.fieldKeys, ∀ outer ∈ kinded, ∀ claimed ∈ [some kind, none],
      outer.under claimed key = .plain := by
  cases kind <;> decide

/-- Without a kind there are no inputs. -/
theorem Role.under_none (kind : Kind) :
    ∀ key ∈ kind.inputKeys, ∀ outer ∈ kinded, outer.under none key = .plain := by
  cases kind <;> decide

theorem Kind.not_mem_looseKindKeys (kind : Kind) :
    (∀ key ∈ kind.fieldKeys, key ∉ looseKindKeys) ∧
      ∀ key ∈ kind.inputKeys, key ∉ looseKindKeys := by
  cases kind <;> decide

theorem Kind.isInputKey_of_kindKey (kind : Kind) :
    ∀ key ∈ looseKindKeys, isInputKey kind key = false :=
  fun key kindKey =>
    isInputKey_eq_false kind key (.tail _ (.tail _ (List.mem_append_right _ kindKey)))

theorem Kind.mem_slotKeys (kind : Kind) : ∀ key ∈ kind.chainKeys, key ∈ slotKeys := by
  cases kind <;> decide

/-- Kinds are never taken apart. -/
theorem Role.under_kindKey (outer : Role) (kind : Option Kind) :
    ∀ key ∈ looseKindKeys, outer.under kind key = .plain := by
  have untaken : ∀ key ∈ looseKindKeys, ∀ kind : Kind, kind.takesInput key = false := by
    intro key kindKey kind
    rw [Kind.takesInput, kind.isInputKey_of_kindKey key kindKey]
    rfl
  have none : ∀ key ∈ looseKindKeys, (kind.any fun kind => kind.takesInput key) = false := by
    intro key kindKey
    cases kind with
    | none => rfl
    | some kind => exact untaken key kindKey kind
  have others : ∀ key ∈ looseKindKeys, key ≠ "id" ∧ key ≠ "next" ∧ key ∉ slotKeys := by decide
  intro key kindKey
  obtain ⟨notId, notNext, notSlot⟩ := others key kindKey
  cases outer with
  | block =>
      rw [under, if_neg notId, if_neg notNext, if_neg notSlot, none key kindKey,
        if_neg Bool.false_ne_true]
  | input => rw [under, if_neg notId, none key kindKey, if_neg Bool.false_ne_true]
  | _ => rfl

/-- What is read of a part that may be absent. -/
def readOr {ε α : Type} (default : α) (read : Json → Except ε α) : Option Json → Except ε α
  | none => .ok default
  | some value => read value

theorem fieldOr_eq_readOr {α : Type} (default : α) (read : Json → Except DecodeError α)
    (key : String) (members : Members) :
    fieldOr default read key members = readOr default read (members.get? key) := rfl

theorem slotReadAt_eq_readOr (path : Path) (members : Members) (key : String) :
    slotReadAt path members key =
      readOr .nil (readSlotAt (path.step (.field key))) (members.get? key) := rfl

theorem followingReadAt_eq_readOr (head : Path) (count : Nat) (members : Members) :
    followingReadAt head count members =
      readOr .nil (followingAt head count) (members.get? "next") := rfl

theorem Entails.readOr {ε δ α : Type} {default : α} {read : Json → Except ε α}
    {reads : Json → Except δ α} {content : Option Json} {change : Json → Json}
    (inner : ∀ value, content = some value → Entails (read value) (reads (change value))) :
    Entails (readOr default read content) (readOr default reads (content.map change)) := by
  cases content with
  | none => exact .result default
  | some value => exact inner value rfl

theorem kindValue?_loose (members : Members) :
    kindValue? looseKindKeys members = (members.get? "type").or (members.get? "kind") := by
  rw [kindValue?, looseKindKeys, List.findSome?_cons, List.findSome?_cons, List.findSome?_nil]
  cases members.get? "type" with
  | some value => rfl
  | none => cases members.get? "kind" <;> rfl

private theorem claimedKind?_of_name {members : Members} {name : String}
    (named : kindValue? looseKindKeys members = some (.string name)) :
    claimedKind? members = Kind.ofName? name := by
  rw [claimedKind?, named]

theorem exists_name_of_claimedKind? {members : Members} {kind : Kind}
    (claimed : claimedKind? members = some kind) :
    kindValue? looseKindKeys members = some (.string kind.name) := by
  rw [claimedKind?] at claimed
  split at claimed
  · next name named => rw [named, Kind.name_of_ofName? claimed]
  · cases claimed

private theorem readName_find {kinds : List Kind} {name : String} {kind : Kind}
    {known : List String}
    (read : readName (fun name => kinds.find? fun kind => kind.name == name) known name =
      .ok kind) : kind.name = name := by
  rw [readName] at read
  split at read
  · next choice found =>
      cases read
      exact beq_iff_eq.mp (List.find?_some (p := fun kind : Kind => kind.name == name) found)
  · cases read

/-- A kind that is read from a text is the one that is claimed; where it is read from a number, none
is claimed. -/
theorem claimedKind?_of_readKind {kinds : List Kind} {members : Members} {kind : Kind}
    (read : readKind kinds (kindValue? looseKindKeys members) = .ok kind) :
    claimedKind? members = some kind ∨ claimedKind? members = none := by
  cases named : kindValue? looseKindKeys members with
  | none =>
      right
      rw [claimedKind?, named]
  | some value =>
      cases value with
      | string name =>
          left
          rw [named, readKind] at read
          rw [claimedKind?_of_name named, ← readName_find read]
          exact kind.ofName?_name
      | _ =>
          right
          rw [claimedKind?, named]

/-- Where a kind is claimed, no other one is read. -/
theorem eq_of_readKind {kinds : List Kind} {members : Members} {claimed kind : Kind}
    (claims : claimedKind? members = some claimed)
    (read : readKind kinds (kindValue? looseKindKeys members) = .ok kind) : kind = claimed := by
  rcases claimedKind?_of_readKind read with same | unclaimed
  · exact Option.some.inj (same.symm.trans claims)
  · cases unclaimed.symm.trans claims

theorem blockKind_eq_ok_iff {path : Path} {members : Members} {kind : Kind} :
    blockKind path members = .ok kind ↔ claimedKind? members = some kind := by
  rw [blockKind, claimedKind?]
  cases kindValue? looseKindKeys members with
  | none => exact iff_of_false (by rintro ⟨⟩) (by rintro ⟨⟩)
  | some value =>
      cases value with
      | string name =>
          dsimp only
          rw [namedKind]
          cases Kind.ofName? name with
          | none => exact iff_of_false (by rintro ⟨⟩) (by rintro ⟨⟩)
          | some known => exact Iff.of_eq (by rw [Except.ok.injEq, Option.some.injEq])
      | _ => exact iff_of_false (by rintro ⟨⟩) (by rintro ⟨⟩)

theorem checkInputs_eq_ok_iff {path : Path} {kind : Kind} {members : Members} :
    checkInputs path kind members = .ok () ↔
      ∀ key value, (key, value) ∈ members.toList → isInputKey kind key →
        checkInput (path.step (.field key)) value = .ok () := by
  refine ⟨?_, checkInputs_of_mem⟩
  intro checked key value member inputKey
  cases members with
  | nil => cases member
  | cons first held rest =>
      rw [checkInputs] at checked
      rcases List.mem_cons.mp member with here | later
      · cases here
        rw [if_pos inputKey] at checked
        split at checked
        · cases checked
        · next passed => exact passed
      · have others : checkInputs path kind rest = .ok () := by
          split at checked
          · split at checked
            · cases checked
            · exact checked
          · exact checked
        exact checkInputs_eq_ok_iff.mp others key value later inputKey

theorem checkInput_of_get? {path : Path} {kind : Kind} {members : Members} {key : String}
    {value : Json} (checked : checkInputs path kind members = .ok ())
    (inputKey : isInputKey kind key) (found : members.get? key = some value) :
    checkInput (path.step (.field key)) value = .ok () :=
  checkInputs_eq_ok_iff.mp checked key value (Members.mem_toList_of_get? found) inputKey

/-- A value block passes its check if its kind is one of a value and its inputs pass theirs. -/
theorem checkInput_object_eq_ok_iff {path : Path} {members : Members} :
    checkInput path (.object members) = .ok () ↔
      ∃ kind, claimedKind? members = some kind ∧ kind.isValue ∧
        checkInputs path kind members = .ok () := by
  rw [checkInput]
  cases claimed : claimedKind? members with
  | none =>
      apply iff_of_false
      · intro checked
        cases named : blockKind path members with
        | error error =>
            rw [named] at checked
            cases checked
        | ok kind =>
            rw [blockKind_eq_ok_iff, claimed] at named
            cases named
      · rintro ⟨kind, impossible, _⟩
        cases impossible
  | some kind =>
      dsimp only
      constructor
      · intro checked
        split at checked
        · next isValue => exact ⟨kind, rfl, isValue, checked⟩
        · cases checked
      · rintro ⟨other, same, isValue, checked⟩
        cases same
        rw [if_pos isValue]
        exact checked

/-! ## What a block reads as -/

/-- A block at a place is read as a node, part by part. -/
structure ReadsAs (head : Path) (count : Nat) (members : Members) (kind : Kind)
    (chainOf : String → Chain) (node : Node) : Prop where
  claimed : claimedKind? members = some kind
  checked : checkInputs (head.after count) kind members = .ok ()
  slots : ∀ key ∈ slotKeys, slotReadAt (head.after count) members key = .ok (chainOf key)
  id : readId members = .ok node.id
  statement : readStatement (inputAt looseKindKeys members) (fun key => .ok (chainOf key)) kind
    members = .ok node.statement
  next : followingReadAt head (count + 1) members = .ok node.next

private theorem exists_of_mapM {ε α β : Type} [Inhabited β] {read : α → Except ε β} {items : List α}
    {results : List (α × β)}
    (taken : (items.mapM fun item => (read item).map fun result => (item, result)) =
      .ok results) :
    ∃ resultOf : α → β, results = items.map (fun item => (item, resultOf item)) ∧
      ∀ item ∈ items, read item = .ok (resultOf item) := by
  refine ⟨fun item => (read item).toOption.getD default, ?_⟩
  induction items generalizing results with
  | nil =>
      cases taken
      exact ⟨rfl, List.forall_mem_nil _⟩
  | cons first rest inductionHypothesis =>
      rw [List.mapM_cons] at taken
      obtain ⟨pair, here, taken⟩ := exists_of_bind taken
      obtain ⟨pairs, later, taken⟩ := exists_of_bind taken
      cases taken
      obtain ⟨rfl, others⟩ := inductionHypothesis later
      cases reads : read first with
      | error error =>
          rw [reads] at here
          cases here
      | ok result =>
          rw [reads] at here
          cases here
          have same : (read first).toOption.getD default = result := by
            rw [reads]
            rfl
          subst same
          exact ⟨rfl, List.forall_mem_cons.mpr ⟨reads, others⟩⟩

private theorem atPlace_eq_ok_iff {α : Type} {path : Path} {read : Except DecodeError α}
    {result : α} :
    atPlace path read = .ok result ↔ read = .ok result := by
  cases read with
  | error error => exact iff_of_false (by rintro ⟨⟩) (by rintro ⟨⟩)
  | ok value => exact Iff.of_eq (by rw [atPlace, Except.ok.injEq, Except.ok.injEq])

/-- Only the chains in the statement sockets count. -/
theorem entails_of_slots {input : String → Except DecodeError Input}
    {slot slots : String → Except DecodeError Chain} {kind : Kind} {members : Members}
    (same : ∀ key ∈ slotKeys, slots key = slot key) :
    Entails (readStatement input slot kind members) (readStatement input slots kind members) := by
  refine entails_readStatement (fun _ _ => rfl) (fun _ _ => .refl _) ?_
  intro key chainKey
  rw [same key (kind.mem_slotKeys key chainKey)]
  exact .refl _

theorem readNodeAt_eq_ok_iff {head : Path} {count : Nat} {members : Members} {node : Node} :
    readNodeAt head count (.object members) = .ok node ↔
      ∃ kind chainOf, ReadsAs head count members kind chainOf node := by
  rw [readNodeAt_object]
  constructor
  · intro read
    obtain ⟨kind, named, read⟩ := exists_of_bind read
    obtain ⟨_, checked, read⟩ := exists_of_bind read
    obtain ⟨slots, taken, read⟩ := exists_of_bind read
    obtain ⟨⟨id, statement⟩, block, read⟩ := exists_of_bind read
    obtain ⟨next, follows, read⟩ := exists_of_bind read
    cases read
    obtain ⟨chainOf, rfl, slotReads⟩ := exists_of_mapM taken
    rw [atPlace_eq_ok_iff, readBlock] at block
    obtain ⟨name, identified, block⟩ := exists_of_bind block
    obtain ⟨content, stated, block⟩ := exists_of_bind block
    cases block
    have whole : readStatement (inputAt looseKindKeys members)
        (fun key => .ok (chainOf key)) kind members = .ok statement :=
      entails_of_slots (fun _ slotKey => congrArg Except.ok (slots_at slotKey).symm) _ stated
    exact ⟨kind, chainOf, blockKind_eq_ok_iff.mp named, checked, slotReads, identified, whole,
      follows⟩
  · rintro ⟨kind, chainOf, reads⟩
    have slots : ∀ key ∈ slotKeys,
        ((slotReadAt (head.after count) members key).map fun chain => (key, chain)) =
          .ok (key, chainOf key) := by
      intro key slotKey
      rw [reads.slots key slotKey]
      rfl
    have block : readBlock kind members (slotKeys.map fun key => (key, chainOf key)) =
        .ok (node.id, node.statement) := by
      have stated := entails_of_slots
        (fun _ slotKey => congrArg Except.ok (slots_at slotKey)) _ reads.statement
      rw [readBlock, reads.id]
      dsimp only [Bind.bind, Except.bind]
      rw [stated]
      rfl
    rw [blockKind_eq_ok_iff.mpr reads.claimed]
    dsimp only [Bind.bind, Except.bind]
    rw [reads.checked, mapM_ok slots]
    dsimp only
    rw [atPlace_eq_ok_iff.mpr block]
    dsimp only
    rw [reads.next]
    rfl

theorem exists_members_of_readNodeAt {head : Path} {count : Nat} {value : Json} {node : Node}
    (read : readNodeAt head count value = .ok node) : ∃ members, value = .object members := by
  cases value with
  | object members => exact ⟨members, rfl⟩
  | _ =>
      rw [readNodeAt] at read
      · cases read
      · rintro members ⟨⟩

theorem exists_of_readSlotAt_list {path : Path} {first : Json} {after : Json.Items}
    {chain : Chain} (read : readSlotAt path (.array (.cons first after)) = .ok chain) :
    ∃ node, readNodeAt (path.step .first) 0 first = .ok node ∧ node.toChain = chain := by
  rw [readSlotAt] at read
  exact exists_of_map read

theorem exists_of_readSlotAt_object {path : Path} {members : Members} {chain : Chain}
    (read : readSlotAt path (.object members) = .ok chain) :
    ∃ node, readNodeAt path 0 (.object members) = .ok node ∧ node.toChain = chain := by
  rw [readSlotAt] at read
  exact exists_of_map read

/-- A value block in a value socket is read part by part. -/
theorem readInput_object_eq_ok_iff {kindKeys : List String} {members : Members} {held : Input} :
    readInput kindKeys (.object members) = .ok held ↔
      ∃ id kind expression, readId members = .ok id ∧
        readKind valueKinds (kindValue? kindKeys members) = .ok kind ∧
        readExpression (inputAt kindKeys members) kind members = .ok expression ∧
        held = .block id expression := by
  rw [readInput_object]
  constructor
  · intro read
    split at read
    · next block taken =>
        cases read
        obtain ⟨id, identified, taken⟩ := exists_of_bind taken
        obtain ⟨kind, named, taken⟩ := exists_of_bind taken
        obtain ⟨expression, content, taken⟩ := exists_of_bind taken
        cases taken
        exact ⟨id, kind, expression, identified, named, content, rfl⟩
    · cases read
  · rintro ⟨id, kind, expression, identified, named, content, rfl⟩
    rw [identified, named]
    dsimp only [Bind.bind, Except.bind]
    rw [content]
    rfl

/-- The reason that a value gives for there being no program. -/
def reason? : Json → Option Json
  | .object members => members.get? "error"
  | _ => none

private theorem Node.eq_root_of_program? {node : Node} {content : Program}
    (started : node.program? = some content) : node = content.root := by
  obtain ⟨id, statement, next⟩ := node
  cases statement with
  | start actions =>
      cases started
      rfl
  | _ => cases started

namespace Document

variable {value : Json}

theorem ofJson_of_reason {reason : Json} (given : reason? value = some reason) :
    ofJson value = .ok (.noProgram (reasonText reason)) := by
  cases value with
  | object members =>
      have found : members.get? "error" = some reason := given
      rw [ofJson, found]
  | _ => cases given

theorem ofJson_of_no_reason (absent : reason? value = none) :
    ofJson value = (do
      let root ← readNodeAt .root 0 value
      match root.program? with
      | some content => return .program content
      | none => throw (.notStart root.kind)) := by
  cases value with
  | object members =>
      have unfound : members.get? "error" = none := absent
      rw [ofJson]
      split
      · next reason found => cases unfound.symm.trans found
      · rfl
  | _ => rfl

theorem ofJson_eq_program_iff {content : Program} :
    ofJson value = .ok (.program content) ↔
      reason? value = none ∧ readNodeAt .root 0 value = .ok content.root := by
  cases given : reason? value with
  | some reason =>
      rw [ofJson_of_reason given]
      apply iff_of_false
      · rintro ⟨⟩
      · rintro ⟨impossible, _⟩
        cases impossible
  | none =>
      rw [ofJson_of_no_reason given]
      constructor
      · intro accepted
        obtain ⟨root, read, accepted⟩ := exists_of_bind accepted
        split at accepted
        · next started =>
            cases accepted
            exact ⟨rfl, Node.eq_root_of_program? started ▸ read⟩
        · cases accepted
      · rintro ⟨_, read⟩
        rw [read]
        rfl

theorem ofJson_eq_noProgram_iff {text : String} :
    ofJson value = .ok (.noProgram text) ↔
      ∃ reason, reason? value = some reason ∧ reasonText reason = text := by
  cases given : reason? value with
  | some reason =>
      rw [ofJson_of_reason given]
      constructor
      · intro same
        cases same
        exact ⟨reason, rfl, rfl⟩
      · rintro ⟨_, same, rfl⟩
        cases same
        rfl
  | none =>
      rw [ofJson_of_no_reason given]
      apply iff_of_false
      · intro accepted
        obtain ⟨root, read, accepted⟩ := exists_of_bind accepted
        split at accepted <;> cases accepted
      · rintro ⟨reason, impossible, _⟩
        cases impossible

end Document

end Marquee
