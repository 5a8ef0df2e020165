import Marquee.Proofs.Document.Roles
import Mathlib.Logic.Relation

/-!
# Respelled documents

The same document can be written in many ways. A kind may stand under either of its keys, what comes
after the first block of a list does not count, a block may stand for the list of it, and what is
blank may be left out. However often a document is respelled, and however deep, it reads the same.
-/

namespace Marquee

open Json (Members)

/-- Puts something under a key, or leaves nothing there. -/
def Json.Members.put (members : Members) (key : String) : Option Json → Members
  | some value => members.insert key value
  | none => members.erase key

/-- What stands for nothing. -/
def Role.blanks : Role → List (Option Json)
  | .block | .input | .id => [none, some .null]
  | .slot => [none, some .null, some (.array .nil)]
  | .plain => []

/-- One other spelling of what stands somewhere, or is absent there. -/
inductive Respells : Role → Option Json → Option Json → Prop where
  /-- A kind moves from the one key to the other. -/
  | underKind {role : Role} {members : Members} {name : Json} (kinded : role ∈ Role.kinded)
      (named : members.get? "type" = some name) (free : members.get? "kind" = none) :
      Respells role (some (.object members))
        (some (.object ((members.erase "type").insert "kind" name)))
  | underType {role : Role} {members : Members} {name : Json} (kinded : role ∈ Role.kinded)
      (named : members.get? "kind" = some name) (free : members.get? "type" = none) :
      Respells role (some (.object members))
        (some (.object ((members.erase "kind").insert "type" name)))
  /-- What stands for nothing does so in another way. -/
  | blank {role : Role} {former latter : Option Json} (blankBefore : former ∈ role.blanks)
      (blankAfter : latter ∈ role.blanks) : Respells role former latter
  /-- What comes after the first block of a list may be anything. -/
  | rest (first : Json) (after others : Json.Items) :
      Respells .slot (some (.array (.cons first after))) (some (.array (.cons first others)))
  /-- The first block stands for the list. -/
  | bare (first : Json) (after : Json.Items) :
      Respells .slot (some (.array (.cons first after))) (some first)
  | inList {first latter : Json} (after : Json.Items)
      (inner : Respells .block (some first) (some latter)) :
      Respells .slot (some (.array (.cons first after))) (some (.array (.cons latter after)))
  | inSlot {members : Members} {latter : Json}
      (inner : Respells .block (some (.object members)) (some latter)) :
      Respells .slot (some (.object members)) (some latter)
  /-- What stands under a key of a block, or of a value block, is spelled otherwise. -/
  | inside {role : Role} {members : Members} {key : String} {latter : Option Json}
      (kinded : role ∈ Role.kinded)
      (inner : Respells (role.under (claimedKind? members) key) (members.get? key) latter) :
      Respells role (some (.object members)) (some (.object (members.put key latter)))

/-- The same, where what stands under the key is known. -/
theorem Respells.under {role inner : Role} {members others : Members} (key : String)
    {former latter : Option Json} (respells : Respells inner former latter)
    (kinded : role ∈ Role.kinded)
    (standing : role.under (claimedKind? members) key = inner)
    (held : members.get? key = former) (put : members.put key latter = others) :
    Respells role (some (.object members)) (some (.object others)) := by
  subst standing held put
  exact .inside kinded respells

/-- Respelled any number of times. -/
def Json.Respelled : Json → Json → Prop :=
  Relation.ReflTransGen fun former latter => Respells .block (some former) (some latter)

namespace Json.Members

theorem get?_put (members : Members) (key other : String) (content : Option Json) :
    (members.put key content).get? other = if key = other then content else members.get? other := by
  cases content with
  | none => exact get?_erase members key other
  | some value => exact get?_insert members key other value

theorem mem_toList_put {members : Members} {key : String} {content : Option Json}
    {entry : String × Json} (member : entry ∈ (members.put key content).toList) :
    (key = entry.1 ∧ content = some entry.2) ∨ entry ∈ members.toList := by
  cases content with
  | none => exact .inr (mem_toList_erase member)
  | some value =>
      rcases mem_toList_insert member with rfl | old
      · exact .inl ⟨rfl, rfl⟩
      · exact .inr old

end Json.Members

/-! ## What is kept -/

/-- What is read of an id. -/
def readIdOf : Option Json → Except DecodeError (Option String)
  | none => .ok none
  | some .null => .ok none
  | some value => some <$> readText value

/-- Whatever one spelling is read as, the other is read as too, wherever the two stand. -/
def Role.Keeps : Role → Option Json → Option Json → Prop
  | .block, former, latter => ∀ head count place number,
      Entails (readOr .nil (followingAt head count) former)
        (readOr .nil (followingAt place number) latter)
  | .slot, former, latter => ∀ path place,
      Entails (readOr .nil (readSlotAt path) former) (readOr .nil (readSlotAt place) latter)
  | .input, former, latter => ∀ path, readOr () (checkInput path) former = .ok () →
      (∀ place, readOr () (checkInput place) latter = .ok ()) ∧
        Entails (readOr .empty (readInput looseKindKeys) former)
          (readOr .empty (readInput looseKindKeys) latter)
  | .id, former, latter => readIdOf former = readIdOf latter
  | .plain, former, latter => former = latter

/-- The parts of a block or of a value block are kept, each in its role. -/
structure Role.KeepsParts (outer : Role) (members others : Members) : Prop where
  kind : kindValue? looseKindKeys others = kindValue? looseKindKeys members
  parts : ∀ key ∉ looseKindKeys, (outer.under (claimedKind? members) key).Keeps
    (members.get? key) (others.get? key)
  entries : ∀ entry ∈ others.toList,
    entry ∈ members.toList ∨ others.get? entry.1 = some entry.2

/-- The place of an input does not matter for its check. -/
theorem checkInput_anywhere : ∀ (value : Json) (path place : Path),
    checkInput path value = .ok () → checkInput place value = .ok ()
  | .object members, _, _, checked => by
      obtain ⟨kind, claimed, isValue, inner⟩ := checkInput_object_eq_ok_iff.mp checked
      refine checkInput_object_eq_ok_iff.mpr ⟨kind, claimed, isValue, checkInputs_of_mem ?_⟩
      intro key held member inputKey
      have smaller := Members.size_of_mem_toList member
      exact checkInput_anywhere held _ _ (checkInputs_eq_ok_iff.mp inner key held member inputKey)
  | .null, _, _, _ | .string _, _, _, _ | .number (.int _), _, _, _ => rfl
  | .number (.float _), _, _, checked | .bool _, _, _, checked | .array _, _, _, checked => by
      cases checked
termination_by value => value.size
decreasing_by
  simp only [Json.size]
  omega

private theorem checkInput_of_checkInputs {path : Path} {kind : Kind} {members : Members}
    {key : String}
    (checked : checkInputs path kind members = .ok ()) (inputKey : isInputKey kind key) :
    readOr () (checkInput (path.step (.field key))) (members.get? key) = .ok () := by
  cases found : members.get? key with
  | none => rfl
  | some value => exact checkInput_of_get? checked inputKey found

namespace Role.KeepsParts

variable {outer : Role} {members others : Members} {kind : Kind}

theorem claimed (keeps : outer.KeepsParts members others) :
    claimedKind? others = claimedKind? members := by
  rw [claimedKind?, claimedKind?, keeps.kind]

theorem id (keeps : outer.KeepsParts members others) (holds : outer ∈ kinded) :
    readId others = readId members := by
  have kept := keeps.parts "id" (by decide)
  rw [under_id holds] at kept
  exact kept.symm

theorem fields (keeps : outer.KeepsParts members others) (holds : outer ∈ kinded)
    (claims : claimedKind? members = some kind) :
    ∀ key ∈ kind.fieldKeys, others.get? key = members.get? key := by
  intro key fieldKey
  have kept := keeps.parts key (kind.not_mem_looseKindKeys.1 key fieldKey)
  rw [claims, under_fieldKey kind key fieldKey outer holds _ (.head _)] at kept
  exact kept.symm

/-- Inputs that passed their check pass it in the other spelling. -/
theorem checked (keeps : outer.KeepsParts members others) (holds : outer ∈ kinded)
    (claims : claimedKind? members = some kind) {path : Path}
    (passed : checkInputs path kind members = .ok ()) (place : Path) :
    checkInputs place kind others = .ok () := by
  apply checkInputs_of_mem
  intro key value member inputKey
  have old (present : (key, value) ∈ members.toList) :
      checkInput (place.step (.field key)) value = .ok () :=
    checkInput_anywhere value _ _ (checkInputs_eq_ok_iff.mp passed key value present inputKey)
  rcases keeps.entries _ member with present | found
  · exact old present
  · by_cases literal : key ∈ kind.fieldKeys
    · -- The value of a number stands under the key of an input, and is checked as if it were one.
      have same := keeps.fields holds claims key literal
      exact old (Members.mem_toList_of_get? (same.symm.trans found))
    · have other : key ∉ looseKindKeys := by
        intro kindKey
        rw [kind.isInputKey_of_kindKey key kindKey] at inputKey
        cases inputKey
      have taken := Kind.takesInput_of_not_mem inputKey literal
      have kept := keeps.parts key other
      rw [claims, under_inputKey holds taken] at kept
      have after := (kept _ (checkInput_of_checkInputs passed inputKey)).1
      rw [found] at after
      exact after _

theorem inputs (keeps : outer.KeepsParts members others) (holds : outer ∈ kinded)
    (claims : claimedKind? members = some kind) {path : Path}
    (passed : checkInputs path kind members = .ok ()) :
    ∀ key ∈ kind.inputKeys,
      Entails (inputAt looseKindKeys members key) (inputAt looseKindKeys others key) := by
  intro key inputKey
  have taken := kind.takesInput_of_mem key inputKey
  have kept := keeps.parts key (kind.not_mem_looseKindKeys.2 key inputKey)
  rw [claims, under_inputKey holds taken] at kept
  exact (kept _ (checkInput_of_checkInputs passed (kind.isInputKey_of_mem inputKey))).2

/-- A block whose parts are kept is read as the same node. -/
theorem readNodeAt (keeps : block.KeepsParts members others) (head : Path) (count : Nat)
    (place : Path) (number : Nat) :
    Entails (readNodeAt head count (.object members))
      (readNodeAt place number (.object others)) := by
  intro node read
  obtain ⟨kind, chainOf, reads⟩ := readNodeAt_eq_ok_iff.mp read
  have holds : block ∈ kinded := .head _
  refine readNodeAt_eq_ok_iff.mpr ⟨kind, chainOf, ?_, ?_, ?_, ?_, ?_, ?_⟩
  · exact keeps.claimed.trans reads.claimed
  · exact keeps.checked holds reads.claimed reads.checked _
  · intro key slotKey
    have other : ∀ name ∈ slotKeys, name ∉ looseKindKeys := by decide
    have kept := keeps.parts key (other key slotKey)
    rw [under_slotKey _ slotKey] at kept
    exact kept _ _ _ (reads.slots key slotKey)
  · exact (keeps.id holds).trans reads.id
  · exact entails_readStatement (keeps.fields holds reads.claimed)
      (keeps.inputs holds reads.claimed reads.checked) (fun _ _ => .refl _) _ reads.statement
  · exact keeps.parts "next" (by decide) _ _ _ _ _ reads.next

/-- A value block whose parts are kept is read as the same input. -/
theorem input (keeps : Role.input.KeepsParts members others) :
    Role.input.Keeps (some (.object members)) (some (.object others)) := by
  have holds : Role.input ∈ kinded := .tail _ (.head _)
  intro path passed
  obtain ⟨kind, claims, isValue, inner⟩ := checkInput_object_eq_ok_iff.mp passed
  refine ⟨?_, ?_⟩
  · intro place
    exact checkInput_object_eq_ok_iff.mpr
      ⟨kind, keeps.claimed.trans claims, isValue, keeps.checked holds claims inner place⟩
  · intro held read
    obtain ⟨id, known, expression, identified, named, content, same⟩ :=
      readInput_object_eq_ok_iff.mp read
    obtain rfl := eq_of_readKind claims named
    rw [← keeps.id holds] at identified
    rw [← keeps.kind] at named
    have stated := entails_readExpression (keeps.fields holds claims)
      (keeps.inputs holds claims inner) _ content
    exact readInput_object_eq_ok_iff.mpr ⟨id, known, expression, identified, named, stated, same⟩

end Role.KeepsParts

private theorem Node.toChain_injective : Function.Injective Node.toChain := by
  rintro ⟨id, statement, next⟩ ⟨others, other, after⟩ same
  cases same
  rfl

section

variable {head path : Path} {count : Nat} {value : Json} {node : Node}

private theorem followingAt_of_readNodeAt (read : readNodeAt head count value = .ok node) :
    followingAt head count value = .ok node.toChain := by
  obtain ⟨members, rfl⟩ := exists_members_of_readNodeAt read
  exact congrArg (Functor.map Node.toChain) read

private theorem readNodeAt_of_followingAt
    (follows : followingAt head count value = .ok node.toChain) :
    readNodeAt head count value = .ok node := by
  cases value with
  | null => cases follows
  | _ =>
      obtain ⟨other, read, same⟩ := exists_of_map follows
      exact Node.toChain_injective same ▸ read

private theorem readSlotAt_of_readNodeAt (read : readNodeAt path 0 value = .ok node) :
    readSlotAt path value = .ok node.toChain := by
  obtain ⟨members, rfl⟩ := exists_members_of_readNodeAt read
  rw [readSlotAt, read]
  rfl

private theorem readSlotAt_list {first : Json} (after : Json.Items)
    (read : readNodeAt (path.step .first) 0 first = .ok node) :
    readSlotAt path (.array (.cons first after)) = .ok node.toChain := by
  rw [readSlotAt, read]
  rfl

end

private theorem Role.keeps_block {value other : Json} (blank : value = .null → other = .null)
    (inner : ∀ head count place number,
      Entails (readNodeAt head count value) (readNodeAt place number other)) :
    Role.block.Keeps (some value) (some other) := by
  intro head count place number chain follows
  cases value with
  | null =>
      cases blank rfl
      exact follows
  | _ =>
      obtain ⟨node, read, rfl⟩ := exists_of_map follows
      exact followingAt_of_readNodeAt (inner head count place number node read)

theorem Role.Keeps.readNodeAt {value other : Json}
    (keeps : Role.block.Keeps (some value) (some other)) (head : Path) (count : Nat)
    (place : Path) (number : Nat) :
    Entails (readNodeAt head count value) (readNodeAt place number other) :=
  fun _ read =>
    readNodeAt_of_followingAt (keeps head count place number _ (followingAt_of_readNodeAt read))

theorem Role.KeepsParts.keeps {outer : Role} {members others : Members}
    (keeps : outer.KeepsParts members others) (holds : outer ∈ kinded) :
    outer.Keeps (some (.object members)) (some (.object others)) := by
  simp only [kinded, List.mem_cons, List.not_mem_nil, or_false] at holds
  rcases holds with rfl | rfl
  · exact keeps_block (by rintro ⟨⟩) keeps.readNodeAt
  · exact keeps.input

/-- Only blocks and statement sockets know the place where they are read. -/
theorem Role.keeps_self_of (role : Role) {content : Option Json}
    (blocks : ∀ value, content = some value → ∀ head count place number,
      Entails (Marquee.readNodeAt head count value) (Marquee.readNodeAt place number value))
    (slots : ∀ value, content = some value → ∀ path place,
      Entails (readSlotAt path value) (readSlotAt place value)) : role.Keeps content content := by
  cases role with
  | block =>
      cases content with
      | none => exact fun _ _ _ _ => .result Chain.nil
      | some value => exact keeps_block (fun null => null) (blocks value rfl)
  | slot =>
      cases content with
      | none => exact fun _ _ => .result Chain.nil
      | some value => exact slots value rfl
  | input =>
      intro path passed
      refine ⟨?_, .refl _⟩
      intro place
      cases content with
      | none => rfl
      | some value => exact checkInput_anywhere value path place passed
  | id => rfl
  | plain => rfl

mutual

theorem readNodeAt_anywhere (value : Json) (head : Path) (count : Nat) (place : Path)
    (number : Nat) : Entails (readNodeAt head count value) (readNodeAt place number value) := by
  intro node read
  obtain ⟨members, rfl⟩ := exists_members_of_readNodeAt read
  have same : Role.block.KeepsParts members members := by
    refine ⟨rfl, ?_, fun _ present => .inl present⟩
    intro key _
    apply Role.keeps_self_of
    · intro value found
      have smaller := Members.size_get? found
      exact readNodeAt_anywhere value
    · intro value found
      have smaller := Members.size_get? found
      exact readSlotAt_anywhere value
  exact same.readNodeAt head count place number node read
termination_by 2 * value.size
decreasing_by
  all_goals
    simp only [*, Json.size]
    omega

theorem readSlotAt_anywhere : ∀ (value : Json) (path place : Path),
    Entails (readSlotAt path value) (readSlotAt place value)
  | .array (.cons first after), _, _ => by
      intro chain read
      obtain ⟨node, head, rfl⟩ := exists_of_readSlotAt_list read
      exact readSlotAt_list after (readNodeAt_anywhere first _ _ _ _ node head)
  | .object members, _, _ => by
      intro chain read
      obtain ⟨node, block, rfl⟩ := exists_of_readSlotAt_object read
      exact readSlotAt_of_readNodeAt (readNodeAt_anywhere (.object members) _ _ _ _ node block)
  | .null, _, _ | .array .nil, _, _ => by
      intro chain read
      rw [readSlotAt] at read ⊢
      exact read
  | .bool _, _, _ | .number _, _, _ | .string _, _, _ => by
      intro chain read
      simp [readSlotAt] at read
-- A block that stands for the list of it is read again as a block, hence the last summand.
termination_by value => 2 * value.size + 1
decreasing_by
  all_goals
    simp only [Json.size, Json.Items.size]
    omega

end

private theorem Role.keeps_self (role : Role) (content : Option Json) :
    role.Keeps content content :=
  role.keeps_self_of (fun value _ => readNodeAt_anywhere value)
    (fun value _ => readSlotAt_anywhere value)

/-! ## Every spelling is kept -/

/-- What is blank reads as if it were absent. -/
theorem Role.keeps_blank {role : Role} {former latter : Option Json}
    (blankBefore : former ∈ role.blanks) (blankAfter : latter ∈ role.blanks) :
    role.Keeps former latter := by
  cases role with
  | block =>
      simp only [blanks, List.mem_cons, List.not_mem_nil, or_false] at blankBefore blankAfter
      rcases blankBefore with rfl | rfl <;> rcases blankAfter with rfl | rfl <;>
        exact fun _ _ _ _ => .result Chain.nil
  | slot =>
      have empty : ∀ content ∈ Role.slot.blanks, ∀ path,
          readOr .nil (readSlotAt path) content = .ok Chain.nil := by
        intro content blank path
        simp only [blanks, List.mem_cons, List.not_mem_nil, or_false] at blank
        rcases blank with rfl | rfl | rfl
        · rfl
        · rw [readOr, readSlotAt]
        · rw [readOr, readSlotAt]
      intro path place
      rw [empty former blankBefore, empty latter blankAfter]
      exact .result Chain.nil
  | input =>
      have empty : ∀ content ∈ Role.input.blanks,
          readOr .empty (readInput looseKindKeys) content = .ok Input.empty ∧
            ∀ path, readOr () (checkInput path) content = .ok () := by
        intro content blank
        simp only [blanks, List.mem_cons, List.not_mem_nil, or_false] at blank
        rcases blank with rfl | rfl
        · exact ⟨rfl, fun _ => rfl⟩
        · rw [readOr, readInput]
          exact ⟨rfl, fun _ => rfl⟩
      intro path _
      obtain ⟨readBefore, _⟩ := empty former blankBefore
      obtain ⟨readAfter, passes⟩ := empty latter blankAfter
      rw [readBefore, readAfter]
      exact ⟨passes, .result Input.empty⟩
  | id =>
      simp only [blanks, List.mem_cons, List.not_mem_nil, or_false] at blankBefore blankAfter
      rcases blankBefore with rfl | rfl <;> rcases blankAfter with rfl | rfl <;> rfl
  | plain => cases blankBefore

/-- Moving the kind to its other key leaves all other members. -/
theorem Role.keepsParts_renamed (outer : Role) {members : Members} {old new : String}
    {name : Json} (oldKey : old ∈ looseKindKeys) (newKey : new ∈ looseKindKeys)
    (kind : kindValue? looseKindKeys ((members.erase old).insert new name) =
      kindValue? looseKindKeys members) :
    outer.KeepsParts members ((members.erase old).insert new name) := by
  refine ⟨kind, ?_, ?_⟩
  · intro key other
    have notNew : new ≠ key := by
      rintro rfl
      exact other newKey
    have notOld : old ≠ key := by
      rintro rfl
      exact other oldKey
    rw [Members.get?_insert, if_neg notNew, Members.get?_erase, if_neg notOld]
    exact Role.keeps_self _ _
  · intro entry member
    rcases Members.mem_toList_insert member with rfl | present
    · right
      rw [Members.get?_insert, if_pos rfl]
    · exact .inl (Members.mem_toList_erase present)

private theorem Role.keepsParts_put {outer : Role} {members : Members} {key : String}
    {latter : Option Json}
    (kept : (outer.under (claimedKind? members) key).Keeps (members.get? key) latter) :
    outer.KeepsParts members (members.put key latter) := by
  have kindKeys : ∀ name ∈ looseKindKeys,
      (members.put key latter).get? name = members.get? name := by
    intro name kindKey
    rw [Members.get?_put]
    split
    · next same =>
        subst same
        rw [under_kindKey outer _ key kindKey] at kept
        exact kept.symm
    · rfl
  refine ⟨?_, ?_, ?_⟩
  · rw [kindValue?_loose, kindValue?_loose, kindKeys _ (.head _), kindKeys _ (.tail _ (.head _))]
  · intro name _
    rw [Members.get?_put]
    split
    · next same => exact same ▸ kept
    · exact Role.keeps_self _ _
  · rintro ⟨name, value⟩ member
    rcases Members.mem_toList_put member with ⟨rfl, held⟩ | present
    · right
      rw [Members.get?_put, if_pos rfl, held]
    · exact .inl present

theorem Respells.keeps {role : Role} {former latter : Option Json}
    (respells : Respells role former latter) : role.Keeps former latter := by
  induction respells with
  | underKind kinded named free =>
      refine (Role.keepsParts_renamed _ (.head _) (.tail _ (.head _)) ?_).keeps kinded
      rw [kindValue?_loose, kindValue?_loose, Members.get?_insert, Members.get?_insert,
        Members.get?_erase, named, if_neg (by decide), if_pos rfl, if_pos rfl]
      rfl
  | underType kinded named free =>
      refine (Role.keepsParts_renamed _ (.tail _ (.head _)) (.head _) ?_).keeps kinded
      rw [kindValue?_loose, kindValue?_loose, Members.get?_insert, if_pos rfl, named, free]
      rfl
  | blank blankBefore blankAfter => exact Role.keeps_blank blankBefore blankAfter
  | rest first after others =>
      intro path place chain read
      obtain ⟨node, head, rfl⟩ := exists_of_readSlotAt_list read
      exact readSlotAt_list others (readNodeAt_anywhere first _ _ _ _ node head)
  | bare first after =>
      intro path place chain read
      obtain ⟨node, head, rfl⟩ := exists_of_readSlotAt_list read
      exact readSlotAt_of_readNodeAt (readNodeAt_anywhere first _ _ _ _ node head)
  | inList after inner inductionHypothesis =>
      intro path place chain read
      obtain ⟨node, head, rfl⟩ := exists_of_readSlotAt_list read
      exact readSlotAt_list after (inductionHypothesis.readNodeAt _ _ _ _ node head)
  | inSlot inner inductionHypothesis =>
      intro path place chain read
      obtain ⟨node, block, rfl⟩ := exists_of_readSlotAt_object read
      exact readSlotAt_of_readNodeAt (inductionHypothesis.readNodeAt _ _ _ _ node block)
  | inside kinded inner inductionHypothesis =>
      exact (Role.keepsParts_put inductionHypothesis).keeps kinded

private theorem Role.under_error (kind : Option Kind) :
    Role.under .block kind "error" = .plain := by
  cases kind with
  | none => rfl
  | some kind => cases kind <;> rfl

/-- No spelling touches the reason why there is no program. -/
theorem Respells.reason {value other : Json}
    (respells : Respells .block (some value) (some other)) : reason? other = reason? value := by
  cases respells with
  | underKind =>
      rw [reason?, reason?, Members.get?_insert, if_neg (by decide), Members.get?_erase,
        if_neg (by decide)]
  | underType =>
      rw [reason?, reason?, Members.get?_insert, if_neg (by decide), Members.get?_erase,
        if_neg (by decide)]
  | blank blankBefore blankAfter =>
      have null : ∀ content : Json, some content ∈ Role.block.blanks → content = .null := by
        intro content blank
        simpa [Role.blanks] using blank
      rw [null value blankBefore, null other blankAfter]
  | inside _ inner =>
      rw [reason?, reason?, Members.get?_put]
      split
      · next same =>
          subst same
          have kept := inner.keeps
          rw [Role.under_error] at kept
          exact kept.symm
      · rfl

private theorem Document.ofJson_respells {value other : Json} {document : Document}
    (accepted : ofJson value = .ok document)
    (respells : Respells .block (some value) (some other)) : ofJson other = .ok document := by
  cases document with
  | program content =>
      obtain ⟨absent, read⟩ := ofJson_eq_program_iff.mp accepted
      exact ofJson_eq_program_iff.mpr
        ⟨respells.reason.trans absent, respells.keeps.readNodeAt _ _ _ _ _ read⟩
  | noProgram text =>
      obtain ⟨reason, given, same⟩ := ofJson_eq_noProgram_iff.mp accepted
      exact ofJson_eq_noProgram_iff.mpr ⟨reason, respells.reason.trans given, same⟩

/-- However often a document is respelled, it reads as the same document. -/
theorem Document.ofJson_respelled {value other : Json} {document : Document}
    (accepted : ofJson value = .ok document) (respelled : value.Respelled other) :
    ofJson other = .ok document := by
  induction respelled with
  | refl => exact accepted
  | tail _ respells inductionHypothesis => exact ofJson_respells inductionHypothesis respells

/-- A number whose kind stands under a key. -/
def Json.five (kindKey : String) : Members :=
  .ofList [(kindKey, .string "number"), ("value", .int 5)]

/-- A block that waits. -/
def Json.waiting (kindKey : String) : Members :=
  .ofList [("id", .null), ("time", .object (Json.five kindKey)), ("type", .string "wait")]

/-- A program with something in its socket. -/
def Json.pausing (actions : Json) : Members :=
  .ofList [("actions", actions), ("type", .string "start")]

def pausing : Program :=
  .ofActions (.link none (.wait (.block none (.number 5))) .nil)

theorem ofJson_respelled_pausing :
    let listed := Json.object (Json.pausing (.array (.cons (.object (Json.waiting "type")) .nil)))
    let bare := Json.object (Json.pausing (.object (Json.waiting "kind")))
    listed.Respelled bare ∧ Document.ofJson listed = .ok (.program pausing) ∧
      Document.ofJson bare = .ok (.program pausing) := by
  intro listed bare
  have accepted : Document.ofJson listed = .ok (.program pausing) := by decide +kernel
  have block : Role.block ∈ Role.kinded := .head _
  have number : Respells .input (some (.object (Json.five "type")))
      (some (.object (Json.five "kind"))) :=
    .underKind (.tail _ (.head _)) rfl rfl
  have waits : Respells .block (some (.object (Json.waiting "type")))
      (some (.object (Json.waiting "kind"))) :=
    number.under "time" block (by decide) rfl rfl
  have inList : Respells .block (some listed)
      (some (.object (Json.pausing (.array (.cons (.object (Json.waiting "kind")) .nil))))) :=
    (Respells.inList .nil waits).under "actions" block (by decide) rfl rfl
  have unlisted : Respells .block
      (some (.object (Json.pausing (.array (.cons (.object (Json.waiting "kind")) .nil)))))
      (some bare) :=
    (Respells.bare _ .nil).under "actions" block (by decide) rfl rfl
  have respelled : listed.Respelled bare := .head inList (.single unlisted)
  exact ⟨respelled, accepted, Document.ofJson_respelled accepted respelled⟩

end Marquee
