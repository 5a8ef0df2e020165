import Marquee.Proofs.Document.Misreads
import Marquee.Proofs.Document.Roles

/-!
# Reported places

A document that is refused for what stands somewhere in it is refused with the path to that place.
The path leads through the document as it was given, whatever has been read of it by then, and what
it leads to is what the error complains of.
-/

namespace Marquee

open Json (Members)

namespace Json

/-- What is linked to a block. -/
def next? : Json → Option Json
  | .object members => members.get? "next"
  | _ => none

/-- What this many links lead to. -/
def following (head : Json) : Nat → Option Json
  | 0 => some head
  | count + 1 => (head.following count).bind next?

/-- What stands in a document at the end of a path, and in which role. -/
inductive Holds (document : Json) : Path → Role → Json → Prop
  | root : document.Holds .root .block document
  | next {path : Path} {head later : Json} {count : Nat}
      (outer : document.Holds path .block head)
      (follows : head.following (count + 1) = some later) :
      document.Holds (path.step (.next (count + 1))) .block later
  | slot {path : Path} {members : Members} {key : String} {content : Json}
      (outer : document.Holds path .block (.object members)) (slotKey : key ∈ slotKeys)
      (found : members.get? key = some content) :
      document.Holds (path.step (.field key)) .slot content
  | first {path : Path} {head : Json} {rest : Items}
      (outer : document.Holds path .slot (.array (.cons head rest))) :
      document.Holds (path.step .first) .block head
  /-- A statement socket can hold a block without a list around it. -/
  | bare {path : Path} {members : Members} (outer : document.Holds path .slot (.object members)) :
      document.Holds path .block (.object members)
  | input {path : Path} {role : Role} {members : Members} {kind : Kind} {key : String}
      {content : Json} (outer : document.Holds path role (.object members))
      (kinded : role ∈ Role.kinded) (claimed : claimedKind? members = some kind)
      (inputKey : isInputKey kind key) (member : (key, content) ∈ members.toList) :
      document.Holds (path.step (.field key)) .input content

/-- The block that is reached along links is reached from the block that they start from. -/
theorem Holds.after {document head later : Json} {path : Path} {count : Nat}
    (outer : document.Holds path .block head) (follows : head.following count = some later) :
    document.Holds (path.after count) .block later := by
  cases count with
  | zero =>
      cases follows
      exact outer
  | succ count => exact .next outer follows

private theorem following_succ {head : Json} {members : Members} {later : Json} {count : Nat}
    (follows : head.following count = some (.object members))
    (found : members.get? "next" = some later) : head.following (count + 1) = some later := by
  rw [following, follows]
  exact found

end Json

/-- What a step leads to from a value. -/
def PathStep.from? : PathStep → Json → Option Json
  | .field name, .object members => members.get? name
  | .first, .array (.cons head _) => some head
  | .next count, head => head.following count
  | _, _ => none

/-- Follows a path through a document. -/
def Path.resolve? (path : Path) (document : Json) : Option Json :=
  path.steps.foldlM (fun value step => step.from? value) document

private theorem Path.resolve?_step (path : Path) (last : PathStep) (document : Json) :
    (path.step last).resolve? document = (path.resolve? document).bind last.from? := by
  rw [resolve?, step, List.foldlM_append]
  apply congrArg (Option.bind (path.resolve? document))
  funext value
  rw [List.foldlM_cons]
  exact bind_pure (last.from? value)

namespace Json

/-- In a document whose objects have each key once, a path leads to one place at most: the one that
is found by following it. -/
theorem Holds.resolve? {document found : Json} {path : Path} {role : Role}
    (distinct : ∀ path role members, document.Holds path role (.object members) →
      members.keys.Nodup)
    (held : document.Holds path role found) : path.resolve? document = some found := by
  induction held with
  | root => rfl
  | next _ follows inductionHypothesis =>
      rw [Path.resolve?_step, inductionHypothesis]
      exact follows
  | slot _ _ found inductionHypothesis =>
      rw [Path.resolve?_step, inductionHypothesis]
      exact found
  | first _ inductionHypothesis =>
      rw [Path.resolve?_step, inductionHypothesis]
      rfl
  | bare _ inductionHypothesis => exact inductionHypothesis
  | input outer _ _ _ member inductionHypothesis =>
      rw [Path.resolve?_step, inductionHypothesis]
      exact Members.get?_of_mem_toList (distinct _ _ _ outer) member

end Json

/-- Whether a complaint is true of a value in its role. -/
def SchemaFault.AppliesTo (role : Role) (value : Json) : SchemaFault → Prop
  | notBlock found => role = .block ∧ value = found ∧ ∀ members, found ≠ .object members
  | notBlocks found =>
    role = .slot ∧ value = found ∧ found ≠ .null ∧ (∀ items, found ≠ .array items) ∧
      ∀ members, found ≠ .object members
  | kindNotText found =>
    ∃ members, value = .object members ∧ kindValue? looseKindKeys members = some found ∧
      ∀ name, found ≠ .string name
  | notInteger found => role = .input ∧ value = .number found ∧ ∃ bits, found = .float bits
  | notValue kind =>
    role = .input ∧
      ∃ members, value = .object members ∧ claimedKind? members = some kind ∧ ¬ kind.isValue
  | notOperand found =>
    role = .input ∧ value = found ∧
      ((∃ truth, found = .bool truth) ∨ ∃ items, found = .array items)
  | field error =>
    role = .block ∧ ∃ members kind key content, value = .object members ∧
      claimedKind? members = some kind ∧ members.get? key = some content ∧
      kind.Misreads key content error

/-- Whether the place that an error reports, if any, is in the document, and has what the error
complains of. -/
def LoadError.LeadsInto (document : Json) : LoadError → Prop
  | missingKind path =>
    ∃ role members, document.Holds path role (.object members) ∧ members.get? "type" = none ∧
      members.get? "kind" = none
  | schema path fault => ∃ role value, document.Holds path role value ∧ fault.AppliesTo role value
  | _ => True

private theorem exists_of_bind_error {ε α β : Type} {first : Except ε α} {rest : α → Except ε β}
    {error : ε} (failed : first >>= rest = .error error) :
    first = .error error ∨ ∃ value, first = .ok value ∧ rest value = .error error := by
  cases first with
  | error other =>
      cases failed
      exact .inl rfl
  | ok value => exact .inr ⟨value, rfl, failed⟩

private theorem eq_error_of_map {ε α β : Type} {first : Except ε α} {change : α → β} {error : ε}
    (failed : change <$> first = .error error) : first = .error error := by
  cases first with
  | error other =>
      cases failed
      rfl
  | ok value => cases failed

private theorem exists_of_mapM_error {ε α β : Type} {read : α → Except ε β} {items : List α}
    {error : ε}
    (failed : items.mapM read = .error error) : ∃ item ∈ items, read item = .error error := by
  induction items with
  | nil => cases failed
  | cons first rest inductionHypothesis =>
      rw [List.mapM_cons] at failed
      rcases exists_of_bind_error failed with here | ⟨_, _, failed⟩
      · exact ⟨first, .head _, here⟩
      · rcases exists_of_bind_error failed with later | ⟨_, _, ⟨⟩⟩
        obtain ⟨item, member, wrong⟩ := inductionHypothesis later
        exact ⟨item, .tail _ member, wrong⟩

private theorem exists_of_readOr_error {ε α : Type} {default : α} {read : Json → Except ε α}
    {content : Option Json} {error : ε} (failed : readOr default read content = .error error) :
    ∃ value, content = some value ∧ read value = .error error := by
  cases content with
  | none => cases failed
  | some value => exact ⟨value, rfl, failed⟩

private theorem exists_of_checkInputs_error {path : Path} {kind : Kind} {members : Members}
    {error : LoadError} (failed : checkInputs path kind members = .error error) :
    ∃ key value, (key, value) ∈ members.toList ∧ isInputKey kind key ∧
      checkInput (path.step (.field key)) value = .error error := by
  cases members with
  | nil => cases failed
  | cons key value rest =>
      rw [checkInputs] at failed
      split at failed
      · next inputKey =>
          split at failed
          · next wrong =>
              cases failed
              exact ⟨key, value, .head _, inputKey, wrong⟩
          · obtain ⟨key, value, member, others⟩ := exists_of_checkInputs_error failed
            exact ⟨key, value, .tail _ member, others⟩
      · obtain ⟨key, value, member, others⟩ := exists_of_checkInputs_error failed
        exact ⟨key, value, .tail _ member, others⟩

section

variable {document : Json} {path : Path} {role : Role} {members : Members} {error : LoadError}

private theorem leadsInto_of_blockKind (held : document.Holds path role (.object members))
    (failed : blockKind path members = .error error) : error.LeadsInto document := by
  rw [blockKind] at failed
  split at failed
  · rw [namedKind] at failed
    split at failed
    · cases failed
    · cases failed
      exact trivial
  · next found notText named =>
      cases failed
      exact ⟨role, _, held, members, rfl, named, notText⟩
  · next unnamed =>
      cases failed
      rw [kindValue?_loose, Option.or_eq_none_iff] at unnamed
      exact ⟨role, members, held, unnamed⟩

private theorem leadsInto_of_checkInput : ∀ (value : Json) {path : Path},
    document.Holds path .input value → checkInput path value = .error error →
      error.LeadsInto document
  | .object members, path, held, failed => by
      rw [checkInput] at failed
      split at failed
      · next kind claimed =>
          split at failed
          · obtain ⟨key, value, member, inputKey, wrong⟩ := exists_of_checkInputs_error failed
            have smaller := Members.size_of_mem_toList member
            have place := held.input (.tail _ (.head _)) claimed inputKey member
            exact leadsInto_of_checkInput value place wrong
          · next notValue =>
              cases failed
              exact ⟨.input, _, held, rfl, members, rfl, claimed, notValue⟩
      · exact leadsInto_of_blockKind held (eq_error_of_map failed)
  | .number (.float bits), _, held, failed => by
      rw [checkInput] at failed
      · cases failed
        exact ⟨.input, _, held, rfl, rfl, bits, rfl⟩
      · rintro value ⟨⟩
  | .bool truth, _, held, failed => by
      rw [checkInput] at failed
      cases failed
      exact ⟨.input, _, held, rfl, rfl, .inl ⟨truth, rfl⟩⟩
  | .array items, _, held, failed => by
      rw [checkInput] at failed
      cases failed
      exact ⟨.input, _, held, rfl, rfl, .inr ⟨items, rfl⟩⟩
  | .null, _, _, failed | .string _, _, _, failed | .number (.int _), _, _, failed => by
      rw [checkInput] at failed
      cases failed
termination_by value => value.size
decreasing_by
  simp only [Json.size]
  omega

private theorem leadsInto_of_checkInputs (held : document.Holds path .block (.object members))
    {kind : Kind} (claimed : claimedKind? members = some kind)
    (failed : checkInputs path kind members = .error error) : error.LeadsInto document := by
  obtain ⟨key, value, member, inputKey, wrong⟩ := exists_of_checkInputs_error failed
  exact leadsInto_of_checkInput value (held.input (.head _) claimed inputKey member) wrong

private theorem leadsInto_of_readBlock (held : document.Holds path .block (.object members))
    {kind : Kind} (claimed : claimedKind? members = some kind) {slots : Slots}
    (failed : atPlace path (readBlock kind members slots) = .error error) :
    error.LeadsInto document := by
  cases read : readBlock kind members slots with
  | ok result =>
      rw [read] at failed
      cases failed
  | error fault =>
      rw [read] at failed
      cases failed
      obtain ⟨key, content, found, misreads⟩ := exists_misreads read
      exact ⟨.block, _, held, rfl, members, kind, key, content, rfl, claimed, found, misreads⟩

mutual

/-- The links that were followed from the head lead to the block, and so does the path. -/
theorem leadsInto_of_readNodeAt (value : Json) {path : Path} {head : Json} {count : Nat}
    (held : document.Holds path .block head) (follows : head.following count = some value)
    (failed : readNodeAt path count value = .error error) : error.LeadsInto document := by
  have place := held.after follows
  match value with
  | .object members =>
      rw [readNodeAt_object] at failed
      rcases exists_of_bind_error failed with unnamed | ⟨kind, named, failed⟩
      · exact leadsInto_of_blockKind place unnamed
      have claimed := blockKind_eq_ok_iff.mp named
      rcases exists_of_bind_error failed with unchecked | ⟨_, _, failed⟩
      · exact leadsInto_of_checkInputs place claimed unchecked
      rcases exists_of_bind_error failed with inSlot | ⟨slots, _, failed⟩
      · obtain ⟨key, slotKey, wrong⟩ := exists_of_mapM_error inSlot
        obtain ⟨content, found, wrong⟩ := exists_of_readOr_error (eq_error_of_map wrong)
        have smaller := Members.size_get? found
        exact leadsInto_of_readSlotAt content (.slot place slotKey found) wrong
      rcases exists_of_bind_error failed with undecoded | ⟨_, _, failed⟩
      · exact leadsInto_of_readBlock place claimed undecoded
      rcases exists_of_bind_error failed with later | ⟨_, _, ⟨⟩⟩
      obtain ⟨next, found, wrong⟩ := exists_of_readOr_error later
      have smaller := Members.size_get? found
      cases next with
      | null => cases wrong
      | _ =>
          exact leadsInto_of_readNodeAt _ held (Json.following_succ follows found)
            (eq_error_of_map wrong)
  | .null | .bool _ | .number _ | .string _ | .array _ =>
      rw [readNodeAt] at failed
      · cases failed
        exact ⟨.block, _, place, rfl, rfl, by rintro members ⟨⟩⟩
      · rintro members ⟨⟩
termination_by 2 * value.size
decreasing_by
  all_goals
    simp only [Json.size] at *
    omega

theorem leadsInto_of_readSlotAt (value : Json) {path : Path}
    (held : document.Holds path .slot value) (failed : readSlotAt path value = .error error) :
    error.LeadsInto document := by
  match value with
  | .null | .array .nil =>
      rw [readSlotAt] at failed
      cases failed
  | .array (.cons first rest) =>
      rw [readSlotAt] at failed
      exact leadsInto_of_readNodeAt first held.first rfl (eq_error_of_map failed)
  | .object members =>
      rw [readSlotAt] at failed
      exact leadsInto_of_readNodeAt (.object members) held.bare rfl (eq_error_of_map failed)
  | .bool _ | .number _ | .string _ =>
      rw [readSlotAt] at failed
      · cases failed
        exact ⟨.slot, _, held, rfl, rfl, by rintro ⟨⟩, by rintro items ⟨⟩, by rintro members ⟨⟩⟩
      · rintro ⟨⟩
      · rintro ⟨⟩
      · rintro first rest ⟨⟩
      · rintro members ⟨⟩
termination_by 2 * value.size + 1
decreasing_by
  all_goals
    simp only [Json.size, Json.Items.size]
    omega

end

/-- The path that a refused document is refused with leads to what is wrong in it. -/
theorem Document.leadsInto_of_refused (refused : ofJson document = .error error) :
    error.LeadsInto document := by
  cases given : reason? document with
  | some reason =>
      rw [ofJson_of_reason given] at refused
      cases refused
  | none =>
      rw [ofJson_of_no_reason given] at refused
      rcases exists_of_bind_error refused with failed | ⟨root, _, unstarted⟩
      · exact leadsInto_of_readNodeAt document .root rfl failed
      · split at unstarted
        · cases unstarted
        · cases unstarted
          exact trivial

end

/-- A block that a number follows. -/
def Json.followed (next : Json) : Json :=
  .object (.ofList [("next", next), ("type", .string "break")])

/-- A program whose fourth block is a number. -/
def Json.derailed : Json :=
  let first := (Json.int 7).followed.followed.followed
  .object (.ofList [("actions", .array (.cons first .nil)), ("type", .string "start")])

theorem Document.leadsInto_derailed :
    let path : Path := ⟨[.field "actions", .first, .next 3]⟩
    let error : LoadError := .schema path (.notBlock (.int 7))
    path.text = "$.actions[0].next[3]" ∧ ofJson .derailed = .error error ∧
      error.LeadsInto .derailed := by
  intro path error
  have refused : ofJson .derailed = .error error := by decide +kernel
  exact ⟨by decide +kernel, refused, leadsInto_of_refused refused⟩

end Marquee
