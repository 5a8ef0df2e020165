import Marquee.Proofs.Document.RoundTrip

/-!
# Members that do not decode

The members of a block are read one after the other, in the order of their keys, and each without
regard for the others. So a block that does not decode has a member that does not decode by itself,
and what is reported of the block is what is wrong with that member. What stands in the statement
sockets has no part in this.
-/

namespace Marquee

open Json (Members)

/-- What goes wrong in a read. -/
def fault? {ε α : Type} : Except ε α → Option ε
  | .ok _ => none
  | .error error => some error

private theorem fault?_eq_some_iff {ε α : Type} {read : Except ε α} {error : ε} :
    fault? read = some error ↔ read = .error error := by
  cases read with
  | ok value => exact iff_of_false (by rintro ⟨⟩) (by rintro ⟨⟩)
  | error other => exact Iff.of_eq (by rw [fault?, Option.some.injEq, Except.error.injEq])

/-- Where it makes no difference for later faults what was read first. -/
theorem fault?_bind {ε α β : Type} {first : Except ε α} {rest : α → Except ε β}
    {later : Option ε} (same : ∀ value, fault? (rest value) = later) :
    fault? (first >>= rest) = (fault? first).or later := by
  cases first with
  | ok value => exact same value
  | error error => rfl

private theorem fault?_bind_of_none {ε α β : Type} {first : Except ε α} {rest : α → Except ε β}
    (none : ∀ value, fault? (rest value) = none) : fault? (first >>= rest) = fault? first :=
  (fault?_bind none).trans Option.or_none

/-- What is wrong with a content that is read like this. -/
def faultIn {α : Type} (read : Json → Except DecodeError α) (content : Json) :
    Option DecodeError :=
  fault? (read content)

/-- A key, and what is wrong with the content of a member under it. -/
abbrev Check :=
  String × (Json → Option DecodeError)

/-- The fault of the first member that has one. -/
def firstFault (members : Members) : List Check → Option DecodeError
  | [] => none
  | (key, check) :: rest => ((members.get? key).bind check).or (firstFault members rest)

section

variable {members : Members} {checks : List Check}

private theorem exists_of_firstFault {error : DecodeError}
    (reported : firstFault members checks = some error) :
    ∃ key check content, (key, check) ∈ checks ∧ members.get? key = some content ∧
      check content = some error := by
  induction checks with
  | nil => cases reported
  | cons first rest inductionHypothesis =>
      obtain ⟨key, check⟩ := first
      rcases Option.or_eq_some_iff.mp reported with here | ⟨_, later⟩
      · obtain ⟨content, found, wrong⟩ := Option.bind_eq_some_iff.mp here
        exact ⟨key, check, content, .head _, found, wrong⟩
      · obtain ⟨key, check, content, member, found, wrong⟩ := inductionHypothesis later
        exact ⟨key, check, content, .tail _ member, found, wrong⟩

private theorem firstFault_of_absent (absent : ∀ check ∈ checks, members.get? check.1 = none) :
    firstFault members checks = none := by
  induction checks with
  | nil => rfl
  | cons first rest inductionHypothesis =>
      obtain ⟨here, later⟩ := List.forall_mem_cons.mp absent
      rw [firstFault, here, inductionHypothesis later]
      rfl

private theorem get?_singleton_of_ne {key other : String} (different : key ≠ other)
    (content : Json) :
    (Members.cons key content .nil).get? other = none := by
  rw [Members.get?, if_neg different, Members.get?]

/-- A single member is only checked under its own key. -/
theorem firstFault_singleton (distinct : (checks.map Prod.fst).Nodup) {key : String}
    {check : Json → Option DecodeError} (member : (key, check) ∈ checks) (content : Json) :
    firstFault (.cons key content .nil) checks = check content := by
  induction checks with
  | nil => cases member
  | cons first rest inductionHypothesis =>
      rw [List.map_cons, List.nodup_cons] at distinct
      obtain ⟨fresh, others⟩ := distinct
      rcases List.mem_cons.mp member with here | later
      · subst here
        have absent : ∀ other ∈ rest, (Members.cons key content .nil).get? other.1 = none := by
          intro other otherMember
          apply get?_singleton_of_ne
          rintro rfl
          exact fresh (List.mem_map.mpr ⟨other, otherMember, rfl⟩)
        rw [firstFault, firstFault_of_absent absent, Members.get?, if_pos rfl]
        exact Option.or_none
      · have different : key ≠ first.1 := by
          rintro rfl
          exact fresh (List.mem_map.mpr ⟨_, later, rfl⟩)
        rw [firstFault, get?_singleton_of_ne different, inductionHypothesis others later]
        rfl

end

/-- The literals and the inputs of a block of this kind, in the order in which they are read. -/
def Kind.checks : Kind → List Check
  | displayImage => [("filename", faultIn readText)]
  | playAnimation => [("folder", faultIn readText), ("play_for", faultIn readUInt64)]
  | wait => [("time", faultIn (readInput looseKindKeys))]
  | branch | whileLoop => [("condition", faultIn (readInput looseKindKeys))]
  | setVariable =>
    [("value", faultIn (readInput looseKindKeys)), ("var_name", faultIn readText)]
  | repeatLoop => [("times", faultIn (readInput looseKindKeys))]
  | gpio | gpioBranch => [("pin", faultIn readByte), ("state", faultIn readLevel)]
  | gpioTrigger => [("pin", faultIn readByte), ("trigger", faultIn readTrigger)]
  | setColor => [("color", faultIn (readInput looseKindKeys))]
  | number => [("value", faultIn readInt64)]
  | randomRange => [("max", faultIn readInt64), ("min", faultIn readInt64)]
  | getVariable => [("var_name", faultIn readText)]
  | compare =>
    [("left", faultIn (readInput looseKindKeys)), ("operator", faultIn readRelation),
      ("right", faultIn (readInput looseKindKeys))]
  | colorValue | customColor => [("color", faultIn readText)]
  | rgbColor => [("blue", faultIn readByte), ("green", faultIn readByte), ("red", faultIn readByte)]
  | start | forever | breakLoop => []

/-- An id may be null. -/
def idCheck : Check :=
  ("id", fun content => if content = .null then none else faultIn readText content)

private theorem Kind.nodup_checks (kind : Kind) :
    ((idCheck :: kind.checks).map Prod.fst).Nodup := by
  cases kind <;> decide

section

variable {members : Members} {kind : Kind} {error : DecodeError}

/-- A literal or an input is read, and then the others. -/
theorem fault?_fieldOr_bind {α β : Type} {default : α} {read : Json → Except DecodeError α}
    {key : String} {rest : α → Except DecodeError β} {checks : List Check}
    (same : ∀ value, fault? (rest value) = firstFault members checks) :
    fault? (fieldOr default read key members >>= rest) =
      firstFault members ((key, faultIn read) :: checks) := by
  rw [fault?_bind same, firstFault, fieldOr]
  cases members.get? key <;> rfl

private theorem fault?_readId : fault? (readId members) = (members.get? "id").bind idCheck.2 := by
  rw [readId]
  cases members.get? "id" with
  | none => rfl
  | some content =>
      cases content with
      | null => rfl
      | _ => rfl

private theorem fault?_readExpression (isValue : kind.isValue) :
    fault? (readExpression (inputAt looseKindKeys members) kind members) =
      firstFault members kind.checks := by
  match kind with
  | .number | .getVariable | .colorValue | .customColor =>
      exact fault?_fieldOr_bind fun _ => rfl
  | .randomRange => exact fault?_fieldOr_bind fun _ => fault?_fieldOr_bind fun _ => rfl
  | .compare | .rgbColor =>
      exact fault?_fieldOr_bind fun _ => fault?_fieldOr_bind fun _ =>
        fault?_fieldOr_bind fun _ => rfl

private theorem fault?_readStatement (chainOf : String → Chain) :
    fault? (readStatement (inputAt looseKindKeys members) (fun key => .ok (chainOf key)) kind
      members) = firstFault members kind.checks := by
  match kind with
  | .start | .forever | .breakLoop => rfl
  | .displayImage | .wait | .branch | .repeatLoop | .whileLoop | .setColor =>
      exact fault?_fieldOr_bind fun _ => rfl
  | .playAnimation | .setVariable | .gpio | .gpioBranch | .gpioTrigger =>
      exact fault?_fieldOr_bind fun _ => fault?_fieldOr_bind fun _ => rfl
  | .number | .randomRange | .getVariable | .compare | .colorValue | .customColor | .rgbColor =>
      exact (fault?_bind_of_none fun _ => rfl).trans (fault?_readExpression rfl)

private theorem fault?_readBlock (slots : Slots) :
    fault? (readBlock kind members slots) = firstFault members (idCheck :: kind.checks) := by
  rw [readBlock, firstFault]
  refine (fault?_bind fun id => ?_).trans (congrArg (Option.or · _) fault?_readId)
  exact (fault?_bind_of_none fun _ => rfl).trans (fault?_readStatement slots.at)

/-- A block of this kind with this member alone does not decode, whatever is in its statement
sockets. -/
def Kind.Misreads (kind : Kind) (key : String) (content : Json) (error : DecodeError) : Prop :=
  ∀ slots, readBlock kind (.cons key content .nil) slots = .error error

/-- What is wrong with a block is wrong with one of its members. -/
theorem exists_misreads {slots : Slots} (failed : readBlock kind members slots = .error error) :
    ∃ key content, members.get? key = some content ∧ kind.Misreads key content error := by
  have reported := (fault?_readBlock slots).symm.trans (fault?_eq_some_iff.mpr failed)
  obtain ⟨key, check, content, member, found, wrong⟩ := exists_of_firstFault reported
  refine ⟨key, content, found, fun others => fault?_eq_some_iff.mp ?_⟩
  rw [fault?_readBlock, firstFault_singleton kind.nodup_checks member, wrong]

end

end Marquee
