import Marquee.Proofs.Editor.Alongside
import Marquee.Proofs.Editor.Connecting

/-!
# Loads beside other blocks

A load into a workspace makes new blocks and asks for nothing but these. So what was there before
stays as it is, and the new blocks are those that the same load makes in an empty workspace, with
handles and ids that are counted from where the workspace was.
-/

namespace Marquee

namespace Table

variable {α β : Type}

def map (change : α → β) (table : Table α) : Table β :=
  ⟨table.entries.map fun entry => (entry.1, change entry.2)⟩

theorem get?_map (change : α → β) (table : Table α) (name : String) :
    (table.map change).get? name = (table.get? name).map change := by
  obtain ⟨entries⟩ := table
  simp only [get?, map]
  induction entries with
  | nil => rfl
  | cons entry rest inductionHypothesis =>
      simp only [List.map_cons, findEntry]
      split
      · rfl
      · exact inductionHypothesis

theorem map_set (change : α → β) (table : Table α) (name : String) (value : α) :
    (table.set name value).map change = (table.map change).set name (change value) := by
  obtain ⟨entries⟩ := table
  simp only [set, map, mk.injEq]
  induction entries with
  | nil => rfl
  | cons entry rest inductionHypothesis =>
      simp only [List.map_cons, setEntry]
      split
      · rfl
      · rw [List.map_cons, inductionHypothesis]

theorem map_keep (change : α → β) (table : Table α) {test : α → Bool} {other : β → Bool}
    (same : ∀ value, other (change value) = test value) :
    (table.keep test).map change = (table.map change).keep other := by
  simp only [keep, map, mk.injEq, List.filter_map]
  congr 1
  apply List.filter_congr
  intro entry _
  exact (same entry.2).symm

end Table

open Workspace

namespace Block

/-- The same block in a workspace that had a number of blocks before, and had given out a number of
ids. -/
structure Shifted (handles ids : Nat) (block moved : Block) : Prop where
  id : ∃ number, block.id = label number ∧ moved.id = label (number + ids)
  kind : moved.kind = block.kind
  fields : moved.fields = block.fields
  sockets : moved.sockets = block.sockets.map (· + handles)
  next : moved.next = block.next.map (· + handles)
  parent : moved.parent = block.parent.map (· + handles)

namespace Shifted

variable {handles ids : Nat} {block moved : Block}

theorem held? (shifted : Shifted handles ids block moved) (place : Place) :
    moved.held? place = (block.held? place).map (· + handles) := by
  cases place with
  | socket name =>
      simp only [Block.held?]
      rw [shifted.sockets, Table.get?_map]
  | after => exact shifted.next

theorem write (shifted : Shifted handles ids block moved) (field : String) (value : FieldValue) :
    Shifted handles ids (block.write field value) (moved.write field value) :=
  { shifted with fields := congrArg (Table.set · field value) shifted.fields }

theorem hold (shifted : Shifted handles ids block moved) (place : Place) (child : Nat) :
    Shifted handles ids (block.hold place child) (moved.hold place (child + handles)) := by
  cases place with
  | socket name =>
      refine { shifted with sockets := ?_ }
      simp only [Block.hold]
      rw [shifted.sockets, Table.map_set]
  | after => exact { shifted with next := rfl }

theorem hangOn (shifted : Shifted handles ids block moved) (parent : Option Nat) :
    Shifted handles ids (block.hangOn parent) (moved.hangOn (parent.map (· + handles))) :=
  { shifted with parent := rfl }

theorem release (shifted : Shifted handles ids block moved) (child : Nat) :
    Shifted handles ids (block.release child) (moved.release (child + handles)) := by
  refine { shifted with sockets := ?_, next := ?_ }
  · simp only [Block.release]
    rw [shifted.sockets]
    refine (Table.map_keep _ _ fun plugged => ?_).symm
    rw [Bool.eq_iff_iff, bne_iff_ne, bne_iff_ne, Ne, Nat.add_right_cancel_iff]
  · simp only [Block.release]
    rw [shifted.next]
    cases block.next with
    | none => rfl
    | some follower => by_cases same : follower = child <;> simp [same]

end Shifted

end Block

namespace Workspace

/-- A workspace with the blocks of an old one, as they were, and after them those of a part that was
made by itself. -/
structure Beside (old part whole : Workspace) : Prop where
  ids : whole.ids = part.ids + old.ids
  size : whole.blocks.size = part.blocks.size + old.blocks.size
  kept : ∀ handle < old.blocks.size, whole.block? handle = old.block? handle
  added : ∀ handle, Option.Rel (Block.Shifted old.blocks.size old.ids) (part.block? handle)
    (whole.block? (handle + old.blocks.size))

namespace Beside

variable {old part whole : Workspace}

theorem start (old : Workspace) : Beside old empty old where
  ids := (Nat.zero_add _).symm
  size := (Nat.zero_add _).symm
  kept _ _ := rfl
  added handle := by
    rw [block?_eq_none_iff.mpr (Nat.le_add_left _ handle)]
    exact .none

theorem bind_block? (beside : Beside old part whole) {look : Block → Option Nat}
    (same : ∀ {block moved}, Block.Shifted old.blocks.size old.ids block moved →
      look moved = (look block).map (· + old.blocks.size)) (handle : Nat) :
    (whole.block? (handle + old.blocks.size)).bind look =
      ((part.block? handle).bind look).map (· + old.blocks.size) := by
  have shifted := beside.added handle
  generalize part.block? handle = block at shifted ⊢
  generalize whole.block? (handle + old.blocks.size) = moved at shifted ⊢
  cases shifted with
  | none => rfl
  | some shifted => exact same shifted

theorem parent? (beside : Beside old part whole) (handle : Nat) :
    whole.parent? (handle + old.blocks.size) =
      (part.parent? handle).map (· + old.blocks.size) :=
  beside.bind_block? (fun shifted => shifted.parent) handle

theorem held? (beside : Beside old part whole) (holder : Nat) (place : Place) :
    whole.held? (holder + old.blocks.size) place =
      (part.held? holder place).map (· + old.blocks.size) :=
  beside.bind_block? (fun shifted => shifted.held? place) holder

theorem climb (beside : Beside old part whole) (steps handle : Nat) :
    whole.climb steps (handle + old.blocks.size) =
      (part.climb steps handle).map (· + old.blocks.size) := by
  induction steps generalizing handle with
  | zero => rfl
  | succ steps inductionHypothesis =>
      simp only [Workspace.climb]
      rw [beside.parent?]
      cases part.parent? handle with
      | none => rfl
      | some parent => exact inductionHypothesis parent

/-- The whole gives the search for a way up more steps than the part needs. -/
theorem isAncestor (beside : Beside old part whole) (linked : part.Linked)
    (candidate handle : Nat) :
    whole.isAncestor (candidate + old.blocks.size) (handle + old.blocks.size) =
      part.isAncestor candidate handle := by
  rw [Bool.eq_iff_iff, Workspace.isAncestor, Workspace.isAncestor, leadsUpTo_iff, leadsUpTo_iff]
  have reached (taken : Nat) :
      whole.climb taken (handle + old.blocks.size) = some (candidate + old.blocks.size) ↔
        part.climb taken handle = some candidate := by
    rw [beside.climb]
    cases part.climb taken handle with
    | none => simp
    | some upper => simp
  simp only [reached]
  constructor
  · rintro ⟨taken, _, above⟩
    exact ⟨taken, climb_le_size linked above, above⟩
  · rintro ⟨taken, few, above⟩
    refine ⟨taken, ?_, above⟩
    rw [beside.size]
    exact Nat.le_add_right_of_le few

theorem add (beside : Beside old part whole) (kind : Kind) :
    Beside old (part.add kind).2 (whole.add kind).2 where
  ids := by
    simp only [Workspace.add, beside.ids]
    omega
  size := by
    simp only [Workspace.add, Array.size_push, beside.size]
    omega
  kept handle inside := by
    have other : handle ≠ whole.blocks.size := by
      rw [beside.size]
      omega
    rw [block?_add, if_neg other]
    exact beside.kept handle inside
  added handle := by
    rw [block?_add, block?_add, beside.size]
    simp only [Nat.add_right_cancel_iff]
    split
    · refine .some ⟨⟨part.ids + 1, rfl, ?_⟩, rfl, rfl, rfl, rfl, rfl⟩
      rw [beside.ids, Nat.add_right_comm]
    · exact beside.added handle

theorem modify (beside : Beside old part whole) {change other : Block → Block}
    (keeps : ∀ {block moved}, Block.Shifted old.blocks.size old.ids block moved →
      Block.Shifted old.blocks.size old.ids (change block) (other moved)) (handle : Nat) :
    Beside old (part.modify handle change) (whole.modify (handle + old.blocks.size) other) where
  ids := beside.ids
  size := by
    rw [size_modify, size_modify, beside.size]
  kept early inside := by
    have different : handle + old.blocks.size ≠ early := by omega
    rw [block?_modify, if_neg different]
    exact beside.kept early inside
  added at_ := by
    have shifted := beside.added at_
    rw [block?_modify, block?_modify]
    simp only [Nat.add_right_cancel_iff]
    split
    · generalize part.block? at_ = block at shifted ⊢
      generalize whole.block? (at_ + old.blocks.size) = moved at shifted ⊢
      cases shifted with
      | none => exact .none
      | some shifted => exact .some (keeps shifted)
    · exact shifted

theorem detach (beside : Beside old part whole) (child : Nat) :
    Beside old (part.detach child) (whole.detach (child + old.blocks.size)) := by
  have above := beside.parent? child
  cases hangs : part.parent? child with
  | none =>
      rw [hangs] at above
      rw [detach_of_top hangs, detach_of_top above]
      exact beside
  | some parent =>
      rw [hangs] at above
      rw [detach_of_parent hangs, detach_of_parent above]
      exact (beside.modify (fun shifted => shifted.release child) parent).modify
        (fun shifted => shifted.hangOn none) child

theorem vacate (beside : Beside old part whole) (holder : Nat) (place : Place) :
    Beside old (part.vacate holder place) (whole.vacate (holder + old.blocks.size) place) := by
  simp only [Workspace.vacate]
  rw [beside.held?]
  cases part.held? holder place with
  | none => exact beside
  | some occupant => exact beside.detach occupant

theorem fasten (beside : Beside old part whole) (parent : Nat) (place : Place) (child : Nat) :
    Beside old (part.fasten parent place child)
      (whole.fasten (parent + old.blocks.size) place (child + old.blocks.size)) :=
  (beside.modify (fun shifted => shifted.hold place child) parent).modify
    (fun shifted => shifted.hangOn (some parent)) child

theorem attach (beside : Beside old part whole) (parent : Nat) (place : Place) (child : Nat) :
    Beside old (part.attach parent place child)
      (whole.attach (parent + old.blocks.size) place (child + old.blocks.size)) :=
  ((beside.detach child).vacate parent place).fasten parent place child

theorem fieldRefusal? (beside : Beside old part whole) (handle : Nat) (field : String) :
    whole.fieldRefusal? (handle + old.blocks.size) field = part.fieldRefusal? handle field := by
  have shifted := beside.added handle
  simp only [Workspace.fieldRefusal?]
  generalize part.block? handle = block at shifted ⊢
  generalize whole.block? (handle + old.blocks.size) = moved at shifted ⊢
  cases shifted with
  | none => rfl
  | some shifted => simp only [shifted.kind]

theorem setField (beside : Beside old part whole) (handle : Nat) (field : String)
    (value : FieldValue) :
    Beside old (sink.setField handle field value part).2
      (sink.setField (handle + old.blocks.size) field value whole).2 := by
  simp only [sink, Workspace.setField]
  rw [beside.fieldRefusal?]
  cases part.fieldRefusal? handle field with
  | some refusal => exact beside
  | none => exact beside.modify (fun shifted => shifted.write field value) handle

theorem plugRefusal? (beside : Beside old part whole) (linked : part.Linked)
    (sockets : Kind → List String) (childFault? : Kind → Option ConnectionFault) (parent : Nat)
    (socket : String) (child : Nat) :
    whole.plugRefusal? sockets childFault? (parent + old.blocks.size) socket
        (child + old.blocks.size) =
      part.plugRefusal? sockets childFault? parent socket child := by
  have above := beside.added parent
  have below := beside.added child
  simp only [Workspace.plugRefusal?]
  rw [beside.isAncestor linked]
  generalize part.block? parent = holder at above ⊢
  generalize whole.block? (parent + old.blocks.size) = movedHolder at above ⊢
  generalize part.block? child = held at below ⊢
  generalize whole.block? (child + old.blocks.size) = movedHeld at below ⊢
  cases above with
  | none => rfl
  | some above =>
      cases below with
      | none => rfl
      | some below => simp only [above.kind, below.kind]

theorem linkRefusal? (beside : Beside old part whole) (linked : part.Linked)
    (previous next : Nat) :
    whole.linkRefusal? (previous + old.blocks.size) (next + old.blocks.size) =
      part.linkRefusal? previous next := by
  have above := beside.added previous
  have below := beside.added next
  simp only [Workspace.linkRefusal?]
  rw [beside.isAncestor linked]
  generalize part.block? previous = holder at above ⊢
  generalize whole.block? (previous + old.blocks.size) = movedHolder at above ⊢
  generalize part.block? next = held at below ⊢
  generalize whole.block? (next + old.blocks.size) = movedHeld at below ⊢
  cases above with
  | none => rfl
  | some above =>
      cases below with
      | none => rfl
      | some below => simp only [above.kind, below.kind]

theorem refusal? (beside : Beside old part whole) (linked : part.Linked)
    (connection : Connection Nat) :
    whole.refusal? (connection.map (· + old.blocks.size)) = part.refusal? connection := by
  cases connection with
  | statement parent socket child => exact beside.plugRefusal? linked _ _ parent socket child
  | value parent socket child => exact beside.plugRefusal? linked _ _ parent socket child
  | next previous child => exact beside.linkRefusal? linked previous child

theorem attach_map (beside : Beside old part whole) (connection : Connection Nat) :
    Beside old (part.attach connection.parent connection.place connection.child)
      (whole.attach (connection.map (· + old.blocks.size)).parent
        (connection.map (· + old.blocks.size)).place
        (connection.map (· + old.blocks.size)).child) := by
  cases connection with
  | statement parent socket child => exact beside.attach parent (.socket socket) child
  | value parent socket child => exact beside.attach parent (.socket socket) child
  | next previous child => exact beside.attach previous .after child

end Beside

/-- Whatever is asked of a part that is made by itself, the whole answers alike when it is asked
for the blocks beside the old ones. -/
theorem sink_follows_beside (old : Workspace) :
    sink.Follows sink (fun part whole => part.Grown 0 ∧ Beside old part whole)
      (· + old.blocks.size) where
  allocate {part whole} kind := by
    rintro ⟨grown, beside⟩
    exact ⟨congrArg Except.ok beside.size, grown_add grown kind, beside.add kind⟩
  setField {part whole} block field value := by
    rintro ⟨grown, beside⟩
    exact ⟨grown_change grown (change_setField ..), beside.setField block field value⟩
  connect {part whole} connection := by
    rintro ⟨grown, beside⟩
    have kept : (sink.connect connection part).2.Grown 0 := by
      cases connection with
      | statement parent socket child => exact grown_change grown (change_connectStatement ..)
      | value parent socket child => exact grown_change grown (change_connectValue ..)
      | next previous child => exact grown_change grown (change_connectNext ..)
    rw [sink_connect] at kept ⊢
    rw [sink_connect, beside.refusal? grown.linked]
    cases asked : part.refusal? connection with
    | some refusal => exact ⟨rfl, grown, beside⟩
    | none =>
        rw [asked] at kept
        exact ⟨rfl, kept, beside.attach_map connection⟩

end Workspace

/-- A load into a workspace, whatever is in it, does the same as a load into an empty one: it gives
the same report, leaves the blocks that were there as they were, and adds the same blocks after
them. -/
theorem Program.load_beside (program : Program) (workspace : Workspace) :
    ∃ root report part whole,
      program.load sink empty = (.ok (root, report), part) ∧
        program.load sink workspace = (.ok (root + workspace.blocks.size, report), whole) ∧
        Beside workspace part whole := by
  have none : empty.blocks = #[] := rfl
  have new : empty.Grown 0 := grown_of_no_blocks none
  obtain ⟨⟨_, beside⟩, _, report⟩ :=
    program.loading_follows (sink_follows_beside workspace) ⟨new, Beside.start workspace⟩
  have small : (sink.allocate .start empty).1 = .ok 0 := rfl
  have large : (sink.allocate .start workspace).1 = .ok (0 + workspace.blocks.size) :=
    congrArg Except.ok (Nat.zero_add _).symm
  rw [program.load_eq_loading _ small, program.load_eq_loading _ large, report]
  exact ⟨_, _, _, _, rfl, rfl, beside⟩

end Marquee
