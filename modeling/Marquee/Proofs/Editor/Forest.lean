import Marquee.Proofs.Editor.Growth

/-!
# The workspace is a forest

Whatever is asked of a new workspace, in whatever order and of whatever handles, its blocks form a
forest, only what fits is connected, and an id names one block ever, also after the workspace was
cleared.
-/

open Relation

namespace Marquee

namespace Workspace

/-- A step of work: a request, which may be refused, or many of them at once. -/
inductive Edit where
  | add (kind : Kind)
  | setField (handle : Nat) (field : String) (value : FieldValue)
  | connectStatement (parent : Nat) (socket : String) (child : Nat)
  | connectValue (parent : Nat) (socket : String) (child : Nat)
  | connectNext (previous next : Nat)
  | clear
  | load (program : Program)
  | loadText (text : String)

def edit (workspace : Workspace) : Edit → Workspace
  | .add kind => (sink.allocate kind workspace).2
  | .setField handle field value => (sink.setField handle field value workspace).2
  | .connectStatement parent socket child => (sink.connectStatement parent socket child workspace).2
  | .connectValue parent socket child => (sink.connectValue parent socket child workspace).2
  | .connectNext previous next => (sink.connectNext previous next workspace).2
  | .clear => workspace.clear
  | .load program => (program.load sink workspace).2
  | .loadText text => (Document.load sink text workspace).2

def edited (workspace : Workspace) (edits : List Edit) : Workspace :=
  edits.foldl edit workspace

/-- The ids that blocks were given on the way, in the order in which they were given. -/
def issued (workspace : Workspace) : List Edit → List String
  | [] => []
  | step :: rest =>
    (workspace.edit step).blockIds.drop workspace.blocks.size ++
      (workspace.edit step).issued rest

private theorem ids_le_edit (workspace : Workspace) (step : Edit) :
    workspace.ids ≤ (workspace.edit step).ids := by
  have keeps : sink.Keeps fun after => workspace.ids ≤ after.ids :=
    sink_keeps fun enough change => Nat.le_trans enough (ids_le_change change)
  cases step with
  | add kind => exact keeps.allocate kind workspace (Nat.le_refl _)
  | setField handle field value => exact keeps.setField _ _ _ workspace (Nat.le_refl _)
  | connectStatement parent socket child =>
      exact keeps.connectStatement _ _ _ workspace (Nat.le_refl _)
  | connectValue parent socket child => exact keeps.connectValue _ _ _ workspace (Nat.le_refl _)
  | connectNext previous next => exact keeps.connectNext _ _ workspace (Nat.le_refl _)
  | clear => exact Nat.le_refl _
  | load program => exact program.keeps_load keeps workspace (Nat.le_refl _)
  | loadText text => exact Document.keeps_load keeps text workspace (Nat.le_refl _)

/-- A step leaves the blocks in their places, unless it clears the workspace: then all ids so far
belong to blocks that are no more. -/
theorem grown_edit {base : Nat} {workspace : Workspace} (grown : workspace.Grown base)
    (step : Edit) :
    (workspace.edit step).Grown base ∨
      (workspace.edit step).blocks = #[] ∧ (workspace.edit step).ids = workspace.ids := by
  have keeps : sink.Keeps (Grown base) := sink_keeps grown_change
  cases step with
  | add kind => exact Or.inl (keeps.allocate kind workspace grown)
  | setField handle field value => exact Or.inl (keeps.setField _ _ _ workspace grown)
  | connectStatement parent socket child =>
      exact Or.inl (keeps.connectStatement _ _ _ workspace grown)
  | connectValue parent socket child => exact Or.inl (keeps.connectValue _ _ _ workspace grown)
  | connectNext previous next => exact Or.inl (keeps.connectNext _ _ workspace grown)
  | clear => exact Or.inr ⟨rfl, rfl⟩
  | load program => exact Or.inl (program.keeps_load keeps workspace grown)
  | loadText text => exact Or.inl (Document.keeps_load keeps text workspace grown)

theorem exists_grown_edit {base : Nat} {workspace : Workspace} (grown : workspace.Grown base)
    (step : Edit) : ∃ after, (workspace.edit step).Grown after := by
  rcases grown_edit grown step with same | ⟨none, _⟩
  · exact ⟨base, same⟩
  · exact ⟨_, grown_of_no_blocks none⟩

/-- What a step gives out are the ids that it counts. -/
theorem blockIds_edit {base : Nat} {workspace : Workspace} (grown : workspace.Grown base)
    (step : Edit) :
    (workspace.edit step).blockIds.drop workspace.blocks.size =
      labels (workspace.ids + 1) ((workspace.edit step).ids - workspace.ids) := by
  rcases grown_edit grown step with same | ⟨none, sameIds⟩
  · rw [same.blockIds, labels, ← List.map_drop, List.drop_range', same.ids, grown.ids, labels]
    congr 2
    · omega
    · omega
  · rw [sameIds, Nat.sub_self, blockIds, none]
    simp [labels]

theorem exists_grown_edited {base : Nat} {workspace : Workspace} (grown : workspace.Grown base)
    (edits : List Edit) : ∃ after, (workspace.edited edits).Grown after := by
  induction edits generalizing workspace base with
  | nil => exact ⟨base, grown⟩
  | cons step rest inductionHypothesis =>
      obtain ⟨after, grownAfter⟩ := exists_grown_edit grown step
      exact inductionHypothesis grownAfter

private theorem ids_le_edited (workspace : Workspace) (edits : List Edit) :
    workspace.ids ≤ (workspace.edited edits).ids := by
  induction edits generalizing workspace with
  | nil => exact Nat.le_refl _
  | cons step rest inductionHypothesis =>
      exact Nat.le_trans (ids_le_edit workspace step) (inductionHypothesis (workspace.edit step))

theorem labels_append (first count more : Nat) :
    labels first count ++ labels (first + count) more = labels first (count + more) := by
  rw [labels, labels, labels, ← List.map_append, List.range'_append_1]

private theorem issued_eq_labels {base : Nat} {workspace : Workspace} (grown : workspace.Grown base)
    (edits : List Edit) :
    workspace.issued edits =
      labels (workspace.ids + 1) ((workspace.edited edits).ids - workspace.ids) := by
  induction edits generalizing workspace base with
  | nil => simp [issued, edited, labels]
  | cons step rest inductionHypothesis =>
      obtain ⟨after, grownAfter⟩ := exists_grown_edit grown step
      have now := ids_le_edit workspace step
      have later := ids_le_edited (workspace.edit step) rest
      have start : (workspace.edit step).ids + 1 =
          workspace.ids + 1 + ((workspace.edit step).ids - workspace.ids) := by omega
      rw [issued, blockIds_edit grown, inductionHypothesis grownAfter, start, labels_append]
      congr 1
      show _ = ((workspace.edit step).edited rest).ids - workspace.ids
      omega

structure Forest (workspace : Workspace) : Prop where
  held_inside : ∀ {holder place child},
    workspace.held? holder place = some child → child < workspace.blocks.size
  parent_inside : ∀ {child parent},
    workspace.parent? child = some parent → parent < workspace.blocks.size
  /-- A block hangs on another exactly if that one, and no other, holds it at exactly one place. -/
  parent_iff : ∀ {child parent},
    workspace.parent? child = some parent ↔
      (∃! place, workspace.held? parent place = some child) ∧
        ∀ holder place, workspace.held? holder place = some child → holder = parent
  free_of_top : ∀ {handle}, workspace.parent? handle = none →
    ∀ holder place, workspace.held? holder place ≠ some handle
  mem_tops_iff : ∀ {handle},
    handle ∈ workspace.tops ↔
      handle < workspace.blocks.size ∧
        ∀ holder place, workspace.held? holder place ≠ some handle
  tops_ascending : workspace.tops.Pairwise (· < ·)
  acyclic : ∀ handle, ¬ TransGen workspace.HangsOn handle handle
  /-- The entries of a table are what is found in it. -/
  distinct : ∀ {handle block},
    workspace.block? handle = some block → block.fields.Distinct ∧ block.sockets.Distinct
  field_known : ∀ {handle own name},
    workspace.own? handle = some own → name ∈ own.fields.names → name ∈ own.kind.fields
  joins : ∀ {holder place child}, workspace.held? holder place = some child →
    ∃ above below, workspace.kind? holder = some above ∧ workspace.kind? child = some below ∧
      place.Joins above below
  nodup_blockIds : workspace.blockIds.Nodup

theorem mem_tops_iff {workspace : Workspace} {handle : Nat} :
    handle ∈ workspace.tops ↔
      handle < workspace.blocks.size ∧ workspace.parent? handle = none := by
  simp only [tops, handlesWhere, parent?]
  rw [List.mem_filter, List.mem_range]
  refine and_congr_right fun inside => ?_
  obtain ⟨block, found⟩ := exists_block? inside
  simp [found]

theorem Linked.parent_iff {workspace : Workspace} (linked : workspace.Linked)
    {child parent : Nat} :
    workspace.parent? child = some parent ↔
      (∃! place, workspace.held? parent place = some child) ∧
        ∀ holder place, workspace.held? holder place = some child → holder = parent := by
  constructor
  · intro hangs
    obtain ⟨place, holds⟩ := linked.held_of_parent hangs
    refine ⟨⟨place, holds, fun other also => linked.place_unique also holds⟩, ?_⟩
    intro holder other also
    have above := linked.parent_of_held also
    rw [hangs] at above
    exact (Option.some.inj above).symm
  · rintro ⟨⟨place, holds, _⟩, _⟩
    exact linked.parent_of_held holds

theorem Linked.free_of_top {workspace : Workspace} (linked : workspace.Linked) {handle : Nat}
    (top : workspace.parent? handle = none) (holder : Nat) (place : Place) :
    workspace.held? holder place ≠ some handle := by
  intro holds
  rw [linked.parent_of_held holds] at top
  cases top

theorem Grown.forest {base : Nat} {workspace : Workspace} (grown : workspace.Grown base) :
    workspace.Forest where
  held_inside holds := lt_size_of_parent? (grown.linked.parent_of_held holds)
  parent_inside hangs := by
    obtain ⟨place, holds⟩ := grown.linked.held_of_parent hangs
    exact lt_size_of_held? holds
  parent_iff := grown.linked.parent_iff
  free_of_top := grown.linked.free_of_top
  mem_tops_iff {handle} := by
    rw [mem_tops_iff]
    refine and_congr_right fun _ => ⟨grown.linked.free_of_top, fun free => ?_⟩
    cases hangs : workspace.parent? handle with
    | none => rfl
    | some parent =>
        obtain ⟨place, holds⟩ := grown.linked.held_of_parent hangs
        exact absurd holds (free parent place)
  tops_ascending := List.pairwise_lt_range.filter _
  acyclic := grown.linked.acyclic
  distinct found :=
    ⟨grown.fitting.distinct (congrArg (Option.map Block.own) found), grown.linked.distinct found⟩
  field_known := grown.fitting.field_known
  joins := grown.fitting.joins
  nodup_blockIds := by
    rw [grown.blockIds]
    exact nodup_labels ..

/-- Work on a new workspace makes a forest of its blocks. No id is given out twice on the way, and
the ids of the blocks that are there at the end are among those given out. -/
theorem forest_edited (edits : List Edit) :
    (empty.edited edits).Forest ∧ (empty.issued edits).Nodup ∧
      (empty.edited edits).blockIds ⊆ empty.issued edits := by
  have none : empty.blocks = #[] := rfl
  have new : empty.Grown 0 := grown_of_no_blocks none
  obtain ⟨base, grown⟩ := exists_grown_edited new edits
  have given : empty.issued edits = labels 1 (empty.edited edits).ids := issued_eq_labels new edits
  refine ⟨grown.forest, ?_, ?_⟩
  · rw [given]
    exact nodup_labels ..
  · rw [given, grown.blockIds, grown.ids, ← labels_append 1 base, Nat.add_comm 1 base]
    exact List.subset_append_right _ _

end Workspace

end Marquee
