import Marquee.Proofs.Editor.Complete
import Marquee.Proofs.Editor.Emission
import Marquee.Proofs.Editor.Order

/-!
# The ids in what is saved

Every block below another one leaves a mark in what is saved of it, and the marks come in reading
order. There are more marks than blocks only where a default stands for a block. So if there are as
many, and the blocks were made in reading order, then what is saved is numbered.
-/

namespace Marquee

namespace Workspace

/-- The mark of a block: a number or a color becomes a literal, any other block has its id. -/
def mark (workspace : Workspace) (handle : Nat) : Option (Option String) :=
  match workspace.kind? handle with
  | some .number => none
  | some .colorValue => none
  | some .customColor => none
  | _ => some (workspace.id? handle)

/-- The marks of the blocks at a place of a block. -/
def marksAt (workspace : Workspace) (depth handle : Nat) (place : Place) :
    List (Option (Option String)) :=
  (workspace.subtree depth (workspace.held? handle place)).map workspace.mark

variable {workspace : Workspace} {handle : Nat} {kind : Kind}

private theorem marks_subtree_succ (found : workspace.kind? handle = some kind) (depth : Nat) :
    (workspace.subtree (depth + 1) (some handle)).map workspace.mark =
      workspace.mark handle ::
        ((kind.valueSockets.flatMap fun socket =>
            workspace.marksAt depth handle (.socket socket)) ++
          ((kind.statementSockets.flatMap fun socket =>
              workspace.marksAt depth handle (.socket socket)) ++
            workspace.marksAt depth handle .after)) := by
  rw [subtree_succ found, List.map_cons, List.map_flatMap, Kind.places, List.flatMap_append,
    List.flatMap_append, List.flatMap_map, List.flatMap_map, List.flatMap_singleton]
  rfl

private theorem mark_of_hasPrevious (found : workspace.kind? handle = some kind)
    (previous : kind.hasPrevious = true) :
    workspace.mark handle = some (workspace.id? handle) := by
  rw [mark, found]
  cases kind <;> first | rfl | cases previous

/-- A value block leaves its mark, then the blocks in its sockets do. -/
theorem marks_asInput (found : workspace.kind? handle = some kind) {inputIn : String → Input}
    {expression : Expression}
    (computes : workspace.source.saveExpression inputIn handle kind = some expression) :
    (Source.asInput (workspace.id? handle) expression).marks =
      workspace.mark handle :: expression.marks := by
  rw [mark, found]
  cases kind <;> cases computes <;> rfl

/-- Nothing but values hangs on a value block. -/
theorem Fitting.marksAt_after (fitting : workspace.Fitting)
    (found : workspace.kind? handle = some kind) (last : ¬kind.hasNext = true) (depth : Nat) :
    workspace.marksAt depth handle .after = [] := by
  rw [marksAt]
  cases holds : workspace.held? handle .after with
  | none => rw [subtree_none, List.map_nil]
  | some child => exact absurd (fitting.chainable_of_next found holds).1 last

private theorem marks_inputs (fitting : workspace.Fitting)
    (found : workspace.kind? handle = some kind) (depth : Nat) (default : Input)
    (inside : ∀ child below, workspace.kind? child = some below → below.isValue = true →
      ((workspace.subtree depth (some child)).map workspace.mark).Sublist
        (workspace.source.saveInput depth child).marks) :
    (kind.valueSockets.flatMap fun socket =>
        workspace.marksAt depth handle (.socket socket)).Sublist
      (kind.valueSockets.flatMap fun socket =>
        (workspace.source.inputOr default depth handle socket).marks) := by
  refine List.Sublist.flatMap_right _ fun socket has => ?_
  rw [Source.inputOr, source_value found has, marksAt]
  cases holds : workspace.held? handle (.socket socket) with
  | none =>
      rw [subtree_none]
      exact List.nil_sublist _
  | some child =>
      obtain ⟨below, kindBelow, value⟩ := fitting.value_of_held found has holds
      exact inside child below kindBelow value

private theorem marks_saveInput (fitting : workspace.Fitting)
    (found : workspace.kind? handle = some kind) (value : kind.isValue = true) (depth : Nat) :
    ((workspace.subtree depth (some handle)).map workspace.mark).Sublist
      (workspace.source.saveInput depth handle).marks := by
  induction depth generalizing handle kind with
  | zero => exact List.nil_sublist _
  | succ depth inductionHypothesis =>
      obtain ⟨expression, saved, computes⟩ := exists_saveInput found value depth
      have inputs := marks_inputs fitting found depth .empty fun child below => inductionHypothesis
      rw [saved, marks_asInput found computes, marks_subtree_succ found,
        Kind.statementSockets_of_isValue value,
        fitting.marksAt_after found (Kind.not_hasNext_of_isValue value), expression.marks_eq,
        Source.inputs_saveExpression computes, List.flatMap_map, List.flatMap_nil,
        List.append_nil, List.append_nil]
      exact inputs.cons_cons _

private theorem marks_saveChain (fitting : workspace.Fitting) (depth : Nat) {head : Option Nat}
    (chainable : ∀ child ∈ head, workspace.Chainable child) :
    ((workspace.subtree depth head).map workspace.mark).Sublist
      (workspace.source.saveChain depth head).marks := by
  induction depth generalizing head with
  | zero => exact List.nil_sublist _
  | succ depth inductionHypothesis =>
      cases head with
      | none => exact List.nil_sublist _
      | some handle =>
          obtain ⟨kind, found, previous⟩ := chainable handle rfl
          obtain ⟨statement, saved, _, inputs, chains⟩ := exists_saveChain found depth
          have first := marks_inputs fitting found depth (workspace.source.filler handle kind)
            fun child below known value => marks_saveInput fitting known value depth
          have second : (kind.statementSockets.flatMap fun socket =>
              workspace.marksAt depth handle (.socket socket)).Sublist
              (kind.statementSockets.flatMap fun socket => (workspace.source.saveChain depth
                (workspace.source.statement handle socket)).marks) := by
            refine List.Sublist.flatMap_right _ fun socket has => ?_
            rw [source_statement found has]
            exact inductionHypothesis fun child holds => fitting.chainable_of_held found has holds
          have last : (workspace.marksAt depth handle .after).Sublist
              (workspace.source.saveChain depth (workspace.source.next handle)).marks :=
            inductionHypothesis fun child holds => (fitting.chainable_of_next found holds).2
          rw [saved, marks_subtree_succ found, mark_of_hasPrevious found previous, Chain.marks,
            statement.marks_eq, inputs, chains, List.flatMap_map, List.flatMap_map,
            List.append_assoc]
          exact (first.append (second.append last)).cons_cons _

theorem Grown.id?_eq {base : Nat} (grown : workspace.Grown base)
    (inside : handle < workspace.blocks.size) :
    workspace.id? handle = some (label (base + 1 + handle)) := by
  rw [← getElem?_blockIds, grown.blockIds, labels, List.getElem?_map, List.getElem?_range' inside,
    Nat.one_mul]
  rfl

private theorem eq_id?_of_mem_mark {id : Option String} (marked : id ∈ workspace.mark handle) :
    id = workspace.id? handle := by
  rw [mark] at marked
  split at marked
  · cases marked
  · cases marked
  · cases marked
  · exact (Option.some.inj marked).symm

theorem Grown.inOrder_marks (grown : workspace.Grown 0) {first count : Nat}
    (inside : first + count ≤ workspace.blocks.size) :
    InOrder (first + 1) ((List.range' first count).map workspace.mark) := by
  induction count generalizing first with
  | zero => trivial
  | succ count inductionHypothesis =>
      have present : first < workspace.blocks.size := by omega
      rw [List.range'_succ, List.map_cons]
      refine ⟨fun id marked => ?_, inductionHypothesis (by omega)⟩
      rw [eq_id?_of_mem_mark marked, grown.id?_eq present, Nat.zero_add, Nat.add_comm]

/-- A workspace that is the tree of its first block, which is a start block, in reading order. -/
structure Ordered (workspace : Workspace) : Prop where
  grown : workspace.Grown 0
  begins : workspace.source.start? = some 0
  consecutive : workspace.Consecutive 0 workspace.blocks.size (some 0)

/-- If nothing is filled in, the ids in what is saved are the labels of their places. -/
theorem Ordered.numbered_save (ordered : workspace.Ordered) {saved : Program}
    (saves : workspace.save = .program saved) (size : saved.size = workspace.blocks.size) :
    saved.numbered = saved := by
  have grown := ordered.grown
  rw [save, Source.save, ordered.begins] at saves
  cases saves
  have found := start_of_start? ordered.begins
  have hasDo : "DO" ∈ Kind.start.statementSockets := by decide
  have inside := lt_size_of_kind? found
  obtain ⟨count, blocks⟩ := Nat.exists_eq_add_one.mpr inside
  have named : workspace.source.id 0 = some (label 1) := grown.id?_eq inside
  have below : workspace.marksAt workspace.blocks.size 0 (.socket "DO") =
      (List.range' 1 count).map workspace.mark := by
    have whole := congrArg (List.map workspace.mark)
      (ordered.consecutive (workspace.blocks.size + 1) (Nat.le_succ _))
    rw [marks_subtree_succ found, grown.fitting.marksAt_after found (by decide), blocks,
      List.range'_succ, List.map_cons, ← blocks] at whole
    simpa [Kind.valueSockets, Kind.statementSockets] using (List.cons.inj whole).2
  have sublist : (workspace.marksAt workspace.blocks.size 0 (.socket "DO")).Sublist
      (workspace.source.saveChain workspace.blocks.size
        (workspace.source.statement 0 "DO")).marks := by
    rw [source_statement found hasDo]
    exact marks_saveChain grown.fitting _ fun child holds =>
      grown.fitting.chainable_of_held found hasDo holds
  rw [below] at sublist
  have length : (workspace.source.saveChain workspace.blocks.size
      (workspace.source.statement 0 "DO")).marks.length = count := by
    rw [Chain.length_marks]
    rw [Program.size_eq, blocks] at size
    exact Nat.succ.inj size
  have same := sublist.eq_of_length (by simp [length])
  have inOrder : InOrder 2 (workspace.source.saveChain workspace.blocks.size
      (workspace.source.statement 0 "DO")).marks := by
    rw [← same]
    exact grown.inOrder_marks (by omega)
  rw [Source.saveProgram, Program.numbered, named]
  exact congrArg (fun actions => (⟨_, actions, .nil⟩ : Program))
    (Chain.numbered_of_inOrder _ inOrder)

end Workspace

end Marquee
