import Marquee.Proofs.Editor.Alongside
import Marquee.Proofs.Program.Pruning

/-!
# Loads that are refused some kinds of blocks

An editor that makes no blocks of some kinds is left by a load as if those blocks, and what hangs
on them, had not been in the program. A block that is refused goes on no record, so it is no matter
whether its id comes again.
-/

namespace Marquee

/-- An editor that makes no blocks of some kinds, and hands on everything else. -/
def Sink.refusing {σ β : Type} (kinds : List Kind) (kindOf : β → σ → Option Kind)
    (inner : Sink σ β) : Sink σ β :=
  Dislikes.sink ⟨kinds, [], []⟩ kindOf inner

namespace Loading

section

variable {σ β : Type}

/-- Two loads that came to the same, but for what they counted as reused and as skipped. -/
structure SameWork (first second : Loading σ β) : Prop where
  editor : first.editor = second.editor
  placed : first.placed = second.placed
  created : first.report.created = second.report.created

theorem SameWork.settle {first second : Loading σ β} (same : SameWork first second)
    (answer : Except Refusal Unit × σ) :
    SameWork (first.settle answer) (second.settle answer) := by
  simp only [Loading.settle]
  cases answer.1 with
  | ok granted => exact ⟨rfl, same.placed, same.created⟩
  | error refusal => exact ⟨rfl, same.placed, same.created⟩

end

section

variable {σ β : Type} (kinds : List Kind) (kindOf : β → σ → Option Kind) (inner : Sink σ β)

/-- Nothing comes of a block that is refused, or that was built before. -/
theorem sameWork_make_refused {kind : Kind} (refused : kinds.contains kind = true)
    (id : Option String) (build : β → Loading σ β → Loading σ β) (loading : Loading σ β) :
    SameWork (make (inner.refusing kinds kindOf) id kind build loading) loading := by
  simp only [make, place, Sink.refusing, Dislikes.sink, refused, if_true]
  cases id.bind fun id => loading.placed.lookup id with
  | some block => exact ⟨rfl, rfl, rfl⟩
  | none => exact ⟨rfl, rfl, rfl⟩

private theorem matches_make_refused {kind : Kind} (refused : kinds.contains kind = true)
    (id : Option String) (build : β → Loading σ β → Loading σ β) :
    Matches SameWork (make (inner.refusing kinds kindOf) id kind build) fun loading => loading := by
  intro first second same
  obtain ⟨editor, placed, created⟩ :=
    sameWork_make_refused kinds kindOf inner refused id build first
  exact ⟨editor.trans same.editor, placed.trans same.placed, created.trans same.created⟩

private theorem matches_make {kind : Kind} (allowed : kinds.contains kind = false)
    (id : Option String) {build other : β → Loading σ β → Loading σ β}
    (builds : ∀ block, Matches SameWork (build block) (other block)) :
    Matches SameWork (make (inner.refusing kinds kindOf) id kind build)
      (make inner id kind other) := by
  intro first second same
  simp only [make, place, Sink.refusing, Dislikes.sink, allowed, Bool.false_eq_true, if_false]
  rw [same.placed, same.editor]
  cases id.bind fun id => second.placed.lookup id with
  | some block => exact ⟨rfl, rfl, same.created⟩
  | none =>
      dsimp only
      generalize inner.allocate kind second.editor = answer
      obtain ⟨refusal | block, editor⟩ := answer
      · exact ⟨rfl, rfl, same.created⟩
      · exact builds block _ _ ⟨rfl, rfl, congrArg (· + 1) same.created⟩

private theorem matches_setField (block : β) (field : String) (value : FieldValue) :
    Matches SameWork (setField (inner.refusing kinds kindOf) block field value)
      (setField inner block field value) := by
  intro first second same
  refine ⟨?_, same.placed, same.created⟩
  simp only [setField]
  rw [same.editor]
  rfl

/-- Connections are asked of the inner editor. -/
theorem matches_settle (ask : σ → Except Refusal Unit × σ) :
    Matches SameWork (fun loading : Loading σ β => loading.settle (ask loading.editor))
      fun loading => loading.settle (ask loading.editor) := by
  intro first second same
  simp only
  rw [same.editor]
  exact same.settle _

private theorem matches_plug (parent : β) (socket : String) (child : β) :
    Matches SameWork (plug (inner.refusing kinds kindOf) parent socket child)
      (plug inner parent socket child) :=
  matches_settle (inner.connectValue parent socket child)

private theorem matches_follow (previous block : β) {rest other : Loading σ β → Loading σ β}
    (rests : Matches SameWork rest other) :
    Matches SameWork
      (fun loading => loading.follow (inner.refusing kinds kindOf) previous block rest)
      fun loading => loading.follow inner previous block other := by
  intro first second same
  have asked : (inner.refusing kinds kindOf).connectNext previous block first.editor =
      inner.connectNext previous block second.editor := by
    rw [same.editor]
    rfl
  simp only [follow]
  rw [asked]
  generalize inner.connectNext previous block second.editor = answer
  obtain ⟨refusal | granted, editor⟩ := answer
  · exact ⟨rfl, same.placed, same.created⟩
  · exact rests _ _ ⟨rfl, same.placed, same.created⟩

private theorem matches_setFields (block : β) (fields : List (String × FieldValue)) :
    Matches SameWork (setFields (inner.refusing kinds kindOf) block fields)
      (setFields inner block fields) :=
  Matches.foldl fields fun field _ => matches_setField kinds kindOf inner block field.1 field.2

end

end Loading

open Loading

private theorem Expression.fields_prune (kinds : List Kind) (expression : Expression) :
    (expression.prune kinds).fields = expression.fields := by
  cases expression <;> rfl

private theorem Statement.fields_prune (kinds : List Kind) (statement : Statement) :
    (statement.prune kinds).fields = statement.fields := by
  cases statement with
  | value expression => exact expression.fields_prune kinds
  | _ => rfl

section

variable {σ β : Type} (kinds : List Kind) (kindOf : β → σ → Option Kind) (inner : Sink σ β)

private theorem Expression.matches_load (block : β) (expression : Expression)
    (inputs : ∀ socket held, (socket, held) ∈ expression.inputs →
      Matches SameWork (held.load (inner.refusing kinds kindOf) block expression.kind socket)
        ((held.prune kinds expression.kind).load inner block expression.kind socket)) :
    Matches SameWork (expression.load (inner.refusing kinds kindOf) block)
      ((expression.prune kinds).load inner block) := by
  intro first second same
  rw [expression.load_eq, Expression.load_eq, Expression.inputs_prune, Expression.kind_prune,
    Expression.fields_prune, plugInputs, plugInputs, List.foldl_map]
  have fields := matches_setFields kinds kindOf inner block expression.fields _ _ same
  exact Matches.foldl _ (fun socket member => inputs socket.1 socket.2 member) _ _ fields

private theorem Input.matches_load (parent : β) (parentKind : Kind) (socket : String)
    (input : Input) :
    Matches SameWork (input.load (inner.refusing kinds kindOf) parent parentKind socket)
      ((input.prune kinds parentKind).load inner parent parentKind socket) := by
  induction input using Input.socketInduction generalizing parent parentKind socket with
  | empty => exact Matches.nothing
  | number value =>
      rw [Input.load_number, Input.prune]
      split
      · next refused => exact matches_make_refused kinds kindOf inner refused none _
      · next allowed =>
          rw [Input.load_number]
          have made := Bool.eq_false_iff.mpr allowed
          refine matches_make kinds kindOf inner made none fun block => ?_
          exact (matches_setField kinds kindOf inner block "NUMBER" _).andThen
            (matches_plug kinds kindOf inner parent socket block)
  | text written =>
      rw [Input.load_text, Input.prune]
      split
      · next refused => exact matches_make_refused kinds kindOf inner refused none _
      · next allowed =>
          rw [Input.load_text]
          have made := Bool.eq_false_iff.mpr allowed
          refine matches_make kinds kindOf inner made none fun block => ?_
          exact (matches_setField kinds kindOf inner block "COLOR" _).andThen
            (matches_plug kinds kindOf inner parent socket block)
  | block id expression inductionHypothesis =>
      rw [Input.load_block, Input.prune]
      split
      · next refused => exact matches_make_refused kinds kindOf inner refused id _
      · next allowed =>
          rw [Input.load_block, Expression.kind_prune]
          have made := Bool.eq_false_iff.mpr allowed
          refine matches_make kinds kindOf inner made id fun block => ?_
          exact (expression.matches_load kinds kindOf inner block fun socket held member =>
            inductionHypothesis socket held member block expression.kind socket).andThen
              (matches_plug kinds kindOf inner parent socket block)

private theorem Statement.matches_load (block : β) (statement : Statement)
    (chains : ∀ chain ∈ statement.slots, ∀ socket,
      Matches SameWork (chain.loadSlot (inner.refusing kinds kindOf) block socket)
        ((chain.prune kinds).loadSlot inner block socket)) :
    Matches SameWork (statement.load (inner.refusing kinds kindOf) block)
      ((statement.prune kinds).load inner block) := by
  intro first second same
  rw [statement.load_eq, Statement.load_eq, Statement.chains_prune, Statement.inputs_prune,
    Statement.kind_prune, Statement.fields_prune, plugChains, plugChains, plugInputs, plugInputs,
    List.foldl_map, List.foldl_map]
  have fields := matches_setFields kinds kindOf inner block statement.fields _ _ same
  have inputs := Matches.foldl statement.inputs (fun socket _ =>
    socket.2.matches_load kinds kindOf inner block statement.kind socket.1) _ _ fields
  exact Matches.foldl statement.chains (fun socket member =>
    chains socket.2 (Statement.mem_slots_of_chains member) socket.1) _ _ inputs

/-- A chain loads alike in a socket and after a statement. -/
theorem Chain.matches_loads (chain : Chain) :
    (∀ parent socket, Matches SameWork
      (chain.loadSlot (inner.refusing kinds kindOf) parent socket)
      ((chain.prune kinds).loadSlot inner parent socket)) ∧
    ∀ previous, Matches SameWork (chain.loadAfter (inner.refusing kinds kindOf) previous)
      ((chain.prune kinds).loadAfter inner previous) := by
  induction chain using Chain.socketInduction with
  | nil => exact ⟨fun _ _ => Matches.nothing, fun _ => Matches.nothing⟩
  | link id statement next inside after =>
      have built (block : β) := statement.matches_load kinds kindOf inner block
        fun chain member socket => (inside chain member).1 block socket
      rw [Chain.prune]
      split
      · next refused =>
          refine ⟨fun parent socket => ?_, fun previous => ?_⟩
          · rw [Chain.loadSlot_link]
            exact matches_make_refused kinds kindOf inner refused id _
          · rw [Chain.loadAfter_link]
            exact matches_make_refused kinds kindOf inner refused id _
      · next allowed =>
          have made := Bool.eq_false_iff.mpr allowed
          refine ⟨fun parent socket => ?_, fun previous => ?_⟩
          · rw [Chain.loadSlot_link, Chain.loadSlot_link, Statement.kind_prune]
            refine matches_make kinds kindOf inner made id fun block => ?_
            exact ((built block).andThen (after.2 block)).andThen
              (matches_settle (inner.connectStatement parent socket block))
          · rw [Chain.loadAfter_link, Chain.loadAfter_link, Statement.kind_prune]
            refine matches_make kinds kindOf inner made id fun block => ?_
            exact (built block).andThen
              (matches_follow kinds kindOf inner previous block (after.2 block))

private theorem Program.sameWork_loading (startable : kinds.contains .start = false)
    (program : Program) (editor : σ) :
    SameWork (program.loading (inner.refusing kinds kindOf) editor)
      ((program.prune kinds).loading inner editor) :=
  matches_make kinds kindOf inner startable program.id
    (fun block => (program.actions.matches_loads kinds kindOf inner).1 block "DO") _ _
    ⟨rfl, rfl, rfl⟩

end

/-- A program that is loaded into a workspace that makes no blocks of some kinds leaves it as the
pruned program leaves a workspace that makes all, and as many blocks are made. -/
theorem Program.load_refusing {kinds : List Kind} (startable : Kind.start ∉ kinds)
    (program : Program) (workspace : Workspace) :
    ∃ root report pruned after,
      program.load (Workspace.sink.refusing kinds Workspace.kindOf) workspace =
          (.ok (root, report), after) ∧
        (program.prune kinds).load Workspace.sink workspace = (.ok (root, pruned), after) ∧
        report.created = pruned.created := by
  have handed : kinds.contains .start = false := by
    rw [Bool.eq_false_iff, Ne, List.contains_iff_mem]
    exact startable
  have refusing : ((Workspace.sink.refusing kinds Workspace.kindOf).allocate .start workspace).1 =
      .ok workspace.blocks.size := by
    simp only [Sink.refusing, Dislikes.sink, handed, Bool.false_eq_true, if_false]
    rfl
  have plain : (Workspace.sink.allocate .start workspace).1 = .ok workspace.blocks.size := rfl
  have same := program.sameWork_loading kinds Workspace.kindOf Workspace.sink handed workspace
  rw [program.load_eq_loading _ refusing, (program.prune kinds).load_eq_loading _ plain,
    ← same.editor]
  exact ⟨_, _, _, _, rfl, rfl, same.created⟩

/-- Pictures and numbers share ids with blocks that come before them and after them. -/
def muttering : Program where
  id := some "start"
  actions :=
    .link (some "loop") (.forever <|
      .link (some "paint") (.setColor (.block (some "mix") (.rgbColor ⟨1, 2, 3⟩))) <|
      .link (some "late") (.displayImage "a.png") <|
      .link (some "lost") .breakLoop .nil) <|
    .link (some "pause") (.wait (.number 5)) <|
    .link (some "late") (.wait (.block (some "paint") (.number 7))) <|
    .link (some "loop") (.displayImage "b.png") .nil
  next := .nil

theorem load_refusing_muttering :
    let kinds : List Kind := [.displayImage, .number]
    Kind.start ∉ kinds ∧
      muttering.prune kinds =
        ⟨some "start",
          .link (some "loop") (.forever <|
            .link (some "paint") (.setColor (.block (some "mix") (.rgbColor ⟨1, 2, 3⟩))) .nil) <|
          .link (some "pause") (.wait .empty) <|
          .link (some "late") (.wait .empty) .nil,
          .nil⟩ ∧
      ∃ root report pruned after,
        muttering.load (Workspace.sink.refusing kinds Workspace.kindOf) .empty =
            (.ok (root, report), after) ∧
          (muttering.prune kinds).load Workspace.sink .empty = (.ok (root, pruned), after) ∧
          report.created = pruned.created :=
  ⟨by decide, rfl, Program.load_refusing (by decide) muttering .empty⟩

end Marquee
