import Marquee.Proofs.Editor.Accounting
import Marquee.Proofs.Editor.Growth
import Marquee.Proofs.Program.Normal

/-!
# Loads without trouble

What the report of a load counts is never taken back. So if nothing was reused or skipped in the
end, then no step on the way met an id again or was refused. The ids of such a program are
different; and if a workspace has taken it, everything in it stands where it can stand.
-/

namespace Marquee

private theorem Input.ids_blocks (input : Input) (parent : Kind) :
    (input.blocks parent).filterMap Prod.fst = input.ids := by
  induction input using Input.socketInduction generalizing parent with
  | empty => rfl
  | number value => rfl
  | text literal => rfl
  | block id expression inductionHypothesis =>
      have inside : expression.blocks.filterMap Prod.fst = expression.ids := by
        rw [expression.blocks_eq, expression.ids_eq, List.filterMap_flatMap]
        exact List.flatMap_congr fun socket member =>
          inductionHypothesis socket.1 socket.2 member expression.kind
      cases id with
      | none => exact inside
      | some name => exact congrArg (List.cons name) inside

private theorem Statement.ids_blocks {statement : Statement}
    (inside : ∀ chain ∈ statement.slots, chain.blocks.filterMap Prod.fst = chain.ids) :
    statement.blocks.filterMap Prod.fst = statement.ids := by
  have chains : (statement.chains.flatMap fun socket => socket.2.blocks.filterMap Prod.fst) =
      statement.chains.flatMap fun socket => socket.2.ids :=
    List.flatMap_congr fun socket member => inside _ (Statement.mem_slots_of_chains member)
  rw [statement.blocks_eq, statement.ids_eq, List.filterMap_append, List.filterMap_flatMap,
    List.filterMap_flatMap, chains]
  simp only [Input.ids_blocks]

theorem Chain.ids_blocks (chain : Chain) : chain.blocks.filterMap Prod.fst = chain.ids := by
  induction chain using Chain.socketInduction with
  | nil => rfl
  | link id statement next inside after =>
      have both : (statement.blocks ++ next.blocks).filterMap Prod.fst =
          statement.ids ++ next.ids := by
        rw [List.filterMap_append, Statement.ids_blocks inside, after]
      cases id with
      | none => exact both
      | some name => exact congrArg (List.cons name) both

theorem Program.ids_blocks (program : Program) :
    program.blocks.filterMap Prod.fst = program.id.toList ++ program.actions.ids := by
  rw [← program.actions.ids_blocks, blocks]
  cases program.id <;> rfl

namespace Loading

section

variable {σ β : Type} {sink : Sink σ β}

/-- No id was met again so far, and nothing was refused that counts as skipped. -/
def Clean (loading : Loading σ β) : Prop :=
  loading.report.reused = 0 ∧ loading.report.skipped = 0

theorem Accounted.clean {known loose : List β} {blocks : List (Option String × Kind)}
    {work : Loading (σ × List (Call β)) β → Loading (σ × List (Call β)) β}
    {plain : Loading σ β → Loading σ β} (accounted : Accounted known loose blocks work plain)
    {loading : Loading σ β} (clean : (plain loading).Clean) : loading.Clean := by
  let before : Loading (σ × List (Call β)) β :=
    ⟨(loading.editor, []), loading.placed, loading.report⟩
  obtain ⟨same, log, entries, books⟩ := accounted before
  have plainly : (work before).forget = plain loading := same
  rw [← plainly] at clean
  have noneReused : (work before).report.reused = 0 := clean.1
  have noneSkipped : (work before).report.skipped = 0 := clean.2
  have reused : loading.report.reused ≤ _ := books.reused
  have skipped : _ = loading.report.skipped + _ := books.skipped
  exact ⟨by omega, by omega⟩

private theorem exists_of_clean_make {id : Option String} {kind : Kind}
    {build : β → Loading σ β → Loading σ β} {loading : Loading σ β}
    (clean : (make sink id kind build loading).Clean) :
    ∃ block after, loading.place sink id kind = (.fresh block, after) ∧
      (build block after).Clean := by
  simp only [make, place] at clean ⊢
  generalize (id.bind fun id => loading.placed.lookup id) = found at clean ⊢
  cases found with
  | some block => exact absurd clean.1 (Nat.succ_ne_zero _)
  | none =>
      dsimp only at clean ⊢
      generalize sink.allocate kind loading.editor = answer at clean ⊢
      obtain ⟨refusal | block, editor⟩ := answer
      · exact absurd clean.2 (Nat.succ_ne_zero _)
      · exact ⟨block, _, rfl, clean⟩

private theorem clean_settle {loading : Loading σ β} {answer : Except Refusal Unit × σ}
    (clean : (loading.settle answer).Clean) : answer.1 = .ok () ∧ loading.Clean := by
  obtain ⟨refusal | granted, editor⟩ := answer
  · exact absurd clean.2 (Nat.succ_ne_zero _)
  · exact ⟨rfl, clean⟩

private theorem exists_of_clean_follow {previous block : β} {rest : Loading σ β → Loading σ β}
    {loading : Loading σ β} (clean : (loading.follow sink previous block rest).Clean) :
    ∃ editor, sink.connectNext previous block loading.editor = (.ok (), editor) ∧
      (rest { loading with editor }).Clean := by
  simp only [follow] at clean
  generalize sink.connectNext previous block loading.editor = answer at clean ⊢
  obtain ⟨refusal | granted, editor⟩ := answer
  · exact absurd clean.2 (Nat.succ_ne_zero _)
  · exact ⟨editor, rfl, clean⟩

end

end Loading

open Loading

/-- The ids of a program that was loaded without trouble are different, whatever the editor. -/
theorem Program.distinct_of_clean {σ β : Type} {sink : Sink σ β} {program : Program} {editor : σ}
    (clean : (program.loading sink editor).Clean) :
    (program.id.toList ++ program.actions.ids).Nodup := by
  obtain ⟨same, log, entries, books⟩ := program.accounted_loading sink editor
  rw [← same] at clean
  have complete : entries.map Made.wanted = program.blocks := books.complete clean.1 clean.2
  have ids : entries.filterMap Made.id = program.id.toList ++ program.actions.ids := by
    rw [← program.ids_blocks, ← complete, List.filterMap_map]
    rfl
  have placed : _ = _ ++ [] := books.placed
  have nodup := books.nodup List.nodup_nil
  rw [List.append_nil] at placed
  rw [recorded, placed, List.map_reverse, List.nodup_reverse, Made.map_recorded, ids] at nodup
  exact nodup

namespace Workspace

variable {workspace : Workspace}

private theorem keeps_kind (handle : Nat) (kind : Kind) :
    sink.Keeps fun workspace => workspace.kind? handle = some kind := by
  refine sink_keeps fun {before after} there change => ?_
  cases change with
  | nothing => exact there
  | add other =>
      rw [kind?, own?_add, if_neg (Nat.ne_of_lt (lt_size_of_kind? there))]
      exact there
  | write value _ _ =>
      rw [kind?_writeField]
      exact there
  | attach _ _ _ _ =>
      rw [(sameBlocks_attach ..).kind?]
      exact there

private theorem kind?_of_place {loading after : Loading Workspace Nat} {id : Option String}
    {kind : Kind} {block : Nat} (placed : loading.place sink id kind = (.fresh block, after)) :
    after.editor.kind? block = some kind := by
  simp only [place] at placed
  cases found : id.bind fun id => loading.placed.lookup id with
  | some old =>
      rw [found] at placed
      cases placed
  | none =>
      rw [found] at placed
      cases placed
      dsimp only
      have last : (loading.editor.add kind).1 = loading.editor.blocks.size := rfl
      rw [kind?, own?_add, if_pos last]
      rfl

private theorem kind?_place {loading after : Loading Workspace Nat} {id : Option String}
    {kind other : Kind} {block handle : Nat} (there : loading.editor.kind? handle = some other)
    (placed : loading.place sink id kind = (.fresh block, after)) :
    after.editor.kind? handle = some other := by
  have kept := keeps_make (keeps_kind handle other) id kind (fun _ _ made => made) there
  rw [make, placed] at kept
  exact kept

section

variable {parent child : Nat} {above below : Kind}

private theorem hasPrevious_of_connectStatement {socket : String}
    (kindBelow : workspace.kind? child = some below)
    (granted : (sink.connectStatement parent socket child workspace).1 = .ok ()) :
    below.hasPrevious = true := by
  simp only [sink, connectStatement] at granted
  cases refused : workspace.plugRefusal? Kind.statementSockets statementFault? parent socket
      child with
  | some refusal =>
      rw [refused] at granted
      cases granted
  | none =>
      obtain ⟨_, found, _, same, _, fits, _⟩ := plugRefusal?_eq_none_iff.mp refused
      rw [kindBelow] at same
      cases same
      exact statementFault?_eq_none_iff.mp fits

private theorem joins_of_connectNext {editor : Workspace}
    (kindAbove : workspace.kind? parent = some above)
    (kindBelow : workspace.kind? child = some below)
    (granted : sink.connectNext parent child workspace = (.ok (), editor)) :
    above.hasNext = true ∧ below.hasPrevious = true := by
  simp only [sink, connectNext] at granted
  cases refused : workspace.linkRefusal? parent child with
  | some refusal =>
      rw [refused] at granted
      cases granted
  | none =>
      obtain ⟨_, _, sameAbove, sameBelow, follows, previous, _⟩ :=
        linkRefusal?_eq_none_iff.mp refused
      rw [kindAbove] at sameAbove
      rw [kindBelow] at sameBelow
      cases sameAbove
      cases sameBelow
      exact ⟨follows, previous⟩

end

end Workspace

open Workspace

private theorem Chain.placed_link {id : Option String} {statement : Statement} {next : Chain}
    (previous : statement.kind.hasPrevious = true) (inside : statement.Placed)
    (rest : next.Placed) (follows : next ≠ .nil → statement.kind.hasNext = true) :
    (Chain.link id statement next).Placed := by
  refine ⟨⟨?_, ?_, ?_⟩, inside, rest⟩
  · intro isStart
    rw [isStart] at previous
    cases previous
  · cases value : statement.kind.isValue with
    | false => rfl
    | true => simp [Kind.hasPrevious, value] at previous
  · intro isBreak
    by_contra more
    have hasNext := follows more
    rw [isBreak] at hasNext
    cases hasNext

mutual

theorem Statement.placed_of_clean (block : Nat) (statement : Statement)
    (loading : Loading Workspace Nat) (clean : (statement.load sink block loading).Clean) :
    statement.Placed := by
  match statement with
  | .start actions => exact actions.placed_of_clean_loadSlot block "DO" loading clean
  | .displayImage _ => trivial
  | .playAnimation _ _ => trivial
  | .wait _ => trivial
  | .branch condition whenTrue whenFalse =>
      rw [Statement.load] at clean
      have before := (whenFalse.accounted_loadSlot sink block "FALSE").clean clean
      exact ⟨whenTrue.placed_of_clean_loadSlot block "TRUE" _ before,
        whenFalse.placed_of_clean_loadSlot block "FALSE" _ clean⟩
  | .setVariable _ _ => trivial
  | .forever body => exact body.placed_of_clean_loadSlot block "DO" loading clean
  | .repeatLoop times body =>
      rw [Statement.load] at clean
      exact body.placed_of_clean_loadSlot block "DO" _ clean
  | .whileLoop condition body =>
      rw [Statement.load] at clean
      exact body.placed_of_clean_loadSlot block "DO" _ clean
  | .breakLoop => trivial
  | .gpio _ _ => trivial
  | .gpioBranch _ _ whenTrue whenFalse =>
      rw [Statement.load] at clean
      have before := (whenFalse.accounted_loadSlot sink block "FALSE").clean clean
      exact ⟨whenTrue.placed_of_clean_loadSlot block "TRUE" _ before,
        whenFalse.placed_of_clean_loadSlot block "FALSE" _ clean⟩
  | .gpioTrigger _ _ actions =>
      rw [Statement.load] at clean
      exact actions.placed_of_clean_loadSlot block "DO" _ clean
  | .setColor _ => trivial
  | .value _ => trivial

theorem Chain.placed_of_clean_loadSlot (parent : Nat) (socket : String) (chain : Chain)
    (loading : Loading Workspace Nat) (clean : (chain.loadSlot sink parent socket loading).Clean) :
    chain.Placed := by
  match chain with
  | .nil => trivial
  | .link id statement next =>
      rw [Chain.loadSlot_link] at clean
      obtain ⟨block, after, placed, built⟩ := exists_of_clean_make clean
      have known := kind?_of_place placed
      have keeps := keeps_kind block statement.kind
      have made := statement.keeps_load keeps block after known
      have finished := next.keeps_loadAfter keeps block _ made
      obtain ⟨granted, whole⟩ := clean_settle built
      have previous := hasPrevious_of_connectStatement finished granted
      have before := (next.accounted_loadAfter sink block).clean whole
      obtain ⟨rest, follows⟩ := next.placed_of_clean_loadAfter block made whole
      exact Chain.placed_link previous (statement.placed_of_clean block after before) rest follows

theorem Chain.placed_of_clean_loadAfter {kind : Kind} (previous : Nat) (chain : Chain)
    {loading : Loading Workspace Nat} (there : loading.editor.kind? previous = some kind)
    (clean : (chain.loadAfter sink previous loading).Clean) :
    chain.Placed ∧ (chain ≠ .nil → kind.hasNext = true) := by
  match chain with
  | .nil => exact ⟨trivial, fun more => absurd rfl more⟩
  | .link id statement next =>
      rw [Chain.loadAfter_link] at clean
      obtain ⟨block, after, placed, built⟩ := exists_of_clean_make clean
      have known := kind?_of_place placed
      have keeps := keeps_kind block statement.kind
      have made := statement.keeps_load keeps block after known
      have stillThere := kind?_place there placed
      have above := statement.keeps_load (keeps_kind previous kind) block after stillThere
      obtain ⟨editor, granted, whole⟩ := exists_of_clean_follow built
      obtain ⟨hasNext, hasPrevious⟩ := joins_of_connectNext above made granted
      have linked : editor.kind? block = some statement.kind := by
        have after := keeps.connectNext previous block _ made
        rw [granted] at after
        exact after
      have before := (next.accounted_loadAfter sink block).clean whole
      obtain ⟨rest, follows⟩ := next.placed_of_clean_loadAfter block linked whole
      have inside := statement.placed_of_clean block after before
      exact ⟨Chain.placed_link hasPrevious inside rest follows, fun _ => hasNext⟩

end

/-- A program that a workspace has taken without trouble stands right, and its ids are different. -/
theorem Program.placed_of_load {program : Program} {editor after : Workspace} {root created : Nat}
    (loaded : program.load sink editor = (.ok (root, ⟨created, 0, 0⟩), after)) :
    program.actions.Placed ∧ (program.id.toList ++ program.actions.ids).Nodup := by
  have allowed := program.allocate_of_load sink loaded
  rw [program.load_eq_loading sink allowed] at loaded
  obtain ⟨answered, _⟩ := Prod.mk.inj loaded
  have report : (program.loading sink editor).report = ⟨created, 0, 0⟩ :=
    congrArg Prod.snd (Except.ok.inj answered)
  have clean : (program.loading sink editor).Clean := by
    rw [Clean, report]
    exact ⟨rfl, rfl⟩
  obtain ⟨block, made, _, built⟩ := exists_of_clean_make clean
  exact ⟨program.actions.placed_of_clean_loadSlot block "DO" made built,
    program.distinct_of_clean clean⟩

end Marquee
