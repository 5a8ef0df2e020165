import Marquee.Proofs.Editor.Filling
import Marquee.Proofs.Editor.Logging
import Marquee.Editor.Picky

/-!
# What a report counts

Books are kept all through a load, by one step for each sort of part. So the report of a load can be
checked against the log of the editor, whatever the editor refuses.
-/

namespace Marquee

mutual

/-- The ids and kinds of the blocks that an input of a block of some kind is to become. -/
def Input.blocks (parent : Kind) : Input → List (Option String × Kind)
  | .empty => []
  | .number _ => [(none, .number)]
  | .text text => [(none, literalKind parent text)]
  | .block id expression => (id, expression.kind) :: expression.blocks

/-- The blocks inside a value block. -/
def Expression.blocks : Expression → List (Option String × Kind)
  | .compare left _ right => left.blocks .compare ++ right.blocks .compare
  | .number _ => []
  | .randomRange _ _ => []
  | .getVariable _ => []
  | .colorValue _ => []
  | .customColor _ => []
  | .rgbColor _ => []

end

mutual

/-- The blocks inside a statement. -/
def Statement.blocks : Statement → List (Option String × Kind)
  | .start actions => actions.blocks
  | .displayImage _ => []
  | .playAnimation _ _ => []
  | .wait time => time.blocks .wait
  | .branch condition whenTrue whenFalse =>
    condition.blocks .branch ++ (whenTrue.blocks ++ whenFalse.blocks)
  | .setVariable _ value => value.blocks .setVariable
  | .forever body => body.blocks
  | .repeatLoop times body => times.blocks .repeatLoop ++ body.blocks
  | .whileLoop condition body => condition.blocks .whileLoop ++ body.blocks
  | .breakLoop => []
  | .gpio _ _ => []
  | .gpioBranch _ _ whenTrue whenFalse => whenTrue.blocks ++ whenFalse.blocks
  | .gpioTrigger _ _ actions => actions.blocks
  | .setColor color => color.blocks .setColor
  | .value expression => expression.blocks

def Chain.blocks : Chain → List (Option String × Kind)
  | .nil => []
  | .link id statement next => (id, statement.kind) :: (statement.blocks ++ next.blocks)

end

/-- The ids and kinds of the blocks of a program, in the order in which a load comes to them. What
follows the root is never loaded. -/
def Program.blocks (program : Program) : List (Option String × Kind) :=
  (program.id, .start) :: program.actions.blocks

theorem Expression.blocks_eq (expression : Expression) :
    expression.blocks =
      expression.inputs.flatMap fun socket => socket.2.blocks expression.kind := by
  cases expression <;> simp [blocks, inputs, kind]

theorem Statement.blocks_eq (statement : Statement) :
    statement.blocks =
      (statement.inputs.flatMap fun socket => socket.2.blocks statement.kind) ++
        statement.chains.flatMap fun socket => socket.2.blocks := by
  cases statement with
  | value expression => simp [blocks, kind, inputs, chains, expression.blocks_eq]
  | _ => simp [blocks, kind, inputs, chains]

namespace Loading

variable {σ β : Type} (sink : Sink σ β)

/-- Books are kept for steps of one sort after another. -/
theorem Accounted.foldl {α : Type} {known : List β} {blocksOf : α → List (Option String × Kind)}
    {work : Loading (σ × List (Call β)) β → α → Loading (σ × List (Call β)) β}
    {plain : Loading σ β → α → Loading σ β} {items : List α}
    (each : ∀ item ∈ items, Accounted known [] (blocksOf item) (work · item) (plain · item)) :
    Accounted known [] (items.flatMap blocksOf) (items.foldl work) (items.foldl plain) := by
  induction items with
  | nil => exact Accounted.nothing known
  | cons item items inductionHypothesis =>
      obtain ⟨here, others⟩ := List.forall_mem_cons.mp each
      exact here.andThen (inductionHypothesis others)

private theorem accounted_setFields (block : β) (fields : List (String × FieldValue)) :
    Accounted [block] [] [] (setFields sink.logged block fields) (setFields sink block fields) := by
  have each : Accounted [block] [] (fields.flatMap fun _ => []) (setFields sink.logged block fields)
      (setFields sink block fields) :=
    Accounted.foldl fun field _ => accounted_setField sink block field.1 field.2
  rwa [List.flatMap_eq_nil_iff.mpr fun _ _ => rfl] at each

private theorem accounted_plug {parent block : β} {known : List β} (socket : String)
    (parentKnown : parent ∈ known) (blockKnown : block ∈ known) :
    Accounted known [block] [] (fun loading => loading.plug sink.logged parent socket block)
      fun loading => loading.plug sink parent socket block :=
  accounted_settle sink (.value parent socket block) parentKnown blockKnown

private theorem accounted_settleStatement {parent block : β} {known : List β} (socket : String)
    (parentKnown : parent ∈ known) (blockKnown : block ∈ known) :
    Accounted known [block] []
      (fun loading =>
        loading.settle (sink.logged.connectStatement parent socket block loading.editor))
      fun loading => loading.settle (sink.connectStatement parent socket block loading.editor) :=
  accounted_settle sink (.statement parent socket block) parentKnown blockKnown

/-- Nothing is on record at first. -/
theorem bind_lookup_nil (id : Option String) :
    (id.bind fun id => ([] : List (String × β)).lookup id) = none := by
  cases id <;> rfl

/-- Building a block, which nothing outside it is needed for, and hanging it somewhere. -/
theorem Accounted.hang {block parent : β} {blocks : List (Option String × Kind)}
    {build hanging : Loading (σ × List (Call β)) β → Loading (σ × List (Call β)) β}
    {plain hang : Loading σ β → Loading σ β} (builds : Accounted [block] [] blocks build plain)
    (hangs : Accounted [block, parent] [block] [] hanging hang) :
    Accounted [block, parent] [block] blocks (fun loading => hanging (build loading))
      fun loading => hang (plain loading) := by
  have within : [block] ⊆ [block, parent] := List.cons_subset_cons block (List.nil_subset _)
  have both := (builds.weaken within (le_refl _)).andThen hangs
  rw [List.append_nil] at both
  exact both

end Loading

open Loading

section

variable {σ β : Type} (sink : Sink σ β)

private theorem Expression.accounted_load (block : β) (expression : Expression)
    (inputs : ∀ socket held, (socket, held) ∈ expression.inputs →
      Accounted [block] [] (held.blocks expression.kind)
        (held.load sink.logged block expression.kind socket)
        (held.load sink block expression.kind socket)) :
    Accounted [block] [] expression.blocks (expression.load sink.logged block)
      (expression.load sink block) := by
  have plugged := Accounted.foldl fun socket (member : socket ∈ expression.inputs) =>
    inputs socket.1 socket.2 member
  rw [expression.blocks_eq, funext (expression.load_eq sink block),
    funext (expression.load_eq sink.logged block)]
  exact (accounted_setFields sink block expression.fields).andThen plugged

private theorem Input.accounted_load (parent : β) (parentKind : Kind) (socket : String)
    (input : Input) :
    Accounted [parent] [] (input.blocks parentKind)
      (input.load sink.logged parent parentKind socket)
      (input.load sink parent parentKind socket) := by
  have parentKnown (parent block : β) : parent ∈ [block, parent] := by simp
  have blockKnown (parent block : β) : block ∈ [block, parent] := by simp
  have plugged (parent block : β) (socket : String) :=
    accounted_plug sink socket (parentKnown parent block) (blockKnown parent block)
  induction input using Input.socketInduction generalizing parent parentKind socket with
  | empty => exact Accounted.nothing [parent]
  | number value =>
      rw [Input.load_number, Input.load_number]
      exact accounted_make sink _ _ fun block =>
        (accounted_setField sink block "NUMBER" (.number value)).hang (plugged parent block socket)
  | text literal =>
      rw [Input.load_text, Input.load_text]
      exact accounted_make sink _ _ fun block =>
        (accounted_setField sink block "COLOR" (.text literal)).hang (plugged parent block socket)
  | block id expression inductionHypothesis =>
      rw [Input.load_block, Input.load_block]
      refine accounted_make sink _ _ fun block => ?_
      have built := expression.accounted_load sink block fun socket held member =>
        inductionHypothesis socket held member block expression.kind socket
      exact built.hang (plugged parent block socket)

private theorem Statement.accounted_load (block : β) (statement : Statement)
    (chains : ∀ chain ∈ statement.slots, ∀ socket,
      Accounted [block] [] chain.blocks (chain.loadSlot sink.logged block socket)
        (chain.loadSlot sink block socket)) :
    Accounted [block] [] statement.blocks (statement.load sink.logged block)
      (statement.load sink block) := by
  have inputs := Accounted.foldl fun socket (_ : socket ∈ statement.inputs) =>
    socket.2.accounted_load sink block statement.kind socket.1
  have plugged := Accounted.foldl fun socket (member : socket ∈ statement.chains) =>
    chains socket.2 (Statement.mem_slots_of_chains member) socket.1
  rw [statement.blocks_eq, funext (statement.load_eq sink block),
    funext (statement.load_eq sink.logged block)]
  exact (accounted_setFields sink block statement.fields).andThen (inputs.andThen plugged)

private theorem Chain.accounted_load (chain : Chain) :
    (∀ parent socket, Accounted [parent] [] chain.blocks
      (chain.loadSlot sink.logged parent socket) (chain.loadSlot sink parent socket)) ∧
    ∀ previous, Accounted [previous] [] chain.blocks (chain.loadAfter sink.logged previous)
      (chain.loadAfter sink previous) := by
  induction chain using Chain.socketInduction with
  | nil => exact ⟨fun parent _ => Accounted.nothing [parent], fun previous =>
      Accounted.nothing [previous]⟩
  | link id statement next inside after =>
      have built (block : β) := statement.accounted_load sink block
        fun chain member => (inside chain member).1 block
      refine ⟨fun parent socket => ?_, fun previous => ?_⟩
      · rw [Chain.loadSlot_link, Chain.loadSlot_link]
        refine accounted_make sink _ _ fun block => ?_
        have parentKnown : parent ∈ [block, parent] := by simp
        have blockKnown : block ∈ [block, parent] := by simp
        exact ((built block).andThen (after.2 block)).hang
          (accounted_settleStatement sink socket parentKnown blockKnown)
      · rw [Chain.loadAfter_link, Chain.loadAfter_link]
        refine accounted_make sink _ _ fun block => ?_
        have previousKnown : previous ∈ [block, previous] := by simp
        have blockKnown : block ∈ [block, previous] := by simp
        have within : [block] ⊆ [block, previous] :=
          List.cons_subset_cons block (List.nil_subset _)
        have rest := (after.2 block).weaken within (le_refl _)
        exact ((built block).weaken within (le_refl _)).andThen
          (accounted_follow sink previousKnown blockKnown rest)

theorem Chain.accounted_loadSlot (parent : β) (socket : String) (chain : Chain) :
    Accounted [parent] [] chain.blocks (chain.loadSlot sink.logged parent socket)
      (chain.loadSlot sink parent socket) :=
  (chain.accounted_load sink).1 parent socket

/-- A statement is connected to the one before it before what follows is built. -/
theorem Chain.accounted_loadAfter (previous : β) (chain : Chain) :
    Accounted [previous] [] chain.blocks (chain.loadAfter sink.logged previous)
      (chain.loadAfter sink previous) :=
  (chain.accounted_load sink).2 previous

/-- The editor made the start block if the load gives a report. -/
theorem Program.allocate_of_load {program : Program} {editor after : σ} {root : β}
    {report : LoadReport} (loaded : program.load sink editor = (.ok (root, report), after)) :
    (sink.allocate .start editor).1 = .ok root := by
  simp only [Program.load, place, Loading.start] at loaded
  rw [bind_lookup_nil] at loaded
  dsimp only at loaded
  generalize sink.allocate .start editor = answer at loaded ⊢
  obtain ⟨refusal | block, middle⟩ := answer
  · cases loaded
  · cases loaded
    rfl

/-- A load as it is at the end, with what it has on record. -/
def Program.loading (program : Program) (editor : σ) : Loading σ β :=
  make sink program.id .start (program.actions.loadSlot sink · "DO") (.start editor)

/-- From a start block that was made, the load goes on like that of any other block. -/
theorem Program.load_eq_loading (program : Program) {editor : σ} {root : β}
    (allowed : (sink.allocate .start editor).1 = .ok root) :
    program.load sink editor =
      (.ok (root, (program.loading sink editor).report), (program.loading sink editor).editor) := by
  simp only [Program.load, Program.loading, make, place, Loading.start]
  rw [bind_lookup_nil]
  dsimp only
  generalize sink.allocate .start editor = answer at allowed ⊢
  obtain ⟨refusal | block, middle⟩ := answer
  · cases allowed
  · cases allowed
    rfl

/-- Books are kept of a whole load. -/
theorem Program.accounted_loading (program : Program) (editor : σ) :
    (program.loading sink.logged (editor, [])).forget = program.loading sink editor ∧
      ∃ log entries, Books [] [] program.blocks (.start (editor, []))
        (program.loading sink.logged (editor, [])) log entries := by
  have unhung (block : β) : (([] : List β) : Multiset β) ≤ ([block] : List β) :=
    Multiset.zero_le _
  have building (block : β) := (program.actions.accounted_loadSlot sink block "DO").weaken
    (List.Subset.refl [block]) (unhung block)
  exact accounted_make sink program.id .start building (.start (editor, []))

/-- The same load into an editor that keeps a log gives the same, and books are kept of it. -/
theorem Program.exists_books {program : Program} {editor after : σ} {root : β} {report : LoadReport}
    (loaded : program.load sink editor = (.ok (root, report), after)) :
    ∃ log entries, program.load sink.logged (editor, []) = (.ok (root, report), (after, log)) ∧
      (program.loading sink.logged (editor, [])).forget = program.loading sink editor ∧
      (program.loading sink.logged (editor, [])).report = report ∧
      Books [] [] program.blocks (.start (editor, []))
        (program.loading sink.logged (editor, [])) log entries := by
  have allowed := program.allocate_of_load sink loaded
  have logged : (sink.logged.allocate .start (editor, [])).1 = .ok root := allowed
  rw [program.load_eq_loading sink allowed] at loaded
  rw [program.load_eq_loading sink.logged logged]
  obtain ⟨plain, log, entries, books⟩ := program.accounted_loading sink editor
  rw [← plain] at loaded
  cases loaded
  have written : _ = [] ++ log := books.written
  rw [List.nil_append] at written
  refine ⟨log, entries, ?_, plain, rfl, books⟩
  rw [← written]
  rfl

/-- A load that gives a report, and the same load into an editor that keeps a log of the calls it
answers. The report counts the blocks that were made and the calls, but for those about fields, that
were refused. The entries tell which blocks of the program were made and, in the order in which they
went on record, with which ids; no id comes twice. All calls are about blocks that were made before,
and a block was to be hung somewhere only once. -/
theorem Program.load_accounted {program : Program} {editor after : σ} {root : β}
    {report : LoadReport} (loaded : program.load sink editor = (.ok (root, report), after)) :
    ∃ log, program.load sink.logged (editor, []) = (.ok (root, report), (after, log)) ∧
      report.created = (madeBlocks log).length ∧
      report.skipped = log.countP Call.isSkip ∧
      (∃ entries : List (Made β), (entries.map Made.wanted).Sublist program.blocks ∧
        entries.map Made.kind = madeKinds log ∧ entries.map Made.block = madeBlocks log ∧
        (program.loading sink editor).placed = (entries.filterMap Made.recorded?).reverse ∧
        (entries.filterMap Made.id).Nodup) ∧
      Known [] log ∧
      (children log).Subperm (madeBlocks log) := by
  have allowed := program.allocate_of_load sink loaded
  have logged : (sink.logged.allocate .start (editor, [])).1 = .ok root := allowed
  rw [program.load_eq_loading sink allowed] at loaded
  rw [program.load_eq_loading sink.logged logged]
  obtain ⟨plain, log, entries, books⟩ := program.accounted_loading sink editor
  rw [← plain] at loaded ⊢
  cases loaded
  have written : _ = [] ++ log := books.written
  have created : _ = 0 + (madeBlocks log).length := books.created
  have skipped : _ = 0 + log.countP Call.isSkip := books.skipped
  have placed : _ = _ ++ [] := books.placed
  have nodup := books.nodup List.nodup_nil
  rw [List.nil_append] at written
  rw [Nat.zero_add] at created skipped
  rw [List.append_nil] at placed
  rw [recorded, placed, List.map_reverse, List.nodup_reverse, Made.map_recorded] at nodup
  refine ⟨log, ?_, created, skipped, ⟨entries, books.among, books.kinds, books.handles, placed,
    nodup⟩, books.calls, ?_⟩
  · rw [← written]
    rfl
  · exact Multiset.coe_le.mp (books.hung.trans (le_of_eq (zero_add _)))

/-- A program with an id that comes a second time, inside the block that it belongs to. -/
def tangled : Program where
  id := none
  actions :=
    .link (some "loop") (.forever <|
      .link (some "wait") (.wait (.number 5)) <|
      .link (some "loop") .breakLoop .nil) <|
    .link none (.displayImage "hi.png") <|
    .link (some "paint") (.setColor (.text "#ABCDEF")) .nil
  next := .nil

/-- An editor that makes no blocks for pictures and plugs nothing into `TIME`. -/
def withoutPictures : Sink Workspace Nat :=
  Dislikes.sink ⟨[.displayImage], [], ["TIME"]⟩ Workspace.kindOf Workspace.sink

theorem load_accounted_tangled :
    (tangled.load withoutPictures .empty).1 = .ok (0, ⟨4, 1, 2⟩) ∧
      ∃ log, (tangled.load withoutPictures.logged (.empty, [])).2.2 = log ∧
        (madeBlocks log).length = 4 ∧ log.countP Call.isSkip = 2 ∧
        Known [] log ∧ children log = [3, 2, 1] := by
  have loaded : tangled.load withoutPictures .empty =
      (.ok (0, ⟨4, 1, 2⟩), (tangled.load withoutPictures .empty).2) := rfl
  obtain ⟨log, logged, created, skipped, -, known, -⟩ :=
    Program.load_accounted withoutPictures loaded
  have written : (tangled.load withoutPictures.logged (.empty, [])).2.2 = log :=
    congrArg (fun outcome => outcome.2.2) logged
  refine ⟨rfl, log, written, created.symm, skipped.symm, known, ?_⟩
  rw [← written]
  rfl

end

end Marquee
