import Marquee.Proofs.Editor.Accounting
import Marquee.Proofs.Editor.Keeping
import Marquee.Proofs.Program.Scopes

/-!
# Ids that come again

A load that skips nothing walks the scopes of its program: it puts the ids on record that the walk
meets. So an id that comes a second time costs nothing if what is inside and after the second block
came before, and else may cost the blocks that are there.
-/

namespace Marquee

namespace Loading

variable {σ β : Type}

/-- What was met on a walk through scopes is on record after it, if nothing was skipped. -/
structure Walked (scopes : Scopes) (before after : Loading σ β) : Prop where
  skipped : before.report.skipped ≤ after.report.skipped
  recorded : after.report.skipped = before.report.skipped →
    after.recorded = scopes.met before.recorded

/-- Work on a load that walks scopes. -/
def Walks (scopes : Scopes) (work : Loading σ β → Loading σ β) : Prop :=
  ∀ before, Walked scopes before (work before)

theorem Walked.nothing (loading : Loading σ β) : Walked .nil loading loading :=
  ⟨Nat.le_refl _, fun _ => rfl⟩

theorem Walked.trans {first second : Scopes} {before middle after : Loading σ β}
    (early : Walked first before middle) (late : Walked second middle after) :
    Walked (first ++ second) before after where
  skipped := Nat.le_trans early.skipped late.skipped
  recorded none := by
    have earlySkipped := early.skipped
    have lateSkipped := late.skipped
    rw [late.recorded (by omega), early.recorded (by omega), Scopes.met_append]

/-- Where something was skipped, nothing is said about the record. -/
theorem Walked.skip {before after : Loading σ β}
    (skipped : after.report.skipped = before.report.skipped + 1) (scopes : Scopes) :
    Walked scopes before after :=
  ⟨by omega, fun none => by omega⟩

theorem Walks.andThen {first second : Scopes} {work rest : Loading σ β → Loading σ β}
    (early : Walks first work) (late : Walks second rest) :
    Walks (first ++ second) fun loading => rest (work loading) :=
  fun before => (early before).trans (late (work before))

/-- A walk may end with steps that are none. -/
theorem Walks.close {scopes : Scopes} {work rest : Loading σ β → Loading σ β}
    (early : Walks scopes work) (late : Walks .nil rest) :
    Walks scopes fun loading => rest (work loading) := by
  intro before
  have both := early.andThen late before
  refine ⟨both.skipped, fun none => ?_⟩
  rw [both.recorded none, Scopes.met_append]
  rfl

/-- A walk through scopes one after another, one step for each. -/
theorem Walks.foldl {α : Type} {scopesOf : α → Scopes} {work : Loading σ β → α → Loading σ β}
    {items : List α} (each : ∀ item ∈ items, Walks (scopesOf item) (work · item)) :
    Walks (.flatten (items.map scopesOf)) (items.foldl work) := by
  induction items with
  | nil => exact Walked.nothing
  | cons item items inductionHypothesis =>
      obtain ⟨here, others⟩ := List.forall_mem_cons.mp each
      exact here.andThen (inductionHypothesis others)

section

variable (sink : Sink σ β)

private theorem walks_setField (block : β) (field : String) (value : FieldValue) :
    Walks .nil (setField sink block field value) :=
  fun _ => ⟨Nat.le_refl _, fun _ => rfl⟩

private theorem walks_setFields (block : β) (fields : List (String × FieldValue)) :
    Walks .nil (setFields sink block fields) := by
  induction fields with
  | nil => exact Walked.nothing
  | cons field fields inductionHypothesis =>
      exact (walks_setField sink block field.1 field.2).close inductionHypothesis

private theorem walks_settle (ask : σ → Except Refusal Unit × σ) :
    Walks .nil fun loading : Loading σ β => loading.settle (ask loading.editor) := by
  intro before
  dsimp only
  generalize ask before.editor = answer
  obtain ⟨refusal | granted, editor⟩ := answer
  · exact .skip rfl _
  · exact ⟨Nat.le_refl _, fun _ => rfl⟩

private theorem walks_plug (parent : β) (socket : String) (child : β) :
    Walks .nil fun loading => loading.plug sink parent socket child :=
  walks_settle (sink.connectValue parent socket child)

/-- A block is found by an id that is on record. -/
theorem isSome_lookup (id : Option String) (loading : Loading σ β) :
    (id.bind fun id => loading.placed.lookup id).isSome = Scopes.repeats id loading.recorded := by
  cases id with
  | none => rfl
  | some name =>
      rw [Bool.eq_iff_iff, Scopes.repeats_iff, Option.bind_some, List.lookup_isSome_iff]
      constructor
      · rintro ⟨entry, among, same⟩
        rw [beq_iff_eq] at same
        exact ⟨name, rfl, same ▸ List.mem_map_of_mem among⟩
      · rintro ⟨_, ⟨⟩, member⟩
        obtain ⟨entry, among, same⟩ := List.mem_map.mp member
        exact ⟨entry, among, beq_iff_eq.mpr same.symm⟩

private theorem walks_make {id : Option String} {kind : Kind} {scope : Scopes}
    {build : β → Loading σ β → Loading σ β} (builds : ∀ block, Walks scope (build block)) :
    Walks (.block id scope .nil) (make sink id kind build) := by
  intro before
  have repeated := isSome_lookup id before
  simp only [make, place]
  generalize (id.bind fun id => before.placed.lookup id) = found at repeated ⊢
  cases found with
  | some block =>
      refine ⟨Nat.le_refl _, fun _ => ?_⟩
      rw [Scopes.met, ← repeated]
      rfl
  | none =>
      generalize sink.allocate kind before.editor = answer
      obtain ⟨refusal | block, editor⟩ := answer
      · exact .skip rfl _
      · have built := builds block (before.enter id block editor)
        have entered : (before.enter id block editor).recorded = id.toList ++ before.recorded := by
          cases id <;> rfl
        refine ⟨built.skipped, fun same => (built.recorded same).trans ?_⟩
        rw [entered, Scopes.met, ← repeated, Scopes.met]
        rfl

private theorem walks_follow {previous block : β} {scopes : Scopes}
    {rest : Loading σ β → Loading σ β} (rests : Walks scopes rest) :
    Walks scopes (follow sink previous block rest) := by
  intro before
  simp only [follow]
  generalize sink.connectNext previous block before.editor = answer
  obtain ⟨refusal | granted, editor⟩ := answer
  · exact .skip rfl _
  · have rested := rests { before with editor }
    exact ⟨rested.skipped, rested.recorded⟩

end

end Loading

open Loading

section

variable {σ β : Type} (sink : Sink σ β)

private theorem Expression.walks_load (block : β) (expression : Expression)
    (inputs : ∀ socket held, (socket, held) ∈ expression.inputs →
      Walks held.scopes (held.load sink block expression.kind socket)) :
    Walks expression.scopes (expression.load sink block) := by
  have plugged := Walks.foldl fun socket (member : socket ∈ expression.inputs) =>
    inputs socket.1 socket.2 member
  rw [expression.scopes_eq, funext (expression.load_eq sink block)]
  exact (walks_setFields sink block expression.fields).andThen plugged

private theorem Input.walks_load (parent : β) (parentKind : Kind) (socket : String)
    (input : Input) : Walks input.scopes (input.load sink parent parentKind socket) := by
  induction input using Input.socketInduction generalizing parent parentKind socket with
  | empty => exact Walked.nothing
  | number value =>
      rw [Input.load_number]
      exact walks_make sink fun block =>
        (walks_setField sink block "NUMBER" (.number value)).close
          (walks_plug sink parent socket block)
  | text literal =>
      rw [Input.load_text]
      exact walks_make sink fun block =>
        (walks_setField sink block "COLOR" (.text literal)).close
          (walks_plug sink parent socket block)
  | block id expression inductionHypothesis =>
      rw [Input.load_block]
      refine walks_make sink fun block => ?_
      have built := expression.walks_load sink block fun socket held member =>
        inductionHypothesis socket held member block expression.kind socket
      exact built.close (walks_plug sink parent socket block)

private theorem Statement.walks_load (block : β) (statement : Statement)
    (chains : ∀ chain ∈ statement.slots, ∀ socket,
      Walks chain.scopes (chain.loadSlot sink block socket)) :
    Walks statement.scopes (statement.load sink block) := by
  have inputs := Walks.foldl fun socket (_ : socket ∈ statement.inputs) =>
    socket.2.walks_load sink block statement.kind socket.1
  have plugged := Walks.foldl fun socket (member : socket ∈ statement.chains) =>
    chains socket.2 (Statement.mem_slots_of_chains member) socket.1
  rw [statement.scopes_eq, funext (statement.load_eq sink block)]
  exact (walks_setFields sink block statement.fields).andThen (inputs.andThen plugged)

private theorem Chain.walks_load (chain : Chain) :
    (∀ parent socket, Walks chain.scopes (chain.loadSlot sink parent socket)) ∧
      ∀ previous, Walks chain.scopes (chain.loadAfter sink previous) := by
  induction chain using Chain.socketInduction with
  | nil => exact ⟨fun _ _ => Walked.nothing, fun _ => Walked.nothing⟩
  | link id statement next inside after =>
      have built (block : β) := statement.walks_load sink block
        fun chain member => (inside chain member).1 block
      refine ⟨fun parent socket => ?_, fun previous => ?_⟩
      · rw [Chain.loadSlot_link]
        refine walks_make sink fun block => ?_
        exact ((built block).andThen (after.2 block)).close
          (walks_settle (sink.connectStatement parent socket block))
      · rw [Chain.loadAfter_link]
        refine walks_make sink fun block => ?_
        exact (built block).andThen (walks_follow sink (after.2 block))

private theorem Program.walked_loading (program : Program) (editor : σ) :
    Walked program.scopes (.start editor) (program.loading sink editor) :=
  walks_make sink (fun block => (program.actions.walks_load sink).1 block "DO") (.start editor)

/-- Also where the editor may refuse some things: a load that skips nothing has put on record what
the walk meets. -/
theorem Program.recorded_of_unskipped {program : Program} {editor : σ}
    (none : (program.loading sink editor).report.skipped = 0) :
    (program.loading sink editor).recorded = program.scopes.met [] :=
  (program.walked_loading sink editor).recorded none

end

section

variable {σ β : Type} {sink : Sink σ β}

/-- An editor that makes every block and every connection that it is asked for. -/
structure Sink.Lenient (sink : Sink σ β) : Prop where
  allocate : ∀ kind editor, ∃ block, (sink.allocate kind editor).1 = .ok block
  connect : ∀ connection editor, (sink.connect connection editor).1 = .ok ()

private theorem countP_log {α : Type} {calls : List (Call β)} {call : Except Refusal α → Call β}
    {answer : Except Refusal α × σ} (none : calls.countP Call.isSkip = 0)
    (granted : (call answer.1).isSkip = false) :
    (Sink.log calls call answer).2.2.countP Call.isSkip = 0 := by
  rw [Sink.log, List.countP_append, none, List.countP_singleton, granted]
  rfl

/-- No refusal comes into its log. -/
theorem Sink.Lenient.keeps (lenient : sink.Lenient) :
    sink.logged.Keeps fun state => state.2.countP Call.isSkip = 0 := by
  have connected (connection : Connection β) (state : σ × List (Call β))
      (none : state.2.countP Call.isSkip = 0) :
      (sink.logged.connect connection state).2.2.countP Call.isSkip = 0 := by
    rw [Sink.connect_logged]
    refine countP_log none ?_
    rw [lenient.connect]
    rfl
  refine ⟨?_, ?_, ?_, ?_, ?_⟩
  · intro kind state none
    obtain ⟨block, made⟩ := lenient.allocate kind state.1
    refine countP_log none ?_
    rw [made]
    rfl
  · intro block field value state none
    exact countP_log none rfl
  · intro parent socket child state none
    exact connected (.statement parent socket child) state none
  · intro parent socket child state none
    exact connected (.value parent socket child) state none
  · intro previous child state none
    exact connected (.next previous child) state none

/-- What is on record was made. -/
theorem Loading.Books.made_of_placed {known loose : List β} {blocks : List (Option String × Kind)}
    {before after : Loading (σ × List (Call β)) β} {log : List (Call β)} {entries : List (Made β)}
    (books : Books known loose blocks before after log entries) (empty : before.placed = [])
    {name : String} {block : β} (member : (name, block) ∈ after.placed) :
    block ∈ madeBlocks log := by
  rw [books.placed, empty, List.append_nil, List.mem_reverse, List.mem_filterMap] at member
  obtain ⟨entry, among, found⟩ := member
  obtain ⟨_, _, same⟩ := Option.map_eq_some_iff.mp found
  cases same
  rw [← books.handles]
  exact List.mem_map_of_mem among

/-- A load into an editor that refuses nothing, and which ids have a block of their own after it:
those that a walk meets which passes over what is inside and after a block with an id that it has
met before. These are all ids of the program if nothing follows the root and what is inside and
after blocks that repeat an id came before. -/
theorem Program.ids_loaded (lenient : sink.Lenient) (program : Program) (editor : σ) :
    ∃ root report after log,
      program.load sink editor = (.ok (root, report), after) ∧
      program.load sink.logged (editor, []) = (.ok (root, report), (after, log)) ∧
      (∀ id, (∃ block ∈ madeBlocks log, (id, block) ∈ (program.loading sink editor).placed) ↔
        id ∈ program.scopes.met []) ∧
      (program.next = .nil → program.scopes.NothingNew [] → ∀ id ∈ program.ids,
        ∃ block ∈ madeBlocks log, (id, block) ∈ (program.loading sink editor).placed) := by
  obtain ⟨root, allowed⟩ := lenient.allocate .start editor
  have loaded := program.load_eq_loading sink allowed
  obtain ⟨log, entries, logged, plain, _, books⟩ := program.exists_books sink loaded
  have unrefused := program.keeps_load lenient.keeps (editor, []) rfl
  rw [logged] at unrefused
  have skipped : _ = 0 + log.countP Call.isSkip := books.skipped
  rw [unrefused] at skipped
  have unskipped : (program.loading sink editor).report.skipped = 0 := by
    rw [← plain]
    exact skipped
  have recorded := program.recorded_of_unskipped sink unskipped
  have met (id : String) :
      (∃ block ∈ madeBlocks log, (id, block) ∈ (program.loading sink editor).placed) ↔
        id ∈ program.scopes.met [] := by
    rw [← recorded, Loading.recorded, List.mem_map]
    constructor
    · rintro ⟨block, _, member⟩
      exact ⟨(id, block), member, rfl⟩
    · rintro ⟨⟨name, block⟩, member, rfl⟩
      have noted : (name, block) ∈ (program.loading sink.logged (editor, [])).placed := by
        rw [← plain] at member
        exact member
      exact ⟨block, books.made_of_placed rfl noted, member⟩
  refine ⟨root, _, _, log, loaded, logged, met, fun alone nothingNew id member => ?_⟩
  rw [met, Scopes.mem_met_iff nothingNew (fun _ => Iff.rfl), program.ids_scopes alone]
  exact Or.inl member

end

/-- An editor that counts its blocks and takes every connection. -/
def counting : Sink Nat Nat where
  allocate _ made := (.ok made, made + 1)
  setField _ _ _ made := (.ok (), made)
  connectStatement _ _ _ made := (.ok (), made)
  connectValue _ _ _ made := (.ok (), made)
  connectNext _ _ made := (.ok (), made)

theorem lenient_counting : counting.Lenient where
  allocate _ made := ⟨made, rfl⟩
  connect connection _ := by cases connection <;> rfl

/-- A program in which a block comes again at the end of its own chain. -/
def echoing : Program where
  id := some "s"
  actions :=
    .link (some "a") (.displayImage "one.raw") <|
    .link (some "b") (.setColor (.block (some "r") (.rgbColor ⟨1, 0, 0⟩))) <|
    .link (some "a") (.displayImage "one.raw") .nil
  next := .nil

theorem ids_loaded_echoing :
    echoing.next = .nil ∧ echoing.scopes.NothingNew [] ∧
      ∀ id ∈ ["s", "a", "b", "r"], ∃ block, (id, block) ∈ (echoing.loading counting 0).placed := by
  have nothingNew : echoing.scopes.NothingNew [] := by decide
  obtain ⟨_, _, _, log, _, _, _, complete⟩ := Program.ids_loaded lenient_counting echoing 0
  refine ⟨rfl, nothingNew, fun id member => ?_⟩
  have among : id ∈ echoing.ids := by
    revert id
    decide
  obtain ⟨block, _, placed⟩ := complete rfl nothingNew id among
  exact ⟨block, placed⟩

/-- A program in which a block comes again with a chain that did not come before. -/
def resuming : Program where
  id := none
  actions :=
    .link (some "a") (.displayImage "one.raw") <|
    .link (some "a") (.displayImage "one.raw") <|
    .link (some "b") .breakLoop .nil
  next := .nil

/-- The chain is lost, and not counted as skipped. -/
theorem id_lost_resuming :
    counting.Lenient ∧ resuming.next = .nil ∧ "b" ∈ resuming.ids ∧
      (∀ block, ("b", block) ∉ (resuming.loading counting 0).placed) ∧
      (resuming.load Workspace.sink .empty).1 = .ok (0, ⟨2, 1, 0⟩) ∧
      (resuming.load Workspace.sink .empty).2.ofKind .breakLoop = [] := by
  have recorded : (resuming.loading counting 0).placed = [("a", 1)] := rfl
  refine ⟨lenient_counting, rfl, by decide, fun block member => ?_, rfl, rfl⟩
  rw [recorded] at member
  simp at member

end Marquee
