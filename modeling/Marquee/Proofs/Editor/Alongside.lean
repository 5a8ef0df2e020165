import Marquee.Proofs.Editor.Accounting
import Marquee.Proofs.Editor.Filling

/-!
# Loads side by side

Two loads go side by side if each piece of work on the one keeps what is between them when the other
does its own. If an editor answers all requests like another one that knows the blocks by other
handles, then the same program is loaded into both alike.
-/

namespace Marquee

namespace Loading

section

variable {σ τ β γ : Type} {alike : Loading σ β → Loading τ γ → Prop}

/-- Work on one load, and work on another, that keep what is between the two. -/
def Matches (alike : Loading σ β → Loading τ γ → Prop) (work : Loading σ β → Loading σ β)
    (other : Loading τ γ → Loading τ γ) : Prop :=
  ∀ first second, alike first second → alike (work first) (other second)

theorem Matches.nothing : Matches alike (fun loading => loading) fun loading => loading :=
  fun _ _ same => same

theorem Matches.andThen {work next : Loading σ β → Loading σ β}
    {other following : Loading τ γ → Loading τ γ} (earlier : Matches alike work other)
    (later : Matches alike next following) :
    Matches alike (fun loading => next (work loading)) fun loading => following (other loading) :=
  fun first second same => later _ _ (earlier first second same)

/-- One piece of work for each item of a list. -/
theorem Matches.foldl {α : Type} {work : Loading σ β → α → Loading σ β}
    {other : Loading τ γ → α → Loading τ γ} (items : List α)
    (each : ∀ item ∈ items, Matches alike (work · item) (other · item)) :
    Matches alike (items.foldl work) (items.foldl other) := by
  induction items with
  | nil => exact Matches.nothing
  | cons item items inductionHypothesis =>
      obtain ⟨here, others⟩ := List.forall_mem_cons.mp each
      exact here.andThen (inductionHypothesis others)

end

end Loading

def Connection.map {β γ : Type} (rename : β → γ) : Connection β → Connection γ
  | statement parent socket child => statement (rename parent) socket (rename child)
  | value parent socket child => value (rename parent) socket (rename child)
  | next previous child => next (rename previous) (rename child)

/-- One editor is followed by another: whatever both are asked for, they give the same answer, but
for the handles. -/
structure Sink.Follows {σ τ β γ : Type} (sink : Sink σ β) (follower : Sink τ γ)
    (states : σ → τ → Prop) (rename : β → γ) : Prop where
  allocate : ∀ {editor other} kind, states editor other →
    (follower.allocate kind other).1 = (sink.allocate kind editor).1.map rename ∧
      states (sink.allocate kind editor).2 (follower.allocate kind other).2
  setField : ∀ {editor other} block field value, states editor other →
    states (sink.setField block field value editor).2
      (follower.setField (rename block) field value other).2
  connect : ∀ {editor other} connection, states editor other →
    (follower.connect (connection.map rename) other).1 = (sink.connect connection editor).1 ∧
      states (sink.connect connection editor).2
        (follower.connect (connection.map rename) other).2

namespace Loading

section

variable {σ τ β γ : Type} {sink : Sink σ β} {follower : Sink τ γ} {states : σ → τ → Prop}
  {rename : β → γ}

/-- Two loads that came to the same in editors that follow one another. -/
structure Follows (states : σ → τ → Prop) (rename : β → γ) (first : Loading σ β)
    (second : Loading τ γ) : Prop where
  editor : states first.editor second.editor
  placed : second.placed = first.placed.map (Prod.map id rename)
  report : second.report = first.report

private theorem lookup_map_rename (placed : List (String × β)) (name : String) :
    (placed.map (Prod.map id rename)).lookup name = (placed.lookup name).map rename := by
  induction placed with
  | nil => rfl
  | cons entry rest inductionHypothesis =>
      obtain ⟨other, block⟩ := entry
      rw [List.map_cons, Prod.map_apply, id_eq, List.lookup_cons, List.lookup_cons,
        inductionHypothesis]
      cases name == other <;> rfl

private theorem matches_make_follows (follows : sink.Follows follower states rename)
    (id : Option String)
    (kind : Kind) {build : β → Loading σ β → Loading σ β} {other : γ → Loading τ γ → Loading τ γ}
    (builds : ∀ block, Matches (Follows states rename) (build block) (other (rename block))) :
    Matches (Follows states rename) (make sink id kind build) (make follower id kind other) := by
  intro first second same
  have known : (id.bind fun id => second.placed.lookup id) =
      (id.bind fun id => first.placed.lookup id).map rename := by
    cases id with
    | none => rfl
    | some name =>
        rw [same.placed]
        exact lookup_map_rename first.placed name
  simp only [make, place]
  rw [known]
  cases id.bind fun id => first.placed.lookup id with
  | some block =>
      refine ⟨same.editor, same.placed, ?_⟩
      dsimp only [Option.map_some]
      rw [same.report]
  | none =>
      obtain ⟨answers, states⟩ := follows.allocate kind same.editor
      simp only [Option.map_none]
      generalize follower.allocate kind second.editor = following at answers states
      generalize sink.allocate kind first.editor = answer at answers states
      obtain ⟨refusal | block, editor⟩ := answer
      · obtain ⟨_, after⟩ := following
        cases answers
        refine ⟨states, same.placed, ?_⟩
        simp only [skip, same.report]
      · obtain ⟨_, after⟩ := following
        cases answers
        refine builds block _ _ ⟨states, ?_, ?_⟩
        · cases id with
          | none => exact same.placed
          | some name => simp only [same.placed, List.map_cons, Prod.map_apply, id_eq]
        · simp only [same.report]

private theorem matches_setField_follows (follows : sink.Follows follower states rename) (block : β)
    (field : String) (value : FieldValue) :
    Matches (Follows states rename) (setField sink block field value)
      (setField follower (rename block) field value) :=
  fun _ _ same => ⟨follows.setField block field value same.editor, same.placed, same.report⟩

private theorem matches_setFields_follows (follows : sink.Follows follower states rename)
    (block : β) (fields : List (String × FieldValue)) :
    Matches (Follows states rename) (setFields sink block fields)
      (setFields follower (rename block) fields) :=
  Matches.foldl fields fun field _ => matches_setField_follows follows block field.1 field.2

private theorem matches_settle_follows (follows : sink.Follows follower states rename)
    (connection : Connection β) :
    Matches (Follows states rename)
      (fun loading => loading.settle (sink.connect connection loading.editor))
      fun loading =>
        loading.settle (follower.connect (connection.map rename) loading.editor) := by
  intro first second same
  obtain ⟨answers, states⟩ := follows.connect connection same.editor
  simp only [settle]
  rw [answers]
  cases (sink.connect connection first.editor).1 with
  | ok granted => exact ⟨states, same.placed, same.report⟩
  | error refusal => exact ⟨states, same.placed, by simp only [skip, same.report]⟩

private theorem matches_follow_follows (follows : sink.Follows follower states rename)
    (previous block : β) {rest : Loading σ β → Loading σ β} {other : Loading τ γ → Loading τ γ}
    (rests : Matches (Follows states rename) rest other) :
    Matches (Follows states rename) (fun loading => loading.follow sink previous block rest)
      fun loading => loading.follow follower (rename previous) (rename block) other := by
  intro first second same
  obtain ⟨answers, states⟩ := follows.connect (.next previous block) same.editor
  simp only [Connection.map, Sink.connect] at answers states
  simp only [follow]
  generalize follower.connectNext (rename previous) (rename block) second.editor = following
    at answers states
  generalize sink.connectNext previous block first.editor = answer at answers states
  obtain ⟨_, after⟩ := following
  obtain ⟨refusal | granted, editor⟩ := answer
  · cases answers
    exact ⟨states, same.placed, by simp only [skip, same.report]⟩
  · cases answers
    exact rests _ _ ⟨states, same.placed, same.report⟩

end

end Loading

open Loading

section

variable {σ τ β γ : Type} {sink : Sink σ β} {follower : Sink τ γ} {states : σ → τ → Prop}
  {rename : β → γ} (follows : sink.Follows follower states rename)

include follows

private theorem Input.load_follows (parent : β) (parentKind : Kind) (socket : String)
    (input : Input) :
    Matches (Loading.Follows states rename) (input.load sink parent parentKind socket)
      (input.load follower (rename parent) parentKind socket) := by
  have plugged (block : β) := matches_settle_follows follows (.value parent socket block)
  induction input using Input.socketInduction generalizing parent parentKind socket with
  | empty => exact Matches.nothing
  | number value =>
      rw [Input.load_number, Input.load_number]
      exact matches_make_follows follows none _ fun block =>
        (matches_setField_follows follows block "NUMBER" _).andThen (plugged block)
  | text written =>
      rw [Input.load_text, Input.load_text]
      exact matches_make_follows follows none _ fun block =>
        (matches_setField_follows follows block "COLOR" _).andThen (plugged block)
  | block id expression inductionHypothesis =>
      rw [Input.load_block, Input.load_block]
      refine matches_make_follows follows id _ fun block => Matches.andThen ?_ (plugged block)
      intro first second same
      rw [expression.load_eq, expression.load_eq]
      refine Matches.foldl expression.inputs (fun inner member => ?_) _ _
        (matches_setFields_follows follows block expression.fields _ _ same)
      exact inductionHypothesis inner.1 inner.2 member block expression.kind inner.1
        fun child => matches_settle_follows follows (.value block inner.1 child)

private theorem Statement.load_follows (block : β) (statement : Statement)
    (chains : ∀ chain ∈ statement.slots, ∀ socket,
      Matches (Loading.Follows states rename) (chain.loadSlot sink block socket)
        (chain.loadSlot follower (rename block) socket)) :
    Matches (Loading.Follows states rename) (statement.load sink block)
      (statement.load follower (rename block)) := by
  intro first second same
  rw [statement.load_eq, statement.load_eq]
  have fields := matches_setFields_follows follows block statement.fields _ _ same
  have inputs := Matches.foldl statement.inputs (fun socket _ =>
    socket.2.load_follows follows block statement.kind socket.1) _ _ fields
  exact Matches.foldl statement.chains (fun socket member =>
    chains socket.2 (Statement.mem_slots_of_chains member) socket.1) _ _ inputs

private theorem Chain.load_follows (chain : Chain) :
    (∀ parent socket, Matches (Loading.Follows states rename)
      (chain.loadSlot sink parent socket) (chain.loadSlot follower (rename parent) socket)) ∧
    ∀ previous, Matches (Loading.Follows states rename)
      (chain.loadAfter sink previous) (chain.loadAfter follower (rename previous)) := by
  induction chain using Chain.socketInduction with
  | nil => exact ⟨fun _ _ => Matches.nothing, fun _ => Matches.nothing⟩
  | link id statement next inside after =>
      have built (block : β) := statement.load_follows follows block
        fun chain member socket => (inside chain member).1 block socket
      refine ⟨fun parent socket => ?_, fun previous => ?_⟩
      · rw [Chain.loadSlot_link, Chain.loadSlot_link]
        refine matches_make_follows follows id _ fun block => ?_
        exact ((built block).andThen (after.2 block)).andThen
          (matches_settle_follows follows (.statement parent socket block))
      · rw [Chain.loadAfter_link, Chain.loadAfter_link]
        refine matches_make_follows follows id _ fun block => ?_
        exact (built block).andThen (matches_follow_follows follows previous block (after.2 block))

/-- A program is loaded alike into editors that follow one another. -/
theorem Program.loading_follows (program : Program) {editor : σ} {other : τ}
    (same : states editor other) :
    Loading.Follows states rename (program.loading sink editor)
      (program.loading follower other) :=
  matches_make_follows follows program.id .start
    (fun block => (program.actions.load_follows follows).1 block "DO") _ _ ⟨same, rfl, rfl⟩

end

end Marquee
