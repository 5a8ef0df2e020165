import Marquee.Proofs.Editor.Filling

/-!
# Loading without ids

An id matters to a load only when it comes a second time. So as long as all ids are new and
different, a program loads like the one without ids, into any editor.
-/

namespace Marquee

namespace Loading

variable {σ β : Type}

/-- The same work, with other ids on record. -/
def retrace (loading : Loading σ β) (placed : List (String × β)) : Loading σ β :=
  { loading with placed }

def recorded (loading : Loading σ β) : List String :=
  loading.placed.map Prod.fst

/-- Ids that are all different and not on record. -/
def New (ids : List String) (loading : Loading σ β) : Prop :=
  ids.Nodup ∧ ∀ id ∈ ids, id ∉ loading.recorded

/-- Nothing but these ids was put on record. -/
def Records (ids : List String) (before after : Loading σ β) : Prop :=
  after.recorded ⊆ before.recorded ++ ids

theorem New.left {first second : List String} {loading : Loading σ β}
    (new : New (first ++ second) loading) : New first loading :=
  ⟨new.1.sublist (List.sublist_append_left _ _), fun id member =>
    new.2 id (List.mem_append_left _ member)⟩

theorem New.right {first second : List String} {before after : Loading σ β}
    (new : New (first ++ second) before) (records : Records first before after) :
    New second after := by
  obtain ⟨_, secondNodup, apart⟩ := List.nodup_append.mp new.1
  refine ⟨secondNodup, fun id member recorded => ?_⟩
  rcases List.mem_append.mp (records recorded) with old | among
  · exact new.2 id (List.mem_append_right _ member) old
  · exact apart id among id member rfl

/-- Ids stay new if nothing was put on record. -/
theorem New.unused {ids : List String} {before after : Loading σ β} (new : New ids before)
    (records : Records [] before after) : New ids after := by
  have later : New ([] ++ ids) before := new
  exact later.right records

theorem Records.refl (loading : Loading σ β) : Records [] loading loading :=
  fun _ member => List.mem_append_left _ member

theorem Records.trans {first second : List String} {before middle after : Loading σ β}
    (earlier : Records first before middle) (later : Records second middle after) :
    Records (first ++ second) before after := by
  intro id member
  rw [← List.append_assoc]
  rcases List.mem_append.mp (later member) with old | new
  · exact List.mem_append_left _ (earlier old)
  · exact List.mem_append_right _ new

/-- Work that puts nothing but these ids on record, next to the same work without ids, which goes
alike whatever is on record. -/
structure Alike (ids : List String) (before after : Loading σ β)
    (plain : Loading σ β → Loading σ β) : Prop where
  records : Records ids before after
  plain_retrace : ∀ placed, plain (before.retrace placed) = after.retrace placed

theorem Alike.refl (loading : Loading σ β) : Alike [] loading loading fun loading => loading :=
  ⟨Records.refl loading, fun _ => rfl⟩

theorem Alike.trans {first second : List String} {before middle after : Loading σ β}
    {plain next : Loading σ β → Loading σ β} (earlier : Alike first before middle plain)
    (later : Alike second middle after next) :
    Alike (first ++ second) before after fun loading => next (plain loading) where
  records := earlier.records.trans later.records
  plain_retrace placed := by rw [earlier.plain_retrace, later.plain_retrace]

/-- Steps that each go alike go alike one after the other, if all their ids are new. -/
theorem Alike.foldl {α : Type} {idsOf : α → List String}
    {work plain : Loading σ β → α → Loading σ β} {items : List α}
    (each : ∀ item ∈ items, ∀ loading, New (idsOf item) loading →
      Alike (idsOf item) loading (work loading item) (plain · item))
    {loading : Loading σ β} (new : New (items.flatMap idsOf) loading) :
    Alike (items.flatMap idsOf) loading (items.foldl work loading) (items.foldl plain) := by
  induction items generalizing loading with
  | nil => exact Alike.refl loading
  | cons item items inductionHypothesis =>
      obtain ⟨here, others⟩ := List.forall_mem_cons.mp each
      have first := here loading new.left
      exact first.trans (inductionHypothesis others (new.right first.records))

variable (sink : Sink σ β)

private theorem alike_setField (block : β) (field : String) (value : FieldValue)
    (loading : Loading σ β) :
    Alike [] loading (loading.setField sink block field value) (setField sink block field value) :=
  ⟨Records.refl loading, fun _ => rfl⟩

private theorem alike_setFields (block : β) (fields : List (String × FieldValue))
    (loading : Loading σ β) :
    Alike [] loading (loading.setFields sink block fields) (setFields sink block fields) := by
  have no : (fields.flatMap fun _ => ([] : List String)) = [] :=
    List.flatMap_eq_nil_iff.mpr fun _ _ => rfl
  have new : New (fields.flatMap fun _ => []) loading := by
    rw [no]
    exact ⟨List.nodup_nil, fun _ member => absurd member List.not_mem_nil⟩
  have alike : Alike _ loading (loading.setFields sink block fields)
      (setFields sink block fields) :=
    Alike.foldl (fun field _ after _ => alike_setField sink block field.1 field.2 after) new
  rwa [no] at alike

private theorem recorded_settle (loading : Loading σ β) (answer : Except Refusal Unit × σ) :
    (loading.settle answer).recorded = loading.recorded := by
  simp only [settle]
  cases answer.1 <;> rfl

private theorem retrace_settle (loading : Loading σ β) (answer : Except Refusal Unit × σ)
    (placed : List (String × β)) :
    (loading.retrace placed).settle answer = (loading.settle answer).retrace placed := by
  simp only [settle]
  cases answer.1 <;> rfl

private theorem alike_settle (ask : σ → Except Refusal Unit × σ) (loading : Loading σ β) :
    Alike [] loading (loading.settle (ask loading.editor))
      (fun loading => loading.settle (ask loading.editor)) where
  records := by
    simp only [Records]
    rw [recorded_settle]
    exact Records.refl loading
  plain_retrace placed := retrace_settle loading (ask loading.editor) placed

private theorem records_place (id : Option String) (kind : Kind) (loading : Loading σ β) :
    Records id.toList loading (loading.place sink id kind).2 := by
  simp only [place]
  split
  · exact fun _ member => List.mem_append_left _ member
  · split
    · exact fun _ member => List.mem_append_left _ member
    · cases id with
      | none => exact fun _ member => List.mem_append_left _ member
      | some id =>
          intro other member
          rcases List.mem_cons.mp member with rfl | old
          · exact List.mem_append_right _ (List.mem_singleton_self _)
          · exact List.mem_append_left _ old

private theorem place_retrace {id : Option String} {loading : Loading σ β}
    (new : New id.toList loading) (kind : Kind) (placed : List (String × β)) :
    (loading.retrace placed).place sink none kind =
      ((loading.place sink id kind).1, (loading.place sink id kind).2.retrace placed) := by
  have unknown : (id.bind fun id => loading.placed.lookup id) = none := by
    cases id with
    | none => rfl
    | some id =>
        have absent := new.2 id (List.mem_singleton_self id)
        refine List.lookup_eq_none_iff.mpr fun entry member => ?_
        rw [bne_iff_ne]
        rintro rfl
        exact absent (List.mem_map_of_mem member)
  simp only [place]
  rw [unknown]
  dsimp only [retrace, Option.bind_none]
  generalize sink.allocate kind loading.editor = answer
  obtain ⟨refusal | block, editor⟩ := answer <;> rfl

theorem Records.widen {first : List String} {before after : Loading σ β}
    (records : Records first before after) (second : List String) :
    Records (first ++ second) before after := by
  intro id member
  rw [← List.append_assoc]
  exact List.mem_append_left _ (records member)

private theorem alike_make {id : Option String} {ids : List String} {kind : Kind}
    {build plain : β → Loading σ β → Loading σ β} {loading : Loading σ β}
    (new : New (id.toList ++ ids) loading)
    (builds : ∀ block after, New ids after → Alike ids after (build block after) (plain block)) :
    Alike (id.toList ++ ids) loading (make sink id kind build loading)
      (make sink none kind plain) := by
  have records := records_place sink id kind loading
  have inside := new.right records
  have retraced := place_retrace sink new.left kind
  refine ⟨?_, fun placed => ?_⟩
  · simp only [make]
    generalize loading.place sink id kind = answer at records inside ⊢
    obtain ⟨block | block | refusal, after⟩ := answer
    · exact records.trans (builds block after inside).records
    · exact records.widen ids
    · exact records.widen ids
  · simp only [make]
    rw [retraced placed]
    generalize loading.place sink id kind = answer at inside ⊢
    obtain ⟨block | block | refusal, after⟩ := answer
    · exact (builds block after inside).plain_retrace placed
    · rfl
    · rfl

private theorem alike_follow {ids : List String} (previous block : β)
    {rest plain : Loading σ β → Loading σ β} {loading : Loading σ β} (new : New ids loading)
    (rests : ∀ after, New ids after → Alike ids after (rest after) plain) :
    Alike ids loading (loading.follow sink previous block rest)
      (fun loading => loading.follow sink previous block plain) := by
  simp only [follow]
  refine ⟨?_, fun placed => ?_⟩
  · generalize sink.connectNext previous block loading.editor = answer
    obtain ⟨refusal | granted, editor⟩ := answer
    · exact fun _ member => List.mem_append_left _ member
    · exact (rests { loading with editor } new).records
  · dsimp only [retrace]
    generalize sink.connectNext previous block loading.editor = answer
    obtain ⟨refusal | granted, editor⟩ := answer
    · rfl
    · exact (rests { loading with editor } new).plain_retrace placed

private theorem alike_plug (parent : β) (socket : String) (child : β) (loading : Loading σ β) :
    Alike [] loading (loading.plug sink parent socket child) (plug sink parent socket child) :=
  alike_settle (sink.connectValue parent socket child) loading

end Loading

open Loading

variable {σ β : Type} (sink : Sink σ β)

private theorem Expression.alike_load (block : β) (expression : Expression)
    (inputs : ∀ socket held, (socket, held) ∈ expression.inputs → ∀ loading, New held.ids loading →
      Alike held.ids loading (held.load sink block expression.kind socket loading)
        (held.stripIds.load sink block expression.kind socket))
    {loading : Loading σ β} (new : New expression.ids loading) :
    Alike expression.ids loading (expression.load sink block loading)
      (expression.stripIds.load sink block) := by
  have fields := alike_setFields sink block expression.fields loading
  rw [expression.ids_eq] at new ⊢
  have plugged := Alike.foldl (fun socket member => inputs socket.1 socket.2 member)
    (new.unused fields.records)
  rw [Expression.load_eq, funext (expression.load_stripIds sink block)]
  exact fields.trans plugged

private theorem Input.alike_load (parent : β) (parentKind : Kind) (socket : String) (input : Input)
    (loading : Loading σ β) (new : New input.ids loading) :
    Alike input.ids loading (input.load sink parent parentKind socket loading)
      (input.stripIds.load sink parent parentKind socket) := by
  induction input using Input.socketInduction generalizing parent parentKind socket loading with
  | empty => exact Alike.refl loading
  | number value =>
      rw [Input.stripIds, Input.load_number]
      have unnamed : New ((none : Option String).toList ++ []) loading := new
      exact alike_make sink unnamed fun block after _ =>
        (alike_setField sink block "NUMBER" (.number value) after).trans
          (alike_plug sink parent socket block _)
  | text literal =>
      rw [Input.stripIds, Input.load_text]
      have unnamed : New ((none : Option String).toList ++ []) loading := new
      exact alike_make sink unnamed fun block after _ =>
        (alike_setField sink block "COLOR" (.text literal) after).trans
          (alike_plug sink parent socket block _)
  | block id expression inductionHypothesis =>
      rw [Input.stripIds, Input.load_block, Input.load_block, Expression.kind_stripIds]
      refine alike_make sink new fun block after inside => ?_
      have loaded := expression.alike_load sink block (fun socket held member =>
        inductionHypothesis socket held member block expression.kind socket) inside
      have built := loaded.trans (alike_plug sink parent socket block _)
      rw [List.append_nil] at built
      exact built

private theorem Statement.alike_load (block : β) (statement : Statement)
    (chains : ∀ chain ∈ statement.slots, ∀ socket loading, New chain.ids loading →
      Alike chain.ids loading (chain.loadSlot sink block socket loading)
        (chain.stripIds.loadSlot sink block socket))
    {loading : Loading σ β} (new : New statement.ids loading) :
    Alike statement.ids loading (statement.load sink block loading)
      (statement.stripIds.load sink block) := by
  have fields := alike_setFields sink block statement.fields loading
  rw [statement.ids_eq] at new ⊢
  have inside := new.unused fields.records
  have inputs := Alike.foldl (fun socket (_ : socket ∈ statement.inputs) =>
    socket.2.alike_load sink block statement.kind socket.1) inside.left
  have plugged := Alike.foldl (fun socket member =>
    chains socket.2 (Statement.mem_slots_of_chains member) socket.1) (inside.right inputs.records)
  rw [Statement.load_eq, funext (statement.load_stripIds sink block)]
  exact fields.trans (inputs.trans plugged)

private theorem Chain.alike_load (chain : Chain) :
    (∀ parent socket (loading : Loading σ β), New chain.ids loading →
      Alike chain.ids loading (chain.loadSlot sink parent socket loading)
        (chain.stripIds.loadSlot sink parent socket)) ∧
    ∀ previous (loading : Loading σ β), New chain.ids loading →
      Alike chain.ids loading (chain.loadAfter sink previous loading)
        (chain.stripIds.loadAfter sink previous) := by
  induction chain using Chain.socketInduction with
  | nil => exact ⟨fun _ _ loading _ => Alike.refl loading, fun _ loading _ => Alike.refl loading⟩
  | link id statement next inside after =>
      have built (block : β) {loading : Loading σ β}
          (new : New (statement.ids ++ next.ids) loading) :=
        statement.alike_load sink block (fun chain member => (inside chain member).1 block) new.left
      refine ⟨fun parent socket loading new => ?_, fun previous loading new => ?_⟩
      · rw [Chain.stripIds, Chain.loadSlot_link, Chain.loadSlot_link, Statement.kind_stripIds]
        refine alike_make sink new fun block made fresh => ?_
        have rest := after.2 block _ (fresh.right (built block fresh).records)
        have plugged := alike_settle (sink.connectStatement parent socket block)
          (next.loadAfter sink block (statement.load sink block made))
        have all := (built block fresh).trans (rest.trans plugged)
        rw [List.append_nil] at all
        exact all
      · rw [Chain.stripIds, Chain.loadAfter_link, Chain.loadAfter_link, Statement.kind_stripIds]
        refine alike_make sink new fun block made fresh => ?_
        exact (built block fresh).trans (alike_follow sink previous block
          (fresh.right (built block fresh).records) (after.2 block))

/-- Different ids make no difference to a load. -/
theorem Program.load_stripIds {program : Program} (distinct : program.ids.Nodup) (editor : σ) :
    program.stripIds.load sink editor = program.load sink editor := by
  have named : (program.id.toList ++ program.actions.ids).Nodup := by
    rw [ids, ← List.append_assoc] at distinct
    exact distinct.sublist (List.sublist_append_left _ _)
  have new : New (program.id.toList ++ program.actions.ids) (.start editor : Loading σ β) :=
    ⟨named, fun _ _ member => List.not_mem_nil member⟩
  have placed := place_retrace sink new.left .start []
  have records := records_place sink program.id .start (.start editor)
  have inside := new.right records
  have nothing : (Loading.start editor : Loading σ β).retrace [] = .start editor := rfl
  rw [nothing] at placed
  simp only [load]
  rw [stripIds, placed]
  generalize (Loading.start editor).place sink program.id .start = answer at inside ⊢
  obtain ⟨block | block | refusal, after⟩ := answer
  · have alike := (program.actions.alike_load sink).1 block "DO" after inside
    dsimp only
    rw [alike.plain_retrace []]
    rfl
  · rfl
  · rfl

end Marquee
