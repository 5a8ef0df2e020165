import Marquee.Proofs.Editor.Filling

/-!
# What a load keeps

A load does nothing to an editor but make requests. So a property that no request destroys, granted
or refused, survives every load, and so does a relation to the editor before the load.
-/

namespace Marquee

/-- No request to an editor destroys a property of its state. -/
structure Sink.Keeps {σ β : Type} (sink : Sink σ β) (kept : σ → Prop) : Prop where
  allocate : ∀ kind editor, kept editor → kept (sink.allocate kind editor).2
  setField : ∀ block field value editor,
    kept editor → kept (sink.setField block field value editor).2
  connectStatement : ∀ parent socket child editor,
    kept editor → kept (sink.connectStatement parent socket child editor).2
  connectValue : ∀ parent socket child editor,
    kept editor → kept (sink.connectValue parent socket child editor).2
  connectNext : ∀ previous next editor,
    kept editor → kept (sink.connectNext previous next editor).2

section

variable {σ β : Type} {sink : Sink σ β} {kept : σ → Prop}

namespace Loading

theorem keeps_make (keeps : sink.Keeps kept) (id : Option String) (kind : Kind)
    {build : β → Loading σ β → Loading σ β}
    (builds : ∀ block loading, kept loading.editor → kept (build block loading).editor)
    {loading : Loading σ β} (before : kept loading.editor) :
    kept (make sink id kind build loading).editor := by
  have allocated := keeps.allocate kind loading.editor before
  simp only [make, place]
  cases id.bind fun id => loading.placed.lookup id with
  | some block => exact before
  | none =>
      generalize sink.allocate kind loading.editor = answer at allocated ⊢
      obtain ⟨refusal | block, editor⟩ := answer
      · exact allocated
      · exact builds block _ allocated

private theorem keeps_settle {loading : Loading σ β} {answer : Except Refusal Unit × σ}
    (after : kept answer.2) : kept (loading.settle answer).editor := by
  simp only [settle]
  cases answer.1 <;> exact after

private theorem keeps_follow (keeps : sink.Keeps kept) (previous block : β)
    {rest : Loading σ β → Loading σ β}
    (rests : ∀ loading, kept loading.editor → kept (rest loading).editor)
    {loading : Loading σ β} (before : kept loading.editor) :
    kept (loading.follow sink previous block rest).editor := by
  have linked := keeps.connectNext previous block loading.editor before
  simp only [follow]
  generalize sink.connectNext previous block loading.editor = answer at linked ⊢
  obtain ⟨refusal | granted, editor⟩ := answer
  · exact linked
  · exact rests _ linked

private theorem keeps_foldl {α : Type} {work : Loading σ β → α → Loading σ β} {items : List α}
    (each : ∀ item ∈ items, ∀ loading, kept loading.editor → kept (work loading item).editor)
    {loading : Loading σ β} (before : kept loading.editor) :
    kept (items.foldl work loading).editor :=
  List.foldlRecOn (motive := fun after => kept after.editor) items work before
    fun after here item member => each item member after here

private theorem keeps_setFields (keeps : sink.Keeps kept) {loading : Loading σ β}
    (before : kept loading.editor) (block : β) (fields : List (String × FieldValue)) :
    kept (loading.setFields sink block fields).editor :=
  keeps_foldl (fun field _ loading here =>
    keeps.setField block field.1 field.2 loading.editor here) before

private theorem keeps_plug (keeps : sink.Keeps kept) {loading : Loading σ β}
    (before : kept loading.editor) (parent : β) (socket : String) (child : β) :
    kept (loading.plug sink parent socket child).editor :=
  keeps_settle (keeps.connectValue parent socket child loading.editor before)

end Loading

open Loading

private theorem Expression.keeps_load (keeps : sink.Keeps kept) (block : β)
    (expression : Expression)
    (inputs : ∀ socket held, (socket, held) ∈ expression.inputs → ∀ loading : Loading σ β,
      kept loading.editor → kept (held.load sink block expression.kind socket loading).editor)
    {loading : Loading σ β} (before : kept loading.editor) :
    kept (expression.load sink block loading).editor := by
  rw [Expression.load_eq]
  have fields := keeps_setFields keeps before block expression.fields
  exact keeps_foldl (fun socket member => inputs socket.1 socket.2 member) fields

private theorem Input.keeps_load (keeps : sink.Keeps kept) (parent : β) (parentKind : Kind)
    (socket : String) (input : Input) (loading : Loading σ β) (before : kept loading.editor) :
    kept (input.load sink parent parentKind socket loading).editor := by
  induction input using Input.socketInduction generalizing parent parentKind socket loading with
  | empty => exact before
  | number value =>
      rw [Input.load_number]
      refine keeps_make keeps none .number (fun block loading made => ?_) before
      exact keeps_plug keeps (keeps.setField block "NUMBER" (.number value) _ made) _ _ _
  | text literal =>
      rw [Input.load_text]
      refine keeps_make keeps none _ (fun block loading made => ?_) before
      exact keeps_plug keeps (keeps.setField block "COLOR" (.text literal) _ made) _ _ _
  | block id expression inductionHypothesis =>
      rw [Input.load_block]
      refine keeps_make keeps id expression.kind (fun block loading made => ?_) before
      have built := expression.keeps_load keeps block (fun socket held member =>
        inductionHypothesis socket held member block expression.kind socket) made
      exact keeps_plug keeps built _ _ _

private theorem Statement.keeps_load_of_slots (keeps : sink.Keeps kept) (block : β)
    (statement : Statement)
    (chains : ∀ chain ∈ statement.slots, ∀ (socket : String) (loading : Loading σ β),
      kept loading.editor → kept (chain.loadSlot sink block socket loading).editor)
    {loading : Loading σ β} (before : kept loading.editor) :
    kept (statement.load sink block loading).editor := by
  rw [Statement.load_eq]
  have fields := keeps_setFields keeps before block statement.fields
  have inputs := keeps_foldl (fun socket (_ : socket ∈ statement.inputs) =>
    socket.2.keeps_load keeps block statement.kind socket.1) fields
  exact keeps_foldl (fun socket member =>
    chains socket.2 (Statement.mem_slots_of_chains member) socket.1) inputs

private theorem Chain.keeps_load (keeps : sink.Keeps kept) (chain : Chain) :
    (∀ (parent : β) (socket : String) (loading : Loading σ β), kept loading.editor →
      kept (chain.loadSlot sink parent socket loading).editor) ∧
    ∀ (previous : β) (loading : Loading σ β), kept loading.editor →
      kept (chain.loadAfter sink previous loading).editor := by
  -- Both at once, as what follows a statement is loaded after it, wherever the chain began.
  induction chain using Chain.socketInduction with
  | nil => exact ⟨fun _ _ _ before => before, fun _ _ before => before⟩
  | link id statement next inside after =>
      have built (block : β) {loading : Loading σ β} (made : kept loading.editor) :=
        statement.keeps_load_of_slots keeps block
          (fun chain member => (inside chain member).1 block) made
      refine ⟨fun parent socket loading before => ?_, fun previous loading before => ?_⟩
      · rw [Chain.loadSlot_link]
        refine keeps_make keeps id statement.kind (fun block loading made => ?_) before
        apply keeps_settle
        apply keeps.connectStatement
        exact after.2 block _ (built block made)
      · rw [Chain.loadAfter_link]
        refine keeps_make keeps id statement.kind (fun block loading made => ?_) before
        exact keeps_follow keeps previous block (after.2 block) (built block made)

theorem Chain.keeps_loadSlot (keeps : sink.Keeps kept) (parent : β) (socket : String)
    (chain : Chain) (loading : Loading σ β) (before : kept loading.editor) :
    kept (chain.loadSlot sink parent socket loading).editor :=
  (chain.keeps_load keeps).1 parent socket loading before

theorem Chain.keeps_loadAfter (keeps : sink.Keeps kept) (previous : β) (chain : Chain)
    (loading : Loading σ β) (before : kept loading.editor) :
    kept (chain.loadAfter sink previous loading).editor :=
  (chain.keeps_load keeps).2 previous loading before

theorem Statement.keeps_load (keeps : sink.Keeps kept) (block : β) (statement : Statement)
    (loading : Loading σ β) (before : kept loading.editor) :
    kept (statement.load sink block loading).editor :=
  statement.keeps_load_of_slots keeps block
    (fun chain _ socket => chain.keeps_loadSlot keeps block socket) before

theorem Program.keeps_load (keeps : sink.Keeps kept) (program : Program) (editor : σ)
    (before : kept editor) : kept (program.load sink editor).2 := by
  simp only [Program.load]
  have made : kept (make sink program.id .start
      (fun block => program.actions.loadSlot sink block "DO") (.start editor)).editor :=
    keeps_make keeps program.id .start
      (fun block _ there => program.actions.keeps_loadSlot keeps block "DO" _ there) before
  simp only [make] at made
  generalize (Loading.start editor).place sink program.id .start = placed at made ⊢
  obtain ⟨block | block | refusal, after⟩ := placed
  · exact made
  · exact made
  · exact made

theorem Document.keeps_load (keeps : sink.Keeps kept) (text : String) (editor : σ)
    (before : kept editor) : kept (Document.load sink text editor).2 := by
  simp only [Document.load]
  split
  · next content _ => exact content.keeps_load keeps editor before
  · exact before

end

end Marquee
