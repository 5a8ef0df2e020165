import Marquee.Editor.Load

/-!
# The shape of a load

Every part of a program is loaded alike: a block is made for it, and if it is a new one, `build`
goes on with it. The loading functions are given in this form, from which all that follows about
them is derived.
-/

namespace Marquee

namespace Loading

variable {σ β : Type} (sink : Sink σ β)

/-- Makes a block and goes on with it, unless it is an old one or refused. -/
def make (id : Option String) (kind : Kind) (build : β → Loading σ β → Loading σ β)
    (loading : Loading σ β) : Loading σ β :=
  match loading.place sink id kind with
  | (.fresh block, after) => build block after
  | (.reused _, after) => after
  | (.refused _, after) => after.skip

/-- Connects a statement to the one before and goes on, unless that is refused. -/
def follow (previous block : β) (rest : Loading σ β → Loading σ β) (loading : Loading σ β) :
    Loading σ β :=
  match sink.connectNext previous block loading.editor with
  | (.ok (), editor) => rest { loading with editor }
  | (.error _, editor) => { loading with editor }.skip

/-- Without an id there is nothing to be found again. -/
theorem place_none_ne_reused (kind : Kind) (loading : Loading σ β) (block : β)
    (after : Loading σ β) : loading.place sink none kind ≠ (.reused block, after) := by
  simp only [place]
  dsimp only [Option.bind_none]
  generalize sink.allocate kind loading.editor = answer
  obtain ⟨refusal | made, editor⟩ := answer
  · intro equal
    cases equal
  · intro equal
    cases equal

end Loading

open Loading

variable {σ β : Type} (sink : Sink σ β)

/-- A block without an id is never an old one, so its load need not ask. -/
private theorem eq_make_of_none (kind : Kind) (build : β → Loading σ β → Loading σ β)
    (loading : Loading σ β) :
    (match loading.place sink none kind with
      | (.fresh block, after) => build block after
      | (_, after) => after.skip) = make sink none kind build loading := by
  rw [make]
  have fresh := place_none_ne_reused sink kind loading
  generalize loading.place sink none kind = placed at fresh ⊢
  obtain ⟨block | block | refusal, after⟩ := placed
  · rfl
  · exact absurd rfl (fresh block after)
  · rfl

theorem Input.load_number (parent : β) (parentKind : Kind) (socket : String) (value : Int64) :
    (Input.number value).load sink parent parentKind socket =
      make sink none .number fun block loading =>
        (loading.setNumber sink block "NUMBER" value).plug sink parent socket block := by
  funext loading
  rw [Input.load]
  exact eq_make_of_none sink .number _ loading

theorem Input.load_text (parent : β) (parentKind : Kind) (socket : String) (text : String) :
    (Input.text text).load sink parent parentKind socket =
      make sink none (literalKind parentKind text) fun block loading =>
        (loading.setText sink block "COLOR" text).plug sink parent socket block := by
  funext loading
  rw [Input.load]
  exact eq_make_of_none sink (literalKind parentKind text) _ loading

theorem Input.load_block (parent : β) (parentKind : Kind) (socket : String) (id : Option String)
    (expression : Expression) :
    (Input.block id expression).load sink parent parentKind socket =
      make sink id expression.kind fun block loading =>
        (expression.load sink block loading).plug sink parent socket block := by
  funext loading
  rw [Input.load]
  rfl

theorem Chain.loadSlot_link (parent : β) (socket : String) (id : Option String)
    (statement : Statement) (next : Chain) :
    (Chain.link id statement next).loadSlot sink parent socket =
      make sink id statement.kind fun block loading =>
        let built := next.loadAfter sink block (statement.load sink block loading)
        built.settle (sink.connectStatement parent socket block built.editor) := by
  funext loading
  rw [Chain.loadSlot]
  rfl

theorem Chain.loadAfter_link (previous : β) (id : Option String) (statement : Statement)
    (next : Chain) :
    (Chain.link id statement next).loadAfter sink previous =
      make sink id statement.kind fun block loading =>
        (statement.load sink block loading).follow sink previous block
          (next.loadAfter sink block) := by
  funext loading
  rw [Chain.loadAfter, make]
  rfl

end Marquee
