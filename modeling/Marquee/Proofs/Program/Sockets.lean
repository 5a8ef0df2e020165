import Marquee.Proofs.Program.Ids
import Marquee.Proofs.Program.Parts

/-!
# The sockets of a block

A block has inputs in its value sockets and chains in its statement sockets. Both are listed here
under the names of their sockets, so that what a walk does at every block is said once, whatever
kind of block it is at.
-/

namespace Marquee

/-- The inputs of a value block, in reading order. -/
def Expression.inputs : Expression → List (String × Input)
  | .compare left _ right => [("LEFT", left), ("RIGHT", right)]
  | _ => []

def Statement.inputs : Statement → List (String × Input)
  | .wait time => [("TIME", time)]
  | .branch condition _ _ => [("CONDITION", condition)]
  | .setVariable _ new => [("VALUE", new)]
  | .repeatLoop times _ => [("TIMES", times)]
  | .whileLoop condition _ => [("CONDITION", condition)]
  | .setColor color => [("COLOR", color)]
  | .value expression => expression.inputs
  | _ => []

def Statement.chains : Statement → List (String × Chain)
  | .start actions => [("DO", actions)]
  | .branch _ whenTrue whenFalse => [("TRUE", whenTrue), ("FALSE", whenFalse)]
  | .forever body => [("DO", body)]
  | .repeatLoop _ body => [("DO", body)]
  | .whileLoop _ body => [("DO", body)]
  | .gpioBranch _ _ whenTrue whenFalse => [("TRUE", whenTrue), ("FALSE", whenFalse)]
  | .gpioTrigger _ _ actions => [("DO", actions)]
  | _ => []

private theorem Expression.names_inputs (expression : Expression) :
    expression.inputs.map Prod.fst = expression.kind.valueSockets := by
  cases expression <;> rfl

theorem Statement.names_inputs (statement : Statement) :
    statement.inputs.map Prod.fst = statement.kind.valueSockets := by
  cases statement with
  | value expression => exact expression.names_inputs
  | _ => rfl

theorem Statement.names_chains (statement : Statement) :
    statement.chains.map Prod.fst = statement.kind.statementSockets := by
  cases statement with
  | value expression => cases expression <;> rfl
  | _ => rfl

theorem Expression.mem_valueSockets {expression : Expression} {socket : String × Input}
    (member : socket ∈ expression.inputs) : socket.1 ∈ expression.kind.valueSockets := by
  rw [← expression.names_inputs]
  exact List.mem_map_of_mem member

theorem Statement.mem_valueSockets {statement : Statement} {socket : String × Input}
    (member : socket ∈ statement.inputs) : socket.1 ∈ statement.kind.valueSockets := by
  rw [← statement.names_inputs]
  exact List.mem_map_of_mem member

theorem Statement.mem_statementSockets {statement : Statement} {socket : String × Chain}
    (member : socket ∈ statement.chains) : socket.1 ∈ statement.kind.statementSockets := by
  rw [← statement.names_chains]
  exact List.mem_map_of_mem member

/-- No two sockets of a block have the same name. -/
theorem Kind.nodup_sockets (kind : Kind) :
    (kind.valueSockets ++ kind.statementSockets).Nodup := by
  cases kind <;> decide

private theorem Statement.map_chains (statement : Statement) :
    statement.chains.map Prod.snd = statement.slots := by
  cases statement <;> rfl

theorem Statement.mem_slots_of_chains {statement : Statement} {socket : String} {chain : Chain}
    (member : (socket, chain) ∈ statement.chains) : chain ∈ statement.slots := by
  rw [← statement.map_chains]
  exact List.mem_map_of_mem member

private theorem Expression.exists_part {expression : Expression} {socket : String} {held : Input}
    (member : (socket, held) ∈ expression.inputs) :
    ∃ key, (key, Part.input held) ∈ expression.parts := by
  cases expression with
  | compare left relation right =>
      rcases List.mem_cons.mp member with here | later
      · cases here
        exact ⟨"left", .head _⟩
      · cases List.mem_singleton.mp later
        exact ⟨"right", .tail _ (.tail _ (.head _))⟩
  | _ => cases member

/-- Induction over inputs: of a value block, what holds of the inputs in its sockets can be
used. -/
@[elab_as_elim]
theorem Input.socketInduction {motive : Input → Prop} (empty : motive .empty)
    (number : ∀ value, motive (.number value)) (text : ∀ text, motive (.text text))
    (block : ∀ id expression,
      (∀ socket held, (socket, held) ∈ Expression.inputs expression → motive held) →
      motive (.block id expression)) (input : Input) : motive input := by
  induction input using Input.partInduction with
  | empty => exact empty
  | number value => exact number value
  | text written => exact text written
  | block id expression inductionHypothesis =>
      refine block id expression fun socket held member => ?_
      obtain ⟨key, part⟩ := Expression.exists_part member
      exact inductionHypothesis key held part

theorem Expression.inputs_stripIds (expression : Expression) :
    expression.stripIds.inputs = expression.inputs.map (Prod.map id Input.stripIds) := by
  cases expression <;> rfl

theorem Statement.inputs_stripIds (statement : Statement) :
    statement.stripIds.inputs = statement.inputs.map (Prod.map id Input.stripIds) := by
  cases statement with
  | value expression => exact expression.inputs_stripIds
  | _ => rfl

theorem Statement.chains_stripIds (statement : Statement) :
    statement.stripIds.chains = statement.chains.map (Prod.map id Chain.stripIds) := by
  cases statement <;> rfl

theorem Expression.ids_eq (expression : Expression) :
    expression.ids = expression.inputs.flatMap fun socket => socket.2.ids := by
  cases expression <;> simp [ids, inputs]

theorem Statement.ids_eq (statement : Statement) :
    statement.ids =
      (statement.inputs.flatMap fun socket => socket.2.ids) ++
        statement.chains.flatMap fun socket => socket.2.ids := by
  cases statement with
  | value expression => simp [ids, inputs, chains, expression.ids_eq]
  | _ => simp [ids, inputs, chains]

theorem Expression.kinds_eq (expression : Expression) :
    expression.kinds =
      expression.kind :: expression.inputs.flatMap fun socket => socket.2.kinds := by
  cases expression <;> simp [kinds, kind, inputs]

theorem Statement.kinds_eq (statement : Statement) :
    statement.kinds =
      statement.kind :: ((statement.inputs.flatMap fun socket => socket.2.kinds) ++
        statement.chains.flatMap fun socket => socket.2.kinds) := by
  cases statement with
  | value expression => simp [kinds, kind, inputs, chains, expression.kinds_eq]
  | _ => simp [kinds, kind, inputs, chains]

private theorem length_kinds_le {α : Type} (kindsOf : α → List Kind) {sockets : List α}
    {socket : α} (member : socket ∈ sockets) :
    (kindsOf socket).length ≤ (sockets.flatMap kindsOf).length :=
  (List.sublist_flatten_of_mem (List.mem_map_of_mem member)).length_le

/-- What is in a socket of a block counts less than the block. -/
theorem Expression.length_kinds_lt {expression : Expression} {socket : String × Input}
    (member : socket ∈ expression.inputs) :
    socket.2.kinds.length < expression.kinds.length := by
  have inside := length_kinds_le (fun socket => socket.2.kinds) member
  rw [expression.kinds_eq, List.length_cons]
  omega

theorem Statement.length_kinds_lt_of_input {statement : Statement} {socket : String × Input}
    (member : socket ∈ statement.inputs) :
    socket.2.kinds.length < statement.kinds.length := by
  have inside := length_kinds_le (fun socket => socket.2.kinds) member
  rw [statement.kinds_eq, List.length_cons, List.length_append]
  omega

theorem Statement.length_kinds_lt_of_chain {statement : Statement} {socket : String × Chain}
    (member : socket ∈ statement.chains) :
    socket.2.kinds.length < statement.kinds.length := by
  have inside := length_kinds_le (fun socket => socket.2.kinds) member
  rw [statement.kinds_eq, List.length_cons, List.length_append]
  omega

end Marquee
