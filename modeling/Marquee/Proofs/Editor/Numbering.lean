import Marquee.Document.Basic
import Marquee.Proofs.Editor.Growth
import Marquee.Proofs.Program.Ids
import Marquee.Proofs.Program.Sockets

/-!
# Numbering a program

A program is numbered if the id of each block is the label of its place in reading order. A literal
takes a place too, since an editor makes a block of it, but it has no id. Two programs that differ
in their ids only have the same numbered form.
-/

namespace Marquee

open Workspace

mutual

/-- The input with labels as ids, where the first place has this number. -/
def Input.numbered (first : Nat) : Input → Input
  | .empty => .empty
  | .number value => .number value
  | .text text => .text text
  | .block _ expression => .block (some (label first)) (expression.numbered (first + 1))

/-- The value block with labels in its sockets. -/
def Expression.numbered (first : Nat) : Expression → Expression
  | .compare left relation right =>
    .compare (left.numbered first) relation (right.numbered (first + left.kinds.length))
  | .number value => .number value
  | .randomRange min max => .randomRange min max
  | .getVariable name => .getVariable name
  | .colorValue color => .colorValue color
  | .customColor color => .customColor color
  | .rgbColor color => .rgbColor color

end

mutual

def Statement.numbered (first : Nat) : Statement → Statement
  | .start actions => .start (actions.numbered first)
  | .displayImage filename => .displayImage filename
  | .playAnimation folder playFor => .playAnimation folder playFor
  | .wait time => .wait (time.numbered first)
  | .branch condition whenTrue whenFalse =>
    .branch (condition.numbered first) (whenTrue.numbered (first + condition.kinds.length))
      (whenFalse.numbered (first + condition.kinds.length + whenTrue.kinds.length))
  | .setVariable name new => .setVariable name (new.numbered first)
  | .forever body => .forever (body.numbered first)
  | .repeatLoop times body =>
    .repeatLoop (times.numbered first) (body.numbered (first + times.kinds.length))
  | .whileLoop condition body =>
    .whileLoop (condition.numbered first) (body.numbered (first + condition.kinds.length))
  | .breakLoop => .breakLoop
  | .gpio pin level => .gpio pin level
  | .gpioBranch pin level whenTrue whenFalse =>
    .gpioBranch pin level (whenTrue.numbered first)
      (whenFalse.numbered (first + whenTrue.kinds.length))
  | .gpioTrigger pin trigger actions => .gpioTrigger pin trigger (actions.numbered first)
  | .setColor color => .setColor (color.numbered first)
  | .value expression => .value (expression.numbered first)

def Chain.numbered (first : Nat) : Chain → Chain
  | .nil => .nil
  | .link _ statement next =>
    .link (some (label first)) (statement.numbered (first + 1))
      (next.numbered (first + statement.kinds.length))

end

/-- The program with labels as ids. The start block is the first. -/
def Program.numbered (program : Program) : Program :=
  ⟨some (label 1), program.actions.numbered 2,
    program.next.numbered (2 + program.actions.kinds.length)⟩

def Document.numbered : Document → Document
  | .program content => .program content.numbered
  | .noProgram reason => .noProgram reason

mutual

@[simp] theorem Input.kinds_stripIds (input : Input) : input.stripIds.kinds = input.kinds := by
  match input with
  | .empty => rfl
  | .number _ => rfl
  | .text _ => rfl
  | .block _ expression => exact expression.kinds_stripIds

@[simp] theorem Expression.kinds_stripIds (expression : Expression) :
    expression.stripIds.kinds = expression.kinds := by
  match expression with
  | .compare left _ right =>
      simp only [Expression.stripIds, Expression.kinds, left.kinds_stripIds, right.kinds_stripIds]
  | .number _ => rfl
  | .randomRange _ _ => rfl
  | .getVariable _ => rfl
  | .colorValue _ => rfl
  | .customColor _ => rfl
  | .rgbColor _ => rfl

end

private theorem Statement.kinds_stripIds_of_slots {statement : Statement}
    (inside : ∀ chain ∈ statement.slots, chain.stripIds.kinds = chain.kinds) :
    statement.stripIds.kinds = statement.kinds := by
  have chains : (statement.chains.flatMap fun socket => socket.2.stripIds.kinds) =
      statement.chains.flatMap fun socket => socket.2.kinds :=
    List.flatMap_congr fun socket member => inside _ (Statement.mem_slots_of_chains member)
  rw [Statement.kinds_eq, Statement.kinds_eq, statement.inputs_stripIds,
    statement.chains_stripIds, List.flatMap_map, List.flatMap_map]
  simp [chains]

@[simp] theorem Chain.kinds_stripIds (chain : Chain) : chain.stripIds.kinds = chain.kinds := by
  induction chain using Chain.socketInduction with
  | nil => rfl
  | link id statement next inside after =>
      rw [Chain.stripIds, Chain.kinds, Chain.kinds, Statement.kinds_stripIds_of_slots inside, after]

@[simp] theorem Statement.kinds_stripIds (statement : Statement) :
    statement.stripIds.kinds = statement.kinds :=
  Statement.kinds_stripIds_of_slots fun chain _ => chain.kinds_stripIds

mutual

theorem Input.numbered_stripIds (input : Input) (first : Nat) :
    input.stripIds.numbered first = input.numbered first := by
  match input with
  | .empty => rfl
  | .number _ => rfl
  | .text _ => rfl
  | .block _ expression => exact congrArg (Input.block _) (expression.numbered_stripIds (first + 1))

theorem Expression.numbered_stripIds (expression : Expression) (first : Nat) :
    expression.stripIds.numbered first = expression.numbered first := by
  match expression with
  | .compare left _ right =>
      simp only [Expression.stripIds, Expression.numbered, left.numbered_stripIds,
        right.numbered_stripIds, left.kinds_stripIds]
  | .number _ => rfl
  | .randomRange _ _ => rfl
  | .getVariable _ => rfl
  | .colorValue _ => rfl
  | .customColor _ => rfl
  | .rgbColor _ => rfl

end

mutual

theorem Statement.numbered_stripIds (statement : Statement) (first : Nat) :
    statement.stripIds.numbered first = statement.numbered first := by
  match statement with
  | .start actions => exact congrArg Statement.start (actions.numbered_stripIds first)
  | .displayImage _ => rfl
  | .playAnimation _ _ => rfl
  | .wait time => exact congrArg Statement.wait (time.numbered_stripIds first)
  | .branch condition whenTrue whenFalse =>
      simp only [Statement.stripIds, Statement.numbered, condition.numbered_stripIds,
        whenTrue.numbered_stripIds, whenFalse.numbered_stripIds, condition.kinds_stripIds,
        whenTrue.kinds_stripIds]
  | .setVariable name new =>
      exact congrArg (Statement.setVariable name) (new.numbered_stripIds first)
  | .forever body => exact congrArg Statement.forever (body.numbered_stripIds first)
  | .repeatLoop times body =>
      simp only [Statement.stripIds, Statement.numbered, times.numbered_stripIds,
        body.numbered_stripIds, times.kinds_stripIds]
  | .whileLoop condition body =>
      simp only [Statement.stripIds, Statement.numbered, condition.numbered_stripIds,
        body.numbered_stripIds, condition.kinds_stripIds]
  | .breakLoop => rfl
  | .gpio _ _ => rfl
  | .gpioBranch _ _ whenTrue whenFalse =>
      simp only [Statement.stripIds, Statement.numbered, whenTrue.numbered_stripIds,
        whenFalse.numbered_stripIds, whenTrue.kinds_stripIds]
  | .gpioTrigger pin trigger actions =>
      exact congrArg (Statement.gpioTrigger pin trigger) (actions.numbered_stripIds first)
  | .setColor color => exact congrArg Statement.setColor (color.numbered_stripIds first)
  | .value expression => exact congrArg Statement.value (expression.numbered_stripIds first)

theorem Chain.numbered_stripIds (chain : Chain) (first : Nat) :
    chain.stripIds.numbered first = chain.numbered first := by
  match chain with
  | .nil => rfl
  | .link _ statement next =>
      simp only [Chain.stripIds, Chain.numbered, statement.numbered_stripIds,
        next.numbered_stripIds, statement.kinds_stripIds]

end

theorem Program.numbered_stripIds (program : Program) :
    program.stripIds.numbered = program.numbered := by
  simp only [Program.stripIds, Program.numbered, Chain.numbered_stripIds, Chain.kinds_stripIds]

mutual

theorem Input.stripIds_numbered (input : Input) (first : Nat) :
    (input.numbered first).stripIds = input.stripIds := by
  match input with
  | .empty => rfl
  | .number _ => rfl
  | .text _ => rfl
  | .block _ expression => exact congrArg (Input.block none) (expression.stripIds_numbered _)

theorem Expression.stripIds_numbered (expression : Expression) (first : Nat) :
    (expression.numbered first).stripIds = expression.stripIds := by
  match expression with
  | .compare left _ right =>
      rw [Expression.numbered, Expression.stripIds, left.stripIds_numbered,
        right.stripIds_numbered, Expression.stripIds]
  | .number _ => rfl
  | .randomRange _ _ => rfl
  | .getVariable _ => rfl
  | .colorValue _ => rfl
  | .customColor _ => rfl
  | .rgbColor _ => rfl

end

mutual

theorem Statement.stripIds_numbered (statement : Statement) (first : Nat) :
    (statement.numbered first).stripIds = statement.stripIds := by
  match statement with
  | .start actions => exact congrArg Statement.start (actions.stripIds_numbered _)
  | .displayImage _ => rfl
  | .playAnimation _ _ => rfl
  | .wait time => exact congrArg Statement.wait (time.stripIds_numbered _)
  | .branch condition whenTrue whenFalse =>
      rw [Statement.numbered, Statement.stripIds, condition.stripIds_numbered,
        whenTrue.stripIds_numbered, whenFalse.stripIds_numbered, Statement.stripIds]
  | .setVariable name new => exact congrArg (Statement.setVariable name) (new.stripIds_numbered _)
  | .forever body => exact congrArg Statement.forever (body.stripIds_numbered _)
  | .repeatLoop times body =>
      rw [Statement.numbered, Statement.stripIds, times.stripIds_numbered,
        body.stripIds_numbered, Statement.stripIds]
  | .whileLoop condition body =>
      rw [Statement.numbered, Statement.stripIds, condition.stripIds_numbered,
        body.stripIds_numbered, Statement.stripIds]
  | .breakLoop => rfl
  | .gpio _ _ => rfl
  | .gpioBranch _ _ whenTrue whenFalse =>
      rw [Statement.numbered, Statement.stripIds, whenTrue.stripIds_numbered,
        whenFalse.stripIds_numbered, Statement.stripIds]
  | .gpioTrigger pin trigger actions =>
      exact congrArg (Statement.gpioTrigger pin trigger) (actions.stripIds_numbered _)
  | .setColor color => exact congrArg Statement.setColor (color.stripIds_numbered _)
  | .value expression => exact congrArg Statement.value (expression.stripIds_numbered _)

theorem Chain.stripIds_numbered (chain : Chain) (first : Nat) :
    (chain.numbered first).stripIds = chain.stripIds := by
  match chain with
  | .nil => rfl
  | .link _ statement next =>
      rw [Chain.numbered, Chain.stripIds, statement.stripIds_numbered, next.stripIds_numbered,
        Chain.stripIds]

end

theorem Program.stripIds_numbered (program : Program) :
    program.numbered.stripIds = program.stripIds := by
  simp only [Program.stripIds, Program.numbered, Chain.stripIds_numbered]

/-- Programs that differ in their ids only have the same numbered form. -/
theorem Program.numbered_congr {program other : Program}
    (same : program.stripIds = other.stripIds) : program.numbered = other.numbered := by
  rw [← program.numbered_stripIds, same, other.numbered_stripIds]

/-! ## Programs that are numbered -/

mutual

/-- What is at each place of an input, in reading order: a literal, or a block with an id or
without. -/
def Input.marks : Input → List (Option (Option String))
  | .empty => []
  | .number _ => [none]
  | .text _ => [none]
  | .block id expression => some id :: expression.marks

/-- The marks in the sockets of a value block. -/
def Expression.marks : Expression → List (Option (Option String))
  | .compare left _ right => left.marks ++ right.marks
  | .number _ => []
  | .randomRange _ _ => []
  | .getVariable _ => []
  | .colorValue _ => []
  | .customColor _ => []
  | .rgbColor _ => []

end

mutual

def Statement.marks : Statement → List (Option (Option String))
  | .start actions => actions.marks
  | .displayImage _ => []
  | .playAnimation _ _ => []
  | .wait time => time.marks
  | .branch condition whenTrue whenFalse => condition.marks ++ (whenTrue.marks ++ whenFalse.marks)
  | .setVariable _ new => new.marks
  | .forever body => body.marks
  | .repeatLoop times body => times.marks ++ body.marks
  | .whileLoop condition body => condition.marks ++ body.marks
  | .breakLoop => []
  | .gpio _ _ => []
  | .gpioBranch _ _ whenTrue whenFalse => whenTrue.marks ++ whenFalse.marks
  | .gpioTrigger _ _ actions => actions.marks
  | .setColor color => color.marks
  | .value expression => expression.marks

def Chain.marks : Chain → List (Option (Option String))
  | .nil => []
  | .link id statement next => some id :: (statement.marks ++ next.marks)

end

theorem Expression.marks_eq (expression : Expression) :
    expression.marks = expression.inputs.flatMap fun socket => socket.2.marks := by
  cases expression <;> simp [marks, inputs]

theorem Statement.marks_eq (statement : Statement) :
    statement.marks =
      (statement.inputs.flatMap fun socket => socket.2.marks) ++
        statement.chains.flatMap fun socket => socket.2.marks := by
  cases statement with
  | value expression => simp [marks, inputs, chains, expression.marks_eq]
  | _ => simp [marks, inputs, chains]

private theorem Input.length_marks (input : Input) : input.marks.length = input.kinds.length := by
  induction input using Input.socketInduction with
  | empty => rfl
  | number _ => rfl
  | text _ => rfl
  | block id expression inductionHypothesis =>
      have sockets : (expression.inputs.map fun socket => socket.2.marks.length) =
          expression.inputs.map fun socket => socket.2.kinds.length :=
        List.map_congr_left fun socket member => inductionHypothesis socket.1 socket.2 member
      rw [Input.marks, Input.kinds, expression.kinds_eq, List.length_cons, List.length_cons,
        expression.marks_eq, List.length_flatMap, List.length_flatMap, sockets]

private theorem Statement.length_marks_of_slots {statement : Statement}
    (inside : ∀ chain ∈ statement.slots, chain.marks.length = chain.kinds.length) :
    statement.marks.length + 1 = statement.kinds.length := by
  have chains : (statement.chains.map fun socket => socket.2.marks.length) =
      statement.chains.map fun socket => socket.2.kinds.length :=
    List.map_congr_left fun socket member => inside _ (Statement.mem_slots_of_chains member)
  have inputs : (statement.inputs.map fun socket => socket.2.marks.length) =
      statement.inputs.map fun socket => socket.2.kinds.length :=
    List.map_congr_left fun socket _ => socket.2.length_marks
  rw [Statement.kinds_eq, List.length_cons, List.length_append, Statement.marks_eq,
    List.length_append, List.length_flatMap, List.length_flatMap, List.length_flatMap,
    List.length_flatMap, inputs, chains]

theorem Chain.length_marks (chain : Chain) : chain.marks.length = chain.kinds.length := by
  induction chain using Chain.socketInduction with
  | nil => rfl
  | link id statement next inside after =>
      rw [Chain.marks, Chain.kinds, List.length_cons, List.length_append, List.length_append, after,
        ← Statement.length_marks_of_slots inside, Nat.add_right_comm]

private theorem Statement.length_marks (statement : Statement) :
    statement.marks.length + 1 = statement.kinds.length :=
  Statement.length_marks_of_slots fun chain _ => chain.length_marks

/-- The marks of blocks are the labels of their places, where the first place has this number. -/
def InOrder : Nat → List (Option (Option String)) → Prop
  | _, [] => True
  | first, mark :: marks => (∀ id ∈ mark, id = some (label first)) ∧ InOrder (first + 1) marks

theorem inOrder_append {first : Nat} {marks others : List (Option (Option String))} :
    InOrder first (marks ++ others) ↔
      InOrder first marks ∧ InOrder (first + marks.length) others := by
  induction marks generalizing first with
  | nil => simp [InOrder]
  | cons mark marks inductionHypothesis =>
      rw [List.cons_append, InOrder, InOrder, inductionHypothesis, List.length_cons, and_assoc,
        Nat.add_right_comm, Nat.add_assoc]

theorem inOrder_cons {first : Nat} {id : Option String} {marks : List (Option (Option String))} :
    InOrder first (some id :: marks) ↔ id = some (label first) ∧ InOrder (first + 1) marks := by
  simp [InOrder]

mutual

theorem Input.numbered_of_inOrder (input : Input) {first : Nat}
    (inOrder : InOrder first input.marks) : input.numbered first = input := by
  match input with
  | .empty => rfl
  | .number _ => rfl
  | .text _ => rfl
  | .block _ expression =>
      obtain ⟨rfl, inside⟩ := inOrder_cons.mp inOrder
      rw [Input.numbered, expression.numbered_of_inOrder inside]

theorem Expression.numbered_of_inOrder (expression : Expression) {first : Nat}
    (inOrder : InOrder first expression.marks) : expression.numbered first = expression := by
  match expression with
  | .compare left _ right =>
      rw [Expression.marks, inOrder_append, left.length_marks] at inOrder
      rw [Expression.numbered, left.numbered_of_inOrder inOrder.1,
        right.numbered_of_inOrder inOrder.2]
  | .number _ => rfl
  | .randomRange _ _ => rfl
  | .getVariable _ => rfl
  | .colorValue _ => rfl
  | .customColor _ => rfl
  | .rgbColor _ => rfl

end

mutual

theorem Statement.numbered_of_inOrder (statement : Statement) {first : Nat}
    (inOrder : InOrder first statement.marks) : statement.numbered first = statement := by
  match statement with
  | .start actions => rw [Statement.numbered, actions.numbered_of_inOrder inOrder]
  | .displayImage _ => rfl
  | .playAnimation _ _ => rfl
  | .wait time => rw [Statement.numbered, time.numbered_of_inOrder inOrder]
  | .branch condition whenTrue whenFalse =>
      rw [Statement.marks, inOrder_append, inOrder_append, condition.length_marks,
        whenTrue.length_marks] at inOrder
      obtain ⟨conditionInOrder, trueInOrder, falseInOrder⟩ := inOrder
      rw [Statement.numbered, condition.numbered_of_inOrder conditionInOrder,
        whenTrue.numbered_of_inOrder trueInOrder, whenFalse.numbered_of_inOrder falseInOrder]
  | .setVariable _ new => rw [Statement.numbered, new.numbered_of_inOrder inOrder]
  | .forever body => rw [Statement.numbered, body.numbered_of_inOrder inOrder]
  | .repeatLoop times body =>
      rw [Statement.marks, inOrder_append, times.length_marks] at inOrder
      rw [Statement.numbered, times.numbered_of_inOrder inOrder.1,
        body.numbered_of_inOrder inOrder.2]
  | .whileLoop condition body =>
      rw [Statement.marks, inOrder_append, condition.length_marks] at inOrder
      rw [Statement.numbered, condition.numbered_of_inOrder inOrder.1,
        body.numbered_of_inOrder inOrder.2]
  | .breakLoop => rfl
  | .gpio _ _ => rfl
  | .gpioBranch _ _ whenTrue whenFalse =>
      rw [Statement.marks, inOrder_append, whenTrue.length_marks] at inOrder
      rw [Statement.numbered, whenTrue.numbered_of_inOrder inOrder.1,
        whenFalse.numbered_of_inOrder inOrder.2]
  | .gpioTrigger _ _ actions => rw [Statement.numbered, actions.numbered_of_inOrder inOrder]
  | .setColor color => rw [Statement.numbered, color.numbered_of_inOrder inOrder]
  | .value expression => rw [Statement.numbered, expression.numbered_of_inOrder inOrder]

theorem Chain.numbered_of_inOrder (chain : Chain) {first : Nat}
    (inOrder : InOrder first chain.marks) : chain.numbered first = chain := by
  match chain with
  | .nil => rfl
  | .link _ statement next =>
      rw [Chain.marks, inOrder_cons, inOrder_append, Nat.add_assoc, Nat.add_comm 1,
        statement.length_marks] at inOrder
      obtain ⟨rfl, inside, after⟩ := inOrder
      rw [Chain.numbered, statement.numbered_of_inOrder inside, next.numbered_of_inOrder after]

end

end Marquee
