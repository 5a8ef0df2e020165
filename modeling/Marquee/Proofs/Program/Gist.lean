import Marquee.Editor.Save
import Marquee.Proofs.Program.Normal

/-!
# The gist of a program

The gist of a program is what is left of it without ids, with literals instead of number and color
blocks, and with nothing told of the statements that a run passes over. If an editor can hold the
numbers of a program, and no loop in it leaves its number of rounds open, then the normal form has
the same gist.
-/

namespace Marquee

mutual

def Input.gist : Input → Input
  | .empty => .empty
  | .number value => .number value
  | .text text => .text text
  | .block _ expression => Source.asInput none expression.gist

def Expression.gist : Expression → Expression
  | .compare left relation right => .compare left.gist relation right.gist
  | .number value => .number value
  | .randomRange min max => .randomRange min max
  | .getVariable name => .getVariable name
  | .colorValue color => .colorValue color
  | .customColor color => .customColor color
  | .rgbColor color => .rgbColor color

end

mutual

/-- The gist of a statement. All statements that a run passes over have the same. -/
def Statement.gist : Statement → Statement
  | .displayImage filename => .displayImage filename
  | .playAnimation folder playFor => .playAnimation folder playFor
  | .wait time => .wait (time.gist.or (.number 0))
  | .branch condition whenTrue whenFalse => .branch condition.gist whenTrue.gist whenFalse.gist
  | .setVariable name value => .setVariable name value.gist
  | .forever body => .forever body.gist
  | .repeatLoop times body => .repeatLoop times.gist body.gist
  | .whileLoop condition body => .whileLoop condition.gist body.gist
  | .gpio pin level => .gpio pin level
  | .gpioBranch pin level whenTrue whenFalse =>
    .gpioBranch pin level whenTrue.gist whenFalse.gist
  | .setColor color => .setColor color.gist
  | .breakLoop => .breakLoop
  | .start _ => .breakLoop
  | .gpioTrigger _ _ _ => .breakLoop
  | .value _ => .breakLoop

def Chain.gist : Chain → Chain
  | .nil => .nil
  | .link _ statement next => .link none statement.gist next.gist

end

mutual

theorem Input.gist_stripIds (input : Input) : input.stripIds.gist = input.gist := by
  match input with
  | .empty => rfl
  | .number _ => rfl
  | .text _ => rfl
  | .block id expression =>
      rw [Input.stripIds, Input.gist, Input.gist, expression.gist_stripIds]

theorem Expression.gist_stripIds (expression : Expression) :
    expression.stripIds.gist = expression.gist := by
  match expression with
  | .compare left relation right =>
      rw [Expression.stripIds, Expression.gist, Expression.gist, left.gist_stripIds,
        right.gist_stripIds]
  | .number _ => rfl
  | .randomRange _ _ => rfl
  | .getVariable _ => rfl
  | .colorValue _ => rfl
  | .customColor _ => rfl
  | .rgbColor _ => rfl

end

mutual

theorem Statement.gist_stripIds (statement : Statement) :
    statement.stripIds.gist = statement.gist := by
  match statement with
  | .wait time => rw [Statement.stripIds, Statement.gist, Statement.gist, time.gist_stripIds]
  | .branch condition whenTrue whenFalse =>
      rw [Statement.stripIds, Statement.gist, Statement.gist, condition.gist_stripIds,
        whenTrue.gist_stripIds, whenFalse.gist_stripIds]
  | .setVariable name value =>
      rw [Statement.stripIds, Statement.gist, Statement.gist, value.gist_stripIds]
  | .forever body => rw [Statement.stripIds, Statement.gist, Statement.gist, body.gist_stripIds]
  | .repeatLoop times body =>
      rw [Statement.stripIds, Statement.gist, Statement.gist, times.gist_stripIds,
        body.gist_stripIds]
  | .whileLoop condition body =>
      rw [Statement.stripIds, Statement.gist, Statement.gist, condition.gist_stripIds,
        body.gist_stripIds]
  | .gpioBranch pin level whenTrue whenFalse =>
      rw [Statement.stripIds, Statement.gist, Statement.gist, whenTrue.gist_stripIds,
        whenFalse.gist_stripIds]
  | .setColor color => rw [Statement.stripIds, Statement.gist, Statement.gist, color.gist_stripIds]
  | .displayImage _ => rfl
  | .playAnimation _ _ => rfl
  | .gpio _ _ => rfl
  | .breakLoop => rfl
  | .start _ => rfl
  | .gpioTrigger _ _ _ => rfl
  | .value _ => rfl

theorem Chain.gist_stripIds (chain : Chain) : chain.stripIds.gist = chain.gist := by
  match chain with
  | .nil => rfl
  | .link id statement next =>
      rw [Chain.stripIds, Chain.gist, Chain.gist, statement.gist_stripIds, next.gist_stripIds]

end

mutual

theorem Input.gist_normal (input : Input) : input.normal.gist = input.gist := by
  match input with
  | .empty => rfl
  | .number _ => rfl
  | .text _ => rfl
  | .block id (.compare left relation right) =>
      have same := (Expression.compare left relation right).gist_normal
      exact congrArg (Source.asInput none) same
  | .block _ (.number _) => rfl
  | .block _ (.randomRange _ _) => rfl
  | .block _ (.getVariable _) => rfl
  | .block _ (.colorValue _) => rfl
  | .block _ (.customColor _) => rfl
  | .block _ (.rgbColor _) => rfl

theorem Expression.gist_normal (expression : Expression) :
    expression.normal.gist = expression.gist := by
  match expression with
  | .compare left relation right =>
      rw [Expression.normal, Expression.gist, Expression.gist, left.gist_normal,
        right.gist_normal]
  | .number _ => rfl
  | .randomRange _ _ => rfl
  | .getVariable _ => rfl
  | .colorValue _ => rfl
  | .customColor _ => rfl
  | .rgbColor _ => rfl

end

private theorem Input.normal_or (input default : Input) (given : input ≠ .empty) :
    input.normal.or default = input.normal := by
  cases input with
  | empty => exact absurd rfl given
  | number value => rfl
  | text text => rfl
  | block id expression => cases expression <;> rfl

/-- A default for what is empty does not show in the gist if it has the same default. -/
theorem Input.gist_or (input : Input) :
    (input.normal.or (.number 0)).gist.or (.number 0) = input.gist.or (.number 0) := by
  by_cases empty : input = .empty
  · rw [empty]
    rfl
  · rw [input.normal_or _ empty, input.gist_normal]

mutual

/-- An editor holds the statement as it is: its numbers fit the fields, and a loop says how many
rounds it has. What a run passes over does not count. -/
def Statement.Faithful : Statement → Prop
  | .playAnimation _ playFor => playFor.toNat < signedLimit
  | .branch _ whenTrue whenFalse => whenTrue.Faithful ∧ whenFalse.Faithful
  | .forever body => body.Faithful
  | .repeatLoop times body => times ≠ .empty ∧ body.Faithful
  | .whileLoop _ body => body.Faithful
  | .gpio pin _ => pin ≤ maxPin
  | .gpioBranch pin _ whenTrue whenFalse =>
    pin ≤ maxPin ∧ whenTrue.Faithful ∧ whenFalse.Faithful
  | _ => True

/-- An editor holds all statements of the chain as they are. -/
def Chain.Faithful : Chain → Prop
  | .nil => True
  | .link _ statement next => statement.Faithful ∧ next.Faithful

end

mutual

theorem Statement.gist_of_faithful (statement : Statement) (faithful : statement.Faithful) :
    statement.cut.normal.gist = statement.gist := by
  match statement with
  | .playAnimation folder playFor =>
      rw [Statement.cut, cutDuration_of_lt faithful, Statement.normal]
  | .wait time =>
      rw [Statement.cut, Statement.normal, Statement.gist, Statement.gist, time.gist_or]
  | .branch condition whenTrue whenFalse =>
      obtain ⟨trueFaithful, falseFaithful⟩ := faithful
      rw [Statement.cut, Statement.normal, Statement.gist, Statement.gist, condition.gist_normal,
        whenTrue.gist_of_faithful trueFaithful, whenFalse.gist_of_faithful falseFaithful]
  | .setVariable name value =>
      rw [Statement.cut, Statement.normal, Statement.gist, Statement.gist, value.gist_normal]
  | .forever body =>
      rw [Statement.cut, Statement.normal, Statement.gist, Statement.gist,
        body.gist_of_faithful faithful]
  | .repeatLoop times body =>
      obtain ⟨given, bodyFaithful⟩ := faithful
      rw [Statement.cut, Statement.normal, Statement.gist, Statement.gist,
        times.normal_or _ given, times.gist_normal, body.gist_of_faithful bodyFaithful]
  | .whileLoop condition body =>
      rw [Statement.cut, Statement.normal, Statement.gist, Statement.gist, condition.gist_normal,
        body.gist_of_faithful faithful]
  | .gpio pin level => rw [Statement.cut, cutPin_of_le faithful, Statement.normal]
  | .gpioBranch pin level whenTrue whenFalse =>
      obtain ⟨small, trueFaithful, falseFaithful⟩ := faithful
      rw [Statement.cut, cutPin_of_le small, Statement.normal, Statement.gist, Statement.gist,
        whenTrue.gist_of_faithful trueFaithful, whenFalse.gist_of_faithful falseFaithful]
  | .setColor color =>
      rw [Statement.cut, Statement.normal, Statement.gist, Statement.gist, color.gist_normal]
  | .displayImage _ => rfl
  | .breakLoop => rfl
  | .start _ => rfl
  | .gpioTrigger _ _ _ => rfl
  | .value _ => rfl

theorem Chain.gist_of_faithful (chain : Chain) (faithful : chain.Faithful) :
    chain.cut.normal.gist = chain.gist := by
  match chain with
  | .nil => rfl
  | .link id statement next =>
      rw [Chain.cut, Chain.normal, Chain.gist, Chain.gist,
        statement.gist_of_faithful faithful.1, next.gist_of_faithful faithful.2]

end

end Marquee
