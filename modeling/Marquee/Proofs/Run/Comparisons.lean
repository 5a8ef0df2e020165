import Marquee.Run.Evaluate

/-!
# Comparisons

Two values of any sorts are in order one way, the other way, or level, and the six relations say
which: so each of them has a negation and a converse among them. Equality is stricter than being
level only for values of different sorts, as one order serves all values of a sort. What holds of
values holds of the inputs that they come from, as long as each input gets the same draws.
-/

namespace Marquee

namespace Relation

/-- The relation that holds whenever this one does not. -/
def negation : Relation → Relation
  | eq => neq
  | neq => eq
  | lt => gte
  | gt => lte
  | lte => gt
  | gte => lt

/-- The relation seen from the other side. -/
def converse : Relation → Relation
  | eq => eq
  | neq => neq
  | lt => gt
  | gt => lt
  | lte => gte
  | gte => lte

end Relation

namespace Value

/-- Both numbers, both truth values, or both texts. -/
inductive SameSort : Value → Value → Prop
  | number (left right : Int64) : SameSort (.number left) (.number right)
  | bool (left right : Bool) : SameSort (.bool left) (.bool right)
  | text (left right : String) : SameSort (.text left) (.text right)

private theorem textOrder_swap (left right : String) :
    (textOrder left right).swap = textOrder right left := by
  rcases Text.before_total left right with equal | before | after
  · simp [textOrder, equal]
  · have different := Text.ne_of_before before
    simp [textOrder, different, different.symm, before, Text.before_asymm before]
  · have different := Text.ne_of_before after
    simp [textOrder, different, different.symm, after, Text.before_asymm after]

private theorem numberOrder_swap (left right : Int64) :
    (numberOrder left right).swap = numberOrder right left := by
  rw [numberOrder, numberOrder]
  rcases Int.lt_trichotomy left.toInt right.toInt with less | level | more
  · rw [if_pos less, if_neg (by omega), if_neg (by omega)]
    rfl
  · simp [level]
  · rw [if_neg (by omega), if_neg (by omega), if_pos more]
    rfl

private theorem order_swap (left right : Value) : (order left right).swap = order right left := by
  cases left with
  | text leftText =>
      cases right with
      | text rightText => exact textOrder_swap leftText rightText
      | _ => exact numberOrder_swap _ _
  | _ => cases right <;> exact numberOrder_swap _ _

private theorem textOrder_eq_iff {left right : String} :
    textOrder left right = .eq ↔ left = right := by
  rw [textOrder]
  split
  · next equal => exact iff_of_true rfl equal
  · next different => split <;> exact iff_of_false nofun different

private theorem numberOrder_eq_iff {left right : Int64} :
    numberOrder left right = .eq ↔ left = right := by
  rw [numberOrder, ← Int64.toInt_inj]
  split
  · exact iff_of_false nofun (by omega)
  · split
    · next level => exact iff_of_true rfl level
    · next different => exact iff_of_false nofun different

private theorem order_self (value : Value) : order value value = .eq := by
  cases value with
  | text literal => exact textOrder_eq_iff.mpr rfl
  | _ => exact numberOrder_eq_iff.mpr rfl

/-- Values of one sort are level only if they are equal. -/
theorem SameSort.eq_of_order {left right : Value} (sort : left.SameSort right)
    (level : order left right = .eq) : left = right := by
  cases sort with
  | number left right => exact congrArg Value.number (numberOrder_eq_iff.mp level)
  | bool left right =>
      have numbers := numberOrder_eq_iff.mp level
      cases left <;> cases right <;> first | rfl | cases numbers
  | text left right => exact congrArg Value.text (textOrder_eq_iff.mp level)

end Value

namespace Relation

variable (relation : Relation) (left right : Value)

theorem holds_negation : relation.negation.holds left right = !relation.holds left right := by
  cases relation <;> simp [negation, holds, bne]

theorem holds_converse : relation.converse.holds right left = relation.holds left right := by
  have swapped := Value.order_swap left right
  cases relation with
  | eq => simp [converse, holds, eq_comm]
  | neq => simp [converse, holds, eq_comm]
  | _ =>
      simp only [converse, holds, ← swapped]
      cases Value.order left right <;> rfl

private theorem lte_and_gte_of_eq (equal : holds .eq left right = true) :
    holds .lte left right = true ∧ holds .gte left right = true := by
  have same : left = right := of_decide_eq_true equal
  rw [holds, holds, same, Value.order_self]
  exact ⟨rfl, rfl⟩

/-- Values are level if each is at most the other. -/
theorem order_of_lte_of_gte (atMost : holds .lte left right = true)
    (atLeast : holds .gte left right = true) : Value.order left right = .eq := by
  have notAfter : Value.order left right ≠ .gt := bne_iff_ne.mp atMost
  have notBefore : Value.order left right ≠ .lt := bne_iff_ne.mp atLeast
  cases order : Value.order left right with
  | eq => rfl
  | lt => exact absurd order notBefore
  | gt => exact absurd order notAfter

private theorem count_holds :
    [holds .lt left right, holds .gt left right,
      holds .lte left right && holds .gte left right].count true = 1 := by
  simp only [holds]
  cases Value.order left right <;> rfl

end Relation

mutual

/-- The number of draws that an input uses up. -/
def Input.draws : Input → Nat
  | .empty => 0
  | .number _ => 0
  | .text _ => 0
  | .block _ expression => expression.draws

def Expression.draws : Expression → Nat
  | .randomRange _ _ => 1
  | .compare left _ right => left.draws + right.draws
  | .number _ => 0
  | .getVariable _ => 0
  | .colorValue _ => 0
  | .customColor _ => 0
  | .rgbColor _ => 0

end

namespace Dice

/-- The dice after some more draws. -/
def after (dice : Dice) (count : Nat) : Dice :=
  { dice with used := dice.used + count }

/-- The next draws are the same. -/
def SameDraws (count : Nat) (first second : Dice) : Prop :=
  ∀ index < count, first.sequence (first.used + index) = second.sequence (second.used + index)

/-- The dice in which some of the next draws change places with as many as follow them. -/
def exchanged (dice : Dice) (first second : Nat) : Dice :=
  { dice with
    sequence := fun index =>
      if index < dice.used then dice.sequence index
      else if index < dice.used + second then dice.sequence (index + first)
      else if index < dice.used + second + first then dice.sequence (index - second)
      else dice.sequence index }

theorem SameDraws.mono {fewer count : Nat} {first second : Dice}
    (same : SameDraws count first second) (fits : fewer ≤ count) : SameDraws fewer first second :=
  fun index small => same index (by omega)

theorem SameDraws.after {done count : Nat} {first second : Dice}
    (same : SameDraws (done + count) first second) :
    SameDraws count (first.after done) (second.after done) := by
  intro index small
  have later := same (done + index) (by omega)
  rw [← Nat.add_assoc, ← Nat.add_assoc] at later
  exact later

private theorem sameDraws_exchanged (dice : Dice) (first second : Nat) :
    SameDraws second (dice.exchanged first second) (dice.after first) := by
  intro index small
  simp only [exchanged, Dice.after]
  rw [if_neg (by omega), if_pos (by omega)]
  congr 1
  omega

private theorem sameDraws_exchanged_after (dice : Dice) (first second : Nat) :
    SameDraws first ((dice.exchanged first second).after second) dice := by
  intro index small
  simp only [exchanged, Dice.after]
  rw [if_neg (by omega), if_neg (by omega), if_pos (by omega)]
  congr 1
  omega

end Dice

section

variable (store : Variables)

mutual

theorem Input.dice_evaluate (input : Input) (dice : Dice) :
    (input.evaluate store dice).2 = dice.after input.draws := by
  match input with
  | .empty => rfl
  | .number _ => rfl
  | .text _ => rfl
  | .block _ expression => exact expression.dice_evaluate dice

theorem Expression.dice_evaluate (expression : Expression) (dice : Dice) :
    (expression.evaluate store dice).2 = dice.after expression.draws := by
  match expression with
  | .compare left relation right =>
      rw [Expression.evaluate, right.dice_evaluate, left.dice_evaluate, Expression.draws]
      simp only [Dice.after, Nat.add_assoc]
  | .randomRange _ _ => rfl
  | .number _ => rfl
  | .getVariable _ => rfl
  | .colorValue _ => rfl
  | .customColor _ => rfl
  | .rgbColor _ => rfl

end

mutual

/-- An input evaluates to the same value if it is given the same draws. -/
theorem Input.evaluate_of_sameDraws (input : Input) {first second : Dice}
    (same : Dice.SameDraws input.draws first second) :
    (input.evaluate store first).1 = (input.evaluate store second).1 := by
  match input with
  | .empty => rfl
  | .number _ => rfl
  | .text _ => rfl
  | .block _ expression => exact expression.evaluate_of_sameDraws same

theorem Expression.evaluate_of_sameDraws (expression : Expression) {first second : Dice}
    (same : Dice.SameDraws expression.draws first second) :
    (expression.evaluate store first).1 = (expression.evaluate store second).1 := by
  match expression with
  | .compare left relation right =>
      rw [Expression.draws] at same
      have sameLeft := left.evaluate_of_sameDraws (same.mono (Nat.le_add_right _ _))
      have sameRight := right.evaluate_of_sameDraws same.after
      simp only [Expression.evaluate, left.dice_evaluate, sameLeft, sameRight]
  | .randomRange min max =>
      have drawn := same 0 Nat.one_pos
      rw [Nat.add_zero, Nat.add_zero] at drawn
      simp only [Expression.evaluate, Dice.drawBetween, Dice.draw, drawn]
  | .number _ => rfl
  | .getVariable _ => rfl
  | .colorValue _ => rfl
  | .customColor _ => rfl
  | .rgbColor _ => rfl

end

/-- The relations between two inputs fit together. Each of them holds exactly if its negation does
not, and exactly if its converse holds of the two values in the other order, as it does of the
inputs in the other order when their draws change places with them. Equal values are at most and at
least each other, and values of one sort that are both are equal. Either the left value is less, or
it is greater, or the values are level, and no two of these at once. -/
theorem Input.comparisons_fit (dice : Dice) (left right : Input) :
    ∃ (first second : Value) (between rest : Dice) (holds : Relation → Bool),
      left.evaluate store dice = (first, between) ∧ right.evaluate store between = (second, rest) ∧
      (∀ relation, (Expression.compare left relation right).evaluate store dice =
        (.bool (holds relation), rest)) ∧
      (∀ relation, holds relation.negation = !holds relation) ∧
      (∀ relation, relation.converse.holds second first = holds relation) ∧
      (∀ relation, ((Expression.compare right relation.converse left).evaluate store
        (dice.exchanged left.draws right.draws)).1 = .bool (holds relation)) ∧
      (holds .eq = true → holds .lte = true ∧ holds .gte = true) ∧
      [holds .lt, holds .gt, holds .lte && holds .gte].count true = 1 ∧
      (first.SameSort second → holds .lte = true → holds .gte = true → holds .eq = true) := by
  let first := (left.evaluate store dice).1
  let second := (right.evaluate store (left.evaluate store dice).2).1
  refine ⟨first, second, _, _, fun relation => relation.holds first second, rfl, rfl,
    fun _ => rfl, fun relation => relation.holds_negation first second,
    fun relation => relation.holds_converse first second, fun relation => ?_,
    Relation.lte_and_gte_of_eq first second, Relation.count_holds first second,
    fun sort atMost atLeast => ?_⟩
  · -- The right input is evaluated first here, with the draws that came second before.
    have sameRight : (right.evaluate store (dice.exchanged left.draws right.draws)).1 = second := by
      rw [right.evaluate_of_sameDraws store (dice.sameDraws_exchanged left.draws right.draws),
        ← left.dice_evaluate store]
    have sameLeft := left.evaluate_of_sameDraws store
      (dice.sameDraws_exchanged_after left.draws right.draws)
    simp only [Expression.evaluate, right.dice_evaluate, sameRight, sameLeft]
    exact congrArg Value.bool (relation.holds_converse first second)
  · have level := Relation.order_of_lte_of_gte first second atMost atLeast
    exact decide_eq_true (sort.eq_of_order level)

end

end Marquee
