import Marquee.Proofs.Program.Ids
import Marquee.Width

/-!
# Programs that an editor can hold

An editor has no block without a program for it, but not every program text has blocks for it. A
program is editable if nothing follows its start block, only statements that can follow one another
do so, its numbers fit their fields, and its ids are different. What comes back from an editor is
its normal form: literals instead of number and color blocks, and defaults instead of an absent
time and an absent number of rounds.
-/

namespace Marquee

/-- The input, or a default instead of an absent one. -/
def Input.or : Input → Input → Input
  | .empty, default => default
  | input, _ => input

mutual

def Input.normal : Input → Input
  | .empty => .empty
  | .number value => .number value
  | .text text => .text text
  | .block _ (.number value) => .number value
  | .block _ (.colorValue color) => .text color
  | .block _ (.customColor color) => .text color
  | .block id expression => .block id expression.normal

def Expression.normal : Expression → Expression
  | .compare left relation right => .compare left.normal relation right.normal
  | .number value => .number value
  | .randomRange min max => .randomRange min max
  | .getVariable name => .getVariable name
  | .colorValue color => .colorValue color
  | .customColor color => .customColor color
  | .rgbColor color => .rgbColor color

end

mutual

def Statement.normal : Statement → Statement
  | .start actions => .start actions.normal
  | .displayImage filename => .displayImage filename
  | .playAnimation folder playFor => .playAnimation folder playFor
  | .wait time => .wait (time.normal.or (.number 0))
  | .branch condition whenTrue whenFalse =>
    .branch condition.normal whenTrue.normal whenFalse.normal
  | .setVariable name value => .setVariable name value.normal
  | .forever body => .forever body.normal
  | .repeatLoop times body => .repeatLoop (times.normal.or (.number 1)) body.normal
  | .whileLoop condition body => .whileLoop condition.normal body.normal
  | .breakLoop => .breakLoop
  | .gpio pin level => .gpio pin level
  | .gpioBranch pin level whenTrue whenFalse =>
    .gpioBranch pin level whenTrue.normal whenFalse.normal
  | .gpioTrigger pin trigger actions => .gpioTrigger pin trigger actions.normal
  | .setColor color => .setColor color.normal
  | .value expression => .value expression.normal

def Chain.normal : Chain → Chain
  | .nil => .nil
  | .link id statement next => .link id statement.normal next.normal

end

def Program.normal (program : Program) : Program :=
  ⟨program.id, program.actions.normal, program.next.normal⟩

mutual

/-- In the statement sockets stands only what fits there. -/
def Statement.Placed : Statement → Prop
  | .start actions => actions.Placed
  | .branch _ whenTrue whenFalse => whenTrue.Placed ∧ whenFalse.Placed
  | .forever body => body.Placed
  | .repeatLoop _ body => body.Placed
  | .whileLoop _ body => body.Placed
  | .gpioBranch _ _ whenTrue whenFalse => whenTrue.Placed ∧ whenFalse.Placed
  | .gpioTrigger _ _ actions => actions.Placed
  | _ => True

/-- No start block and no value block stands in the chain, and nothing follows a break. -/
def Chain.Placed : Chain → Prop
  | .nil => True
  | .link _ statement next =>
    (statement.kind ≠ .start ∧ statement.kind.isValue = false ∧
      (statement.kind = .breakLoop → next = .nil)) ∧ statement.Placed ∧ next.Placed

end

theorem Statement.Placed.slots {statement : Statement} (placed : statement.Placed) {chain : Chain}
    (member : chain ∈ statement.slots) : chain.Placed := by
  cases statement with
  | start | forever | repeatLoop | whileLoop | gpioTrigger =>
      rw [List.mem_singleton.mp member]
      exact placed
  | branch | gpioBranch =>
      rcases List.mem_cons.mp member with rfl | last
      · exact placed.1
      · rw [List.mem_singleton.mp last]
        exact placed.2
  | _ => cases member

mutual

def Statement.InRange : Statement → Prop
  | .start actions => actions.InRange
  | .playAnimation _ playFor => playFor.toNat < signedLimit
  | .branch _ whenTrue whenFalse => whenTrue.InRange ∧ whenFalse.InRange
  | .forever body => body.InRange
  | .repeatLoop _ body => body.InRange
  | .whileLoop _ body => body.InRange
  | .gpio pin _ => pin ≤ maxPin
  | .gpioBranch pin _ whenTrue whenFalse =>
    pin ≤ maxPin ∧ whenTrue.InRange ∧ whenFalse.InRange
  | .gpioTrigger pin _ actions => pin ≤ maxPin ∧ actions.InRange
  | _ => True

/-- All pins exist, and all durations fit a field. -/
def Chain.InRange : Chain → Prop
  | .nil => True
  | .link _ statement next => statement.InRange ∧ next.InRange

end

def cutPin (pin : UInt8) : UInt8 :=
  UInt8.ofNat (min pin.toNat maxPin.toNat)

def cutDuration (milliseconds : UInt64) : UInt64 :=
  UInt64.ofNat (min milliseconds.toNat (signedLimit - 1))

mutual

/-- The statement with all numbers cut to the range of their fields. -/
def Statement.cut : Statement → Statement
  | .start actions => .start actions.cut
  | .playAnimation folder playFor => .playAnimation folder (cutDuration playFor)
  | .branch condition whenTrue whenFalse => .branch condition whenTrue.cut whenFalse.cut
  | .forever body => .forever body.cut
  | .repeatLoop times body => .repeatLoop times body.cut
  | .whileLoop condition body => .whileLoop condition body.cut
  | .gpio pin level => .gpio (cutPin pin) level
  | .gpioBranch pin level whenTrue whenFalse =>
    .gpioBranch (cutPin pin) level whenTrue.cut whenFalse.cut
  | .gpioTrigger pin trigger actions => .gpioTrigger (cutPin pin) trigger actions.cut
  | .displayImage filename => .displayImage filename
  | .wait time => .wait time
  | .setVariable name value => .setVariable name value
  | .breakLoop => .breakLoop
  | .setColor color => .setColor color
  | .value expression => .value expression

def Chain.cut : Chain → Chain
  | .nil => .nil
  | .link id statement next => .link id statement.cut next.cut

end

theorem cutPin_of_le {pin : UInt8} (small : pin ≤ maxPin) : cutPin pin = pin := by
  rw [cutPin, Nat.min_eq_left (UInt8.le_iff_toNat_le.mp small)]
  exact UInt8.ofNat_toNat

theorem cutDuration_of_lt {milliseconds : UInt64} (small : milliseconds.toNat < signedLimit) :
    cutDuration milliseconds = milliseconds := by
  rw [cutDuration, Nat.min_eq_left (by omega)]
  exact UInt64.ofNat_toNat

mutual

theorem Statement.cut_of_inRange (statement : Statement) (inRange : statement.InRange) :
    statement.cut = statement := by
  match statement with
  | .start actions => rw [Statement.cut, actions.cut_of_inRange inRange]
  | .playAnimation folder playFor => rw [Statement.cut, cutDuration_of_lt inRange]
  | .branch condition whenTrue whenFalse =>
      rw [Statement.cut, whenTrue.cut_of_inRange inRange.1, whenFalse.cut_of_inRange inRange.2]
  | .forever body => rw [Statement.cut, body.cut_of_inRange inRange]
  | .repeatLoop times body => rw [Statement.cut, body.cut_of_inRange inRange]
  | .whileLoop condition body => rw [Statement.cut, body.cut_of_inRange inRange]
  | .gpio pin level => rw [Statement.cut, cutPin_of_le inRange]
  | .gpioBranch pin level whenTrue whenFalse =>
      obtain ⟨small, trueInRange, falseInRange⟩ := inRange
      rw [Statement.cut, cutPin_of_le small, whenTrue.cut_of_inRange trueInRange,
        whenFalse.cut_of_inRange falseInRange]
  | .gpioTrigger pin trigger actions =>
      rw [Statement.cut, cutPin_of_le inRange.1, actions.cut_of_inRange inRange.2]
  | .displayImage _ => rfl
  | .wait _ => rfl
  | .setVariable _ _ => rfl
  | .breakLoop => rfl
  | .setColor _ => rfl
  | .value _ => rfl

theorem Chain.cut_of_inRange (chain : Chain) (inRange : chain.InRange) : chain.cut = chain := by
  match chain with
  | .nil => rfl
  | .link id statement next =>
      rw [Chain.cut, statement.cut_of_inRange inRange.1, next.cut_of_inRange inRange.2]

end

structure Program.Editable (program : Program) : Prop where
  alone : program.next = .nil
  placed : program.actions.Placed
  inRange : program.actions.InRange
  distinct : program.ids.Nodup

end Marquee
