import Marquee.Proofs.Run.Lockstep

/-!
# Variables that read the same

A program learns of its variables only by reading them, and a variable that is unset, or holds what
counts as false, reads as zero. So nobody can tell runs apart whose variables read the same: they
make the same calls at the same times, draw as often, begin as many statements, and their variables
read the same ever after.
-/

namespace Marquee

/-- Every name reads the same. -/
def Variables.Agrees (first second : Variables) : Prop :=
  ∀ name, first.get name = second.get name

namespace Variables

theorem get_set (store : Variables) (name other : String) (value : Value) :
    (store.set name value).get other =
      if other = name then (if value.isTruthy then value else .zero) else store.get other := by
  rw [get, set, Table.get?_set]
  by_cases own : other = name
  · rw [if_pos own, if_pos own]
  · rw [if_neg own, if_neg own]
    rfl

namespace Agrees

variable {first second : Variables}

theorem refl (store : Variables) : store.Agrees store :=
  fun _ => rfl

theorem set (agrees : first.Agrees second) (name : String) (value : Value) :
    (first.set name value).Agrees (second.set name value) := by
  intro other
  rw [get_set, get_set, agrees other]

/-- What counts as false may be kept under a name that reads as zero, or not. -/
theorem set_falsy (agrees : first.Agrees second) {name : String} {value : Value}
    (falsy : value.isTruthy = false) (unset : second.get name = .zero) :
    (first.set name value).Agrees second := by
  intro other
  rw [get_set, falsy]
  by_cases own : other = name
  · rw [if_pos own, own, unset]
    rfl
  · rw [if_neg own]
    exact agrees other

end Agrees

end Variables

mutual

/-- An input looks at the store by reading names only. -/
theorem Input.evaluate_of_agrees {first second : Variables} (agrees : first.Agrees second)
    (input : Input) (dice : Dice) : input.evaluate first dice = input.evaluate second dice := by
  match input with
  | .empty => rfl
  | .number _ => rfl
  | .text _ => rfl
  | .block _ expression => exact expression.evaluate_of_agrees agrees dice

theorem Expression.evaluate_of_agrees {first second : Variables} (agrees : first.Agrees second)
    (expression : Expression) (dice : Dice) :
    expression.evaluate first dice = expression.evaluate second dice := by
  match expression with
  | .number _ => rfl
  | .randomRange _ _ => rfl
  | .getVariable name => exact congrArg (·, dice) (agrees name)
  | .compare left relation right =>
      simp only [Expression.evaluate, left.evaluate_of_agrees agrees,
        right.evaluate_of_agrees agrees]
  | .colorValue _ => rfl
  | .customColor _ => rfl
  | .rgbColor _ => rfl

end

namespace Machine

/-- Machines that differ only in variables that read the same. -/
structure SameReadings (first second : Machine) : Prop where
  tasks : first.tasks = second.tasks
  store : first.store.Agrees second.store
  dice : first.dice = second.dice
  executed : first.executed = second.executed

/-- The same is answered, and the machines differ only in variables that read the same. -/
def SameAnswer {α : Type} (first second : α × Machine) : Prop :=
  ∃ answer one two, first = (answer, one) ∧ second = (answer, two) ∧ SameReadings one two

namespace SameReadings

variable {first second : Machine}

theorem refl (machine : Machine) : machine.SameReadings machine :=
  ⟨rfl, .refl machine.store, rfl, rfl⟩

theorem answer {α : Type} (same : first.SameReadings second) (answer : α) :
    SameAnswer (answer, first) (answer, second) :=
  ⟨answer, first, second, rfl, rfl, same⟩

theorem push (same : first.SameReadings second) (tasks : List Task) :
    (first.push tasks).SameReadings (second.push tasks) :=
  { same with tasks := congrArg (tasks ++ ·) same.tasks }

theorem withDice (same : first.SameReadings second) (dice : Dice) :
    SameReadings { first with dice } { second with dice } :=
  { same with dice := rfl }

theorem evaluate (same : first.SameReadings second) (input : Input) :
    SameAnswer (first.evaluate input) (second.evaluate input) := by
  have equal := input.evaluate_of_agrees same.store first.dice
  rw [Machine.evaluate, Machine.evaluate, ← same.dice, ← equal]
  exact (same.withDice _).answer _

theorem colorText (same : first.SameReadings second) (input : Input) :
    SameAnswer (first.colorText input) (second.colorText input) := by
  have shown : SameAnswer (some (first.evaluate input).1.shown, (first.evaluate input).2)
      (some (second.evaluate input).1.shown, (second.evaluate input).2) := by
    obtain ⟨value, one, two, evaluated, twinEvaluated, after⟩ := same.evaluate input
    rw [evaluated, twinEvaluated]
    exact after.answer _
  match input with
  | .empty => exact same.answer _
  | .number _ => exact shown
  | .text _ => exact shown
  | .block _ (.rgbColor _) => exact same.answer _
  | .block _ (.number _) => exact shown
  | .block _ (.randomRange _ _) => exact shown
  | .block _ (.getVariable _) => exact shown
  | .block _ (.compare _ _ _) => exact shown
  | .block _ (.colorValue _) => exact shown
  | .block _ (.customColor _) => exact shown

theorem setColor (same : first.SameReadings second) (scene : Scene) (input : Input) :
    SameAnswer (first.setColor scene input) (second.setColor scene input) := by
  obtain ⟨shown, one, two, found, twinFound, after⟩ := same.colorText input
  rw [Machine.setColor, Machine.setColor, found, twinFound]
  cases shown with
  | none => exact after.answer _
  | some text =>
      dsimp only
      split
      · rw [← after.dice]
        cases one.dice.pick scene.palette with
        | mk picked dice => cases picked <;> exact (after.withDice dice).answer _
      · exact after.answer _

/-- A statement does the same, and an assignment writes the same into both stores. -/
theorem execute (same : first.SameReadings second) (scene : Scene) (statement : Statement) :
    SameAnswer (first.execute scene statement) (second.execute scene statement) := by
  cases statement with
  | displayImage filename => exact same.answer _
  | playAnimation folder playFor =>
      rw [Machine.execute, Machine.execute]
      split
      · exact same.answer _
      · exact (same.push _).answer _
  | wait time =>
      obtain ⟨value, one, two, evaluated, twinEvaluated, after⟩ := same.evaluate time
      rw [Machine.execute, Machine.execute, evaluated, twinEvaluated]
      exact (after.push _).answer _
  | setColor color => exact same.setColor scene color
  | setVariable name input =>
      obtain ⟨value, one, two, evaluated, twinEvaluated, after⟩ := same.evaluate input
      rw [Machine.execute, Machine.execute, evaluated, twinEvaluated]
      have assigned : SameReadings { one with store := one.store.set name value }
          { two with store := two.store.set name value } :=
        { after with store := after.store.set name value }
      exact assigned.answer _
  | gpio pin level =>
      rw [Machine.execute, Machine.execute]
      split <;> exact same.answer _
  | branch condition whenTrue whenFalse =>
      obtain ⟨value, one, two, evaluated, twinEvaluated, after⟩ := same.evaluate condition
      rw [Machine.execute, Machine.execute, evaluated, twinEvaluated]
      exact (after.push _).answer _
  | gpioBranch pin level whenTrue whenFalse => exact (same.push _).answer _
  | repeatLoop times body =>
      obtain ⟨value, one, two, evaluated, twinEvaluated, after⟩ := same.evaluate times
      rw [Machine.execute, Machine.execute, evaluated, twinEvaluated]
      exact (after.push _).answer _
  | forever body => exact (same.push _).answer _
  | whileLoop condition body => exact (same.push _).answer _
  | breakLoop => exact same.answer _
  | gpioTrigger pin trigger actions => exact same.answer _
  | start actions => exact same.answer _
  | value expression => exact same.answer _

theorem perform (same : first.SameReadings second) (scene : Scene) (task : Task) :
    SameAnswer (first.perform scene task) (second.perform scene task) := by
  cases task with
  | chain statements =>
      cases statements with
      | nil => exact same.answer _
      | link id statement next =>
          have begun : SameReadings
              { first.push [.chain next] with executed := first.executed + 1 }
              { second.push [.chain next] with executed := second.executed + 1 } :=
            { same.push [.chain next] with executed := congrArg (· + 1) same.executed }
          rw [Machine.perform, Machine.perform]
          split
          · exact same.answer _
          · exact begun.execute scene statement
  | yield => exact same.answer _
  | rest milliseconds =>
      rw [Machine.perform, Machine.perform]
      split <;> exact same.answer _
  | times left body =>
      cases left with
      | zero => exact same.answer _
      | succ left =>
          rw [Machine.perform, Machine.perform]
          split
          · exact same.answer _
          · exact (same.push _).answer _
  | forever body =>
      rw [Machine.perform, Machine.perform]
      split
      · exact same.answer _
      · exact (same.push _).answer _
  | whileHolds condition body =>
      obtain ⟨value, one, two, evaluated, twinEvaluated, after⟩ := same.evaluate condition
      rw [Machine.perform, Machine.perform, evaluated, twinEvaluated]
      dsimp only
      split
      · exact same.answer _
      · split
        · exact (after.push _).answer _
        · exact after.answer _
  | animation shown =>
      rw [Machine.perform, Machine.perform]
      split
      · exact same.answer _
      · exact (same.push _).answer _

/-- Machines that read the same take the same step, or have both nothing left to do. -/
theorem step (same : first.SameReadings second) (scene : Scene) :
    first.step scene = none ∧ second.step scene = none ∨
      ∃ request next other, first.step scene = some (request, next) ∧
        second.step scene = some (request, other) ∧ next.SameReadings other := by
  rw [Machine.step, Machine.step, ← same.tasks]
  cases first.tasks with
  | nil => exact Or.inl ⟨rfl, rfl⟩
  | cons task rest =>
      have dropped : SameReadings { first with tasks := rest } { second with tasks := rest } :=
        { same with tasks := rfl }
      obtain ⟨request, next, other, performed, twinPerformed, after⟩ := dropped.perform scene task
      exact Or.inr ⟨request, next, other, congrArg some performed, congrArg some twinPerformed,
        after⟩

end SameReadings

private theorem lockstep_readings : Lockstep SameReadings where
  refl := .refl
  executed := SameReadings.executed
  ends {first second scene} same ended := by
    rcases same.step scene with ⟨_, ends⟩ | ⟨request, next, other, takes, _⟩
    · exact ends
    · cases ended.symm.trans takes
  goesOn {first second next scene request} same stepped := by
    rcases same.step scene with ⟨ends, _⟩ | ⟨_, _, other, takes, twinTakes, after⟩
    · cases stepped.symm.trans ends
    · cases stepped.symm.trans takes
      exact ⟨other, twinTakes, after⟩

end Machine

namespace Preview

/-- The preview with other variables and other tasks for a run, of which a chain is the first. -/
def executing (preview : Preview) (number : Nat) (store : Variables) (statements : Chain)
    (rest : List Task) : Preview :=
  preview.modifyRun number fun run =>
    { run with machine := { run.machine with tasks := .chain statements :: rest, store } }

private theorem alike_executing {first second : Variables} (agrees : first.Agrees second)
    (preview : Preview) (number : Nat) (statements : Chain) (rest : List Task) :
    Preview.Alike Machine.SameReadings (preview.executing number first statements rest)
      (preview.executing number second statements rest) := by
  refine (Alike.refl Machine.lockstep_readings preview).modifyRun number ?_
  rintro run twin ⟨machine, same, rfl⟩
  have replaced : Machine.SameReadings
      { run.machine with tasks := .chain statements :: rest, store := first }
      { machine with tasks := .chain statements :: rest, store := second } :=
    ⟨rfl, agrees, same.dice, same.executed⟩
  exact ⟨_, replaced, rfl⟩

end Preview

/-- Variables that read the same make no difference. Every input evaluates to the same value with
the same draws. A run that executes statements from the one store or from the other, whatever
happens to the preview, makes the same calls at the same times, leaves the same pins, begins as
many statements and draws as often, and its variables go on to read the same. -/
theorem Variables.Agrees.unnoticed {first second : Variables} (agrees : first.Agrees second) :
    (∀ (input : Input) (dice : Dice), input.evaluate first dice = input.evaluate second dice) ∧
    ∀ (preview : Preview) (number : Nat) (statements : Chain) (rest : List Task)
      (acts : List Act),
      let one := (preview.executing number first statements rest).follow acts
      let two := (preview.executing number second statements rest).follow acts
      one.Indistinct two ∧
        Option.Rel (fun run twin => run.machine.SameReadings twin.machine)
          one.runs[number]? two.runs[number]? := by
  refine ⟨Input.evaluate_of_agrees agrees, ?_⟩
  intro preview number statements rest acts one two
  have unchanged : List.Forall₂ (Act.Alike Machine.SameReadings) acts acts :=
    List.forall₂_same.mpr fun act _ => .same act
  have alike : Preview.Alike Machine.SameReadings one two :=
    (Preview.alike_executing agrees preview number statements rest).follow
      Machine.lockstep_readings unchanged
  refine ⟨alike.indistinct, ?_⟩
  rcases alike.run number with ⟨absent, twinAbsent⟩ | ⟨run, twin, found, twinFound, machines⟩
  · rw [absent, twinAbsent]
    exact .none
  · obtain ⟨machine, same, rfl⟩ := machines
    rw [found, twinFound]
    exact .some same

/-- Variables that all hold what counts as false. -/
def blankVariables : Variables :=
  ((Variables.empty.set "none" (.number 0)).set "no" (.bool false)).set "blank" (.text "")

private theorem agrees_blankVariables : blankVariables.Agrees .empty :=
  (((Variables.Agrees.refl .empty).set_falsy rfl rfl).set_falsy rfl rfl).set_falsy rfl rfl

/-- Shows a variable as a color, copies one, and compares the copy with zero. -/
def inquiring : Chain :=
  .link none (.setColor (.block none (.getVariable "blank"))) <|
  .link none (.setVariable "copy" (.block none (.getVariable "no"))) <|
  .link none (.branch
    (.block none (.compare (.block none (.getVariable "copy")) .eq (.number 0)))
    (.link none (.displayImage "zero") .nil) .nil) .nil

/-- Nobody sees whether the variables hold what counts as false or nothing. -/
theorem unnoticed_inquiring :
    let origin := (Preview.start default .low).run (.ofActions .nil)
    let one := (origin.executing 0 blankVariables inquiring []).follow [.finish 0]
    let two := (origin.executing 0 .empty inquiring []).follow [.finish 0]
    one.calls.toList.map Prod.snd = [.color "#FFFFFF", .clear, .color "0", .image "zero"] ∧
      one.Indistinct two ∧
        Option.Rel (fun run twin => run.machine.SameReadings twin.machine)
          one.runs[0]? two.runs[0]? := by
  intro origin one two
  refine ⟨by decide +kernel, ?_⟩
  exact agrees_blankVariables.unnoticed.2 origin 0 inquiring [] [.finish 0]

end Marquee
