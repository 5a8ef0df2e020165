import Marquee.Run.Machine

/-!
# Machines with other tasks

Evaluating an input does not look at the tasks of a machine, and pushing tasks does not look at
those that wait. So what is done to each task by itself is easily carried through a step.
-/

namespace Marquee

namespace Machine

/-- The machine with other tasks and another count of statements. -/
def mapWork (tasks : List Task → List Task) (count : Nat → Nat) (machine : Machine) : Machine :=
  { machine with tasks := tasks machine.tasks, executed := count machine.executed }

section

variable (tasks : List Task → List Task) (count : Nat → Nat) (machine : Machine)

private theorem colorText_mapWork (input : Input) :
    (machine.mapWork tasks count).colorText input =
      (machine.colorText input).map id (mapWork tasks count) := by
  cases input with
  | empty => rfl
  | number value => rfl
  | text text => rfl
  | block name expression => cases expression <;> rfl

/-- A colour is set without a look at the tasks. -/
theorem setColor_mapWork (scene : Scene) (input : Input) :
    (machine.mapWork tasks count).setColor scene input =
      (machine.setColor scene input).map id (mapWork tasks count) := by
  rw [setColor, setColor, colorText_mapWork]
  obtain ⟨text, after⟩ := machine.colorText input
  cases text with
  | none => rfl
  | some text =>
      have same : (after.mapWork tasks count).dice = after.dice := rfl
      dsimp only [Prod.map_apply, id]
      split
      · rw [same]
        obtain ⟨picked, dice⟩ := after.dice.pick scene.palette
        cases picked <;> rfl
      · rfl

end

/-- The machine, with every task changed. -/
def mapTasks (change : Task → Task) (machine : Machine) : Machine :=
  { machine with tasks := machine.tasks.map change }

variable (change : Task → Task) (machine : Machine)

theorem map_push (request : Request) (tasks : List Task) :
    (request, machine.push tasks).map id (mapTasks change) =
      (request, (machine.mapTasks change).push (tasks.map change)) := by
  rw [Prod.map_apply, push, mapTasks, mapTasks, push, List.map_append]
  rfl

theorem evaluate_mapTasks (input : Input) :
    (machine.mapTasks change).evaluate input =
      (machine.evaluate input).map id (mapTasks change) := rfl

theorem setColor_mapTasks (scene : Scene) (input : Input) :
    (machine.mapTasks change).setColor scene input =
      (machine.setColor scene input).map id (mapTasks change) :=
  machine.setColor_mapWork (List.map change) id scene input

end Machine

end Marquee
