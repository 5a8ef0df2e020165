import Marquee.Proofs.Editor.Clean
import Marquee.Proofs.Editor.Reload
import Marquee.Proofs.Program.Gist
import Marquee.Proofs.Run.Lockstep
import Marquee.Proofs.Run.Tasks

/-!
# Formatting a program keeps what it does

Machines whose tasks have the same gist go in lockstep. So a preview cannot tell a program from what
an editor saves of it, if the editor took it without trouble and holds it as it is. An editor does
not hold pins and durations out of range, and makes up one round for a loop that does not say how
many it has, while a run makes none: such programs are told apart.
-/

namespace Marquee

open Workspace

private theorem Source.evaluate_asInput (store : Variables) (id : Option String)
    (expression : Expression) (dice : Dice) :
    (Source.asInput id expression).evaluate store dice = expression.evaluate store dice := by
  cases expression <;> rfl

mutual

theorem Input.evaluate_gist (store : Variables) (input : Input) (dice : Dice) :
    input.gist.evaluate store dice = input.evaluate store dice := by
  match input with
  | .empty => rfl
  | .number _ => rfl
  | .text _ => rfl
  | .block id expression =>
      rw [Input.gist, Source.evaluate_asInput, Input.evaluate]
      exact expression.evaluate_gist store dice

theorem Expression.evaluate_gist (store : Variables) (expression : Expression) (dice : Dice) :
    expression.gist.evaluate store dice = expression.evaluate store dice := by
  match expression with
  | .compare left relation right =>
      rw [Expression.gist, Expression.evaluate, Expression.evaluate, left.evaluate_gist]
      dsimp only
      rw [right.evaluate_gist]
  | .number _ => rfl
  | .randomRange _ _ => rfl
  | .getVariable _ => rfl
  | .colorValue _ => rfl
  | .customColor _ => rfl
  | .rgbColor _ => rfl

end

private theorem Input.evaluate_or_zero (store : Variables) (input : Input) (dice : Dice) :
    (input.or (.number 0)).evaluate store dice = input.evaluate store dice := by
  cases input <;> rfl

def Task.gist : Task → Task
  | .chain statements => .chain statements.gist
  | .yield => .yield
  | .rest milliseconds => .rest milliseconds
  | .times left body => .times left body.gist
  | .forever body => .forever body.gist
  | .whileHolds condition body => .whileHolds condition.gist body.gist
  | .animation shown => .animation shown

namespace Machine

variable (machine : Machine) (scene : Scene)

private theorem evaluate_of_gist (input : Input) :
    machine.evaluate input.gist = machine.evaluate input := by
  rw [evaluate, evaluate, input.evaluate_gist]

private theorem colorText_of_gist (input : Input) :
    machine.colorText input.gist = machine.colorText input := by
  cases input with
  | empty => rfl
  | number value => rfl
  | text text => rfl
  | block name expression =>
      cases expression with
      | compare left relation right =>
          have evaluated := machine.evaluate_of_gist (.block name (.compare left relation right))
          exact congrArg (Prod.map (some ∘ Value.shown) id) evaluated
      | number value => rfl
      | randomRange min max => rfl
      | getVariable name => rfl
      | colorValue color => rfl
      | customColor color => rfl
      | rgbColor color => rfl

private theorem setColor_of_gist (input : Input) :
    machine.setColor scene input.gist = machine.setColor scene input := by
  rw [setColor, setColor, colorText_of_gist]

private theorem execute_gist (statement : Statement) :
    (machine.mapTasks Task.gist).execute scene statement.gist =
      (machine.execute scene statement).map id (mapTasks Task.gist) := by
  cases statement with
  | displayImage filename => rfl
  | playAnimation folder playFor =>
      rw [Statement.gist, execute, execute]
      split
      · rfl
      · rw [map_push]
        rfl
  | wait time =>
      have value : (machine.mapTasks Task.gist).evaluate (time.gist.or (.number 0)) =
          (machine.evaluate time).map id (mapTasks Task.gist) := by
        rw [evaluate, time.gist.evaluate_or_zero, time.evaluate_gist]
        rfl
      rw [Statement.gist, execute, execute, value, map_push]
      rfl
  | branch condition whenTrue whenFalse =>
      rw [Statement.gist, execute, execute, evaluate_of_gist, evaluate_mapTasks, map_push]
      obtain ⟨value, after⟩ := machine.evaluate condition
      dsimp only [Prod.map_apply, id]
      split <;> rfl
  | setVariable name value =>
      rw [Statement.gist, execute, execute, evaluate_of_gist]
      rfl
  | forever body =>
      rw [Statement.gist, execute, execute, map_push]
      rfl
  | repeatLoop times body =>
      rw [Statement.gist, execute, execute, evaluate_of_gist, evaluate_mapTasks, map_push]
      rfl
  | whileLoop condition body =>
      rw [Statement.gist, execute, execute, map_push]
      rfl
  | gpio pin level =>
      rw [Statement.gist, execute, execute]
      split <;> rfl
  | gpioBranch pin level whenTrue whenFalse =>
      rw [Statement.gist, execute, execute, map_push]
      cases scene.pins.isHigh pin == level.isHigh <;> rfl
  | setColor color =>
      rw [Statement.gist, execute, execute, setColor_of_gist]
      exact machine.setColor_mapTasks Task.gist scene color
  | breakLoop => rfl
  | start actions => rfl
  | gpioTrigger pin trigger actions => rfl
  | value expression => rfl

private theorem perform_gist (task : Task) :
    (machine.mapTasks Task.gist).perform scene task.gist =
      (machine.perform scene task).map id (mapTasks Task.gist) := by
  cases task with
  | chain statements =>
      cases statements with
      | nil => rfl
      | link name statement next =>
          rw [Task.gist, Chain.gist, perform, perform]
          split
          · rfl
          · exact execute_gist ⟨.chain next :: machine.tasks, machine.store, machine.dice,
              machine.executed + 1⟩ scene statement
  | yield => rfl
  | rest milliseconds =>
      rw [Task.gist, perform, perform]
      split <;> rfl
  | times left body =>
      cases left with
      | zero => rfl
      | succ left =>
          rw [Task.gist, perform, perform]
          split
          · rfl
          · rw [map_push]
            rfl
  | forever body =>
      rw [Task.gist, perform, perform]
      split
      · rfl
      · rw [map_push]
        rfl
  | whileHolds condition body =>
      rw [Task.gist, perform, perform, evaluate_of_gist, evaluate_mapTasks]
      obtain ⟨value, after⟩ := machine.evaluate condition
      split
      · rfl
      · dsimp only [Prod.map_apply, id]
        split
        · rw [map_push]
          rfl
        · rfl
  | animation shown =>
      rw [Task.gist, perform, perform]
      split
      · rfl
      · rw [map_push]
        dsimp only
        split <;> rfl

/-- A machine and one of the same gist take the same steps. -/
theorem step_gist :
    (machine.mapTasks Task.gist).step scene =
      (machine.step scene).map (Prod.map id (mapTasks Task.gist)) := by
  obtain ⟨tasks, store, dice, executed⟩ := machine
  cases tasks with
  | nil => rfl
  | cons task rest => exact congrArg some (perform_gist ⟨rest, store, dice, executed⟩ scene task)

/-- What two machines have to do has the same gist, and all else of them is equal. -/
def SameGist (first second : Machine) : Prop :=
  first.mapTasks Task.gist = second.mapTasks Task.gist

private theorem lockstep_gist : Lockstep SameGist where
  refl _ := rfl
  executed {first second} same := by
    have counts : (first.mapTasks Task.gist).executed = (second.mapTasks Task.gist).executed :=
      congrArg Machine.executed same
    exact counts
  ends {first second scene} same ended := by
    have steps := first.step_gist scene
    rw [same, second.step_gist scene, ended] at steps
    exact Option.map_eq_none_iff.mp steps
  goesOn {first second next scene request} same stepped := by
    have steps := first.step_gist scene
    rw [same, second.step_gist scene, stepped] at steps
    obtain ⟨⟨asked, other⟩, found, equal⟩ := Option.map_eq_some_iff.mp steps
    obtain ⟨rfl, gists⟩ := Prod.mk.inj equal
    exact ⟨other, found, gists.symm⟩

end Machine

/-- Programs whose actions have the same gist start machines that cannot be told apart. -/
theorem Act.alike_run {first second : Program}
    (same : first.actions.gist = second.actions.gist) :
    Act.Alike Machine.SameGist (.run first) (.run second) := by
  apply Act.Alike.run
  intro dice
  have tasks : [Task.chain first.actions].map Task.gist =
      [Task.chain second.actions].map Task.gist := congrArg ([Task.chain ·]) same
  rw [Machine.SameGist, Machine.mapTasks, Machine.mapTasks, Machine.start, Machine.start, tasks]

theorem Program.BuiltAs.gist {program saved : Program} {after : Workspace}
    (built : program.BuiltAs after saved) (faithful : program.actions.Faithful) :
    saved.actions.gist = program.actions.gist := by
  obtain ⟨head, actions, shown⟩ := built.shown
  have same := after.source.saveChain_cut_of_shown program.actions shown built.enough
  rw [← actions] at same
  rw [← saved.actions.gist_stripIds, same, Chain.gist_stripIds,
    program.actions.gist_of_faithful faithful]

/-- Whoever runs what an editor saves of a program that it took without trouble, and that it holds
as it is, sees what the program itself does, whatever else happens to the preview. -/
theorem Program.run_saved {program : Program} {ids root created : Nat} {after : Workspace}
    (loaded : program.load sink ⟨#[], ids⟩ = (.ok (root, ⟨created, 0, 0⟩), after))
    (faithful : program.actions.Faithful) :
    ∃ saved, after.save = .program saved ∧
      ∀ (settings : PreviewSettings) (pins : PinBank) (before later : List Act),
        ((Preview.start settings pins).follow (before ++ .run program :: later)).Indistinct
          ((Preview.start settings pins).follow (before ++ .run saved :: later)) := by
  obtain ⟨placed, distinct⟩ := Program.placed_of_load loaded
  obtain ⟨built, saved, loads, builtAs⟩ := Program.exists_builtAs placed distinct ids
  have same : built = after := by
    rw [loaded] at loads
    exact (Prod.mk.inj loads).2.symm
  rw [same] at builtAs
  refine ⟨saved, builtAs.save, ?_⟩
  intro settings pins before later
  have unchanged (acts : List Act) :
      List.Forall₂ (Act.Alike Machine.SameGist) acts acts :=
    List.forall₂_same.mpr fun act _ => .same act
  have acts := List.rel_append (unchanged before)
    (List.Forall₂.cons (Act.alike_run (builtAs.gist faithful).symm) (unchanged later))
  have start := Preview.Alike.refl Machine.lockstep_gist (.start settings pins)
  exact (start.follow Machine.lockstep_gist acts).indistinct

/-- A program with blocks for literals, an absent time, and what a run passes over. -/
def humming : Program where
  id := some "root"
  actions :=
    .link none (.setVariable "n" (.block (some "two") (.number 2))) <|
    .link (some "loop") (.repeatLoop (.block none (.getVariable "n")) <|
      .link none (.setColor (.block none (.colorValue "RANDOM"))) <|
      .link none (.wait .empty) .nil) <|
    .link none (.gpioTrigger 200 .rising (.link none (.repeatLoop .empty .nil) .nil)) .nil
  next := .nil

theorem run_saved_humming :
    (humming.load sink .empty).1 = .ok (0, ⟨10, 0, 0⟩) ∧ humming.actions.Faithful ∧
      ∃ saved, (humming.load sink .empty).2.save = .program saved ∧
        ∀ (settings : PreviewSettings) (pins : PinBank) (before later : List Act),
          ((Preview.start settings pins).follow (before ++ .run humming :: later)).Indistinct
            ((Preview.start settings pins).follow (before ++ .run saved :: later)) := by
  have report : (humming.load sink ⟨#[], 0⟩).1 = .ok (0, ⟨10, 0, 0⟩) := by decide +kernel
  have faithful : humming.actions.Faithful := by
    simp [humming, Chain.Faithful, Statement.Faithful]
  have loaded : humming.load sink ⟨#[], 0⟩ =
      (.ok (0, ⟨10, 0, 0⟩), (humming.load sink ⟨#[], 0⟩).2) := by
    rw [← report]
  exact ⟨report, faithful, Program.run_saved loaded faithful⟩

/-- An editor takes the program without trouble, but what it saves makes other calls. -/
def Program.Altered (program : Program) (settings : PreviewSettings) (pins : PinBank)
    (later : List Act) : Prop :=
  ∃ created saved,
    (program.load sink .empty).1 = .ok (0, ⟨created, 0, 0⟩) ∧
      (program.load sink .empty).2.save = .program saved ∧
      ((Preview.start settings pins).follow (.run program :: later)).calls ≠
        ((Preview.start settings pins).follow (.run saved :: later)).calls

/-- A loop without a number of rounds, a pin that does not exist, set or looked at, and an animation
that plays for longer than a field can say. -/
theorem altered_unfaithful :
    (Program.ofActions (.link none (.repeatLoop .empty
      (.link none (.displayImage "once") .nil)) .nil)).Altered default .low [.finish 0] ∧
    (Program.ofActions (.link none (.gpio 41 .high) .nil)).Altered default .low [.finish 0] ∧
    (Program.ofActions (.link none (.gpioBranch 41 .high
      (.link none (.displayImage "high") .nil) .nil) .nil)).Altered default
        (PinBank.low.set 40 true) [.finish 0] ∧
    (Program.ofActions (.link none (.playAnimation "ages" 18446744073709551615) .nil)).Altered
      { (default : PreviewSettings) with frames := fun _ => 4294967295 } .low
        [.sleep 3000000000] := by
  refine ⟨⟨3, _, ?_, rfl, ?_⟩, ⟨2, _, ?_, rfl, ?_⟩, ⟨3, _, ?_, rfl, ?_⟩, ⟨2, _, ?_, rfl, ?_⟩⟩ <;>
    decide

end Marquee
