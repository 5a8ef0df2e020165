import Marquee.Proofs.Run.Live
import Marquee.Proofs.Run.Tasks

/-!
# The same run at another time

Nothing that a run does depends on the instant at which it starts: the same machine, with the same
start of its animations relative to the time, takes the same steps. A run that is shifted in time is
ready at the shifted instants, wakes then, and ends with the same report.
-/

namespace Marquee

/-- The animation as it is when all has begun later. -/
def Animation.shift (since : Nat) (animation : Animation) : Animation :=
  { animation with startedAt := since + animation.startedAt }

/-- The task as it is when all has begun later. -/
def Task.shift (since : Nat) : Task → Task
  | .animation shown => .animation (shown.shift since)
  | task => task

/-- What can be seen at a later time. -/
def Scene.shift (since : Nat) (scene : Scene) : Scene :=
  { scene with now := since + scene.now }

namespace Machine

/-- The machine as it is when all has begun later. -/
def shift (since : Nat) : Machine → Machine :=
  mapTasks (Task.shift since)

variable (since : Nat) (scene : Scene) (machine : Machine)

private theorem execute_shift (statement : Statement) :
    (machine.shift since).execute (scene.shift since) statement =
      (machine.execute scene statement).map id (shift since) := by
  rw [shift]
  cases statement with
  | playAnimation folder playFor =>
      have frames : (scene.shift since).frames folder = scene.frames folder := rfl
      rw [execute, execute, frames]
      split
      · rfl
      · rw [map_push]
        rfl
  | wait time =>
      rw [execute, execute, map_push]
      rfl
  | branch condition whenTrue whenFalse =>
      rw [execute, execute, map_push]
      rfl
  | forever body =>
      rw [execute, execute, map_push]
      rfl
  | repeatLoop times body =>
      rw [execute, execute, map_push]
      rfl
  | whileLoop condition body =>
      rw [execute, execute, map_push]
      rfl
  | gpio pin level =>
      rw [execute, execute]
      split <;> rfl
  | gpioBranch pin level whenTrue whenFalse =>
      rw [execute, execute, map_push]
      rfl
  | setColor color => exact machine.setColor_mapTasks (Task.shift since) scene color
  | displayImage filename => rfl
  | setVariable name value => rfl
  | breakLoop => rfl
  | start actions => rfl
  | gpioTrigger pin trigger actions => rfl
  | value expression => rfl

private theorem perform_shift (task : Task) :
    (machine.shift since).perform (scene.shift since) (task.shift since) =
      (machine.perform scene task).map id (shift since) := by
  have stopped : (scene.shift since).stopped = scene.stopped := rfl
  rw [shift]
  cases task with
  | chain statements =>
      cases statements with
      | nil => rfl
      | link name statement next =>
          dsimp only [Task.shift]
          rw [perform, perform, stopped]
          split
          · rfl
          · exact execute_shift since scene ⟨.chain next :: machine.tasks, machine.store,
              machine.dice, machine.executed + 1⟩ statement
  | yield => rfl
  | rest milliseconds =>
      dsimp only [Task.shift]
      rw [perform, perform, stopped]
      split <;> rfl
  | times left body =>
      cases left with
      | zero => rfl
      | succ left =>
          dsimp only [Task.shift]
          rw [perform, perform, stopped]
          split
          · rfl
          · rw [map_push]
            rfl
  | forever body =>
      dsimp only [Task.shift]
      rw [perform, perform, stopped]
      split
      · rfl
      · rw [map_push]
        rfl
  | whileHolds condition body =>
      dsimp only [Task.shift]
      rw [perform, perform, stopped, evaluate_mapTasks]
      obtain ⟨value, after⟩ := machine.evaluate condition
      split
      · rfl
      · dsimp only [Prod.map_apply, id]
        split
        · rw [map_push]
          rfl
        · rfl
  | animation shown =>
      have played : (scene.shift since).now - (shown.shift since).startedAt =
          scene.now - shown.startedAt := Nat.add_sub_add_left since scene.now shown.startedAt
      have playFor : (shown.shift since).playFor = shown.playFor := rfl
      have nanos : (shown.shift since).frameNanos = shown.frameNanos := rfl
      rw [Task.shift, perform, perform, stopped, played, playFor, nanos]
      split
      · rfl
      · rw [map_push]
        dsimp only
        split <;> rfl

/-- At a later time a machine takes the same steps. -/
theorem step_shift :
    (machine.shift since).step (scene.shift since) =
      (machine.step scene).map (Prod.map id (shift since)) := by
  obtain ⟨tasks, store, dice, executed⟩ := machine
  cases tasks with
  | nil => rfl
  | cons task rest =>
      exact congrArg some (perform_shift since scene ⟨rest, store, dice, executed⟩ task)

end Machine

namespace Run

/-- The run as it is when all has begun later. -/
def shift (since : Nat) (run : Run) : Run where
  machine := run.machine.shift since
  startedAt := since + run.startedAt
  stoppedAt := run.stoppedAt.map (since + ·)
  wakesAt := run.wakesAt.map (since + ·)
  report := run.report

variable (since now : Nat) (run : Run)

theorem isLive_shift : (run.shift since).isLive = run.isLive :=
  Option.isNone_map

theorem isReady_shift : (run.shift since).isReady (since + now) = run.isReady now := by
  rw [isReady, isReady, isLive_shift, shift]
  dsimp only
  cases run.wakesAt with
  | none => rfl
  | some wakesAt =>
      dsimp only [Option.map_some]
      rw [decide_eq_decide.mpr (Nat.add_le_add_iff_left (n := since))]

theorem wake?_shift : (run.shift since).wake? = run.wake?.map (since + ·) := by
  rw [wake?, wake?, shift]
  dsimp only
  split <;> rfl

private theorem elapsed_shift : (run.shift since).elapsed (since + now) = run.elapsed now := by
  rw [elapsed, elapsed, shift]
  dsimp only
  cases run.stoppedAt <;> exact Nat.add_sub_add_left since _ _

theorem stop_shift : (run.shift since).stop (since + now) = (run.stop now).shift since := by
  rw [stop, stop, shift, shift]
  dsimp only
  cases run.stoppedAt <;> rfl

theorem finish_shift : (run.shift since).finish (since + now) = (run.finish now).shift since := by
  rw [finish, elapsed_shift, isLive_shift, stop_shift]
  rfl

end Run

end Marquee
