import Marquee.Proofs.Run.Frames

/-!
# What takes time

A machine asks for time when it executes a wait and when it shows an animation. Each statement that
it begins has a duration of its own, and a step that comes when it is due keeps a schedule of them.
-/

namespace Marquee

/-- A statement that is begun, with what can be seen and the machine at that moment. -/
structure Execution where
  scene : Scene
  machine : Machine
  statement : Statement

namespace Execution

/-- How long the statement takes by itself, in milliseconds. -/
def duration (execution : Execution) : Nat :=
  match execution.statement with
  | .wait time => (execution.machine.evaluate time).1.toNumber.toInt.toNat
  | .playAnimation folder playFor =>
    let frames := execution.scene.frames folder
    if frames = 0 then 0
    else Animation.span ⟨folder, frames, playFor.toNat, execution.scene.now, 0⟩
  | _ => 0

/-- The statement comes to an end: if it shows an animation for some time, it rests in between. -/
def Ends (execution : Execution) : Prop :=
  match execution.statement with
  | .playAnimation folder playFor =>
    let frames := execution.scene.frames folder
    0 < frames → 0 < playFor.toNat →
      0 < Animation.frameMillis ⟨folder, frames, playFor.toNat, execution.scene.now, 0⟩
  | _ => True

theorem Ends.isLeast_duration {execution : Execution} (ends : execution.Ends) {folder : String}
    {playFor : UInt64} (plays : execution.statement = .playAnimation folder playFor)
    (someFrames : 0 < execution.scene.frames folder) (some : 0 < playFor.toNat) :
    let rest := Animation.frameMillis
      ⟨folder, execution.scene.frames folder, playFor.toNat, execution.scene.now, 0⟩
    0 < rest ∧ IsLeast {time | rest ∣ time ∧ playFor.toNat ≤ time} execution.duration := by
  intro rest
  rw [Ends, plays] at ends
  have paced : 0 < rest := ends someFrames some
  refine ⟨paced, ?_⟩
  rw [duration, plays]
  dsimp only
  rw [if_neg (Nat.ne_of_gt someFrames)]
  exact Animation.isLeast_span paced

/-- What is still to be done does not matter. -/
theorem duration_of_values {scene : Scene} {first second : Machine}
    (store : first.store = second.store) (dice : first.dice = second.dice)
    (statement : Statement) :
    duration ⟨scene, first, statement⟩ = duration ⟨scene, second, statement⟩ := by
  cases statement with
  | wait time =>
      dsimp only [duration, Machine.evaluate]
      rw [store, dice]
  | _ => rfl

end Execution

/-- The statement that the machine begins with its next step, if it begins one. -/
def Machine.begins? (scene : Scene) (machine : Machine) : Option Execution :=
  match machine.tasks with
  | .chain (.link _ statement _) :: _ =>
    if scene.stopped then none else some ⟨scene, machine, statement⟩
  | _ => none

/-- For how long a request holds up the run. -/
def Request.pause : Request → Nat
  | .rest milliseconds => milliseconds
  | _ => 0

namespace Request

@[simp] theorem pause_nothing : pause .nothing = 0 := rfl

@[simp] theorem pause_call (call : PanelCall) : pause (.call call) = 0 := rfl

@[simp] theorem pause_rest (milliseconds : Nat) : pause (.rest milliseconds) = milliseconds := rfl

end Request

/-- The task takes no time by itself. -/
def Task.IsTimeless : Task → Prop
  | .rest _ => False
  | .animation _ => False
  | _ => True

def Timeless (tasks : List Task) : Prop :=
  ∀ task ∈ tasks, task.IsTimeless

/-- The next step is due at the first instant, and what takes time by itself among the tasks, which
is on top of them if it is there, is over at the second one. -/
inductive Scheduled : List Task → Nat → Nat → Prop where
  | idle {tasks : List Task} {due : Nat} (timeless : Timeless tasks) : Scheduled tasks due due
  | waiting {below : List Task} {due : Nat} (timeless : Timeless below) (milliseconds : Nat) :
      Scheduled (.rest milliseconds :: below) due (due + milliseconds)
  | playing {animation : Animation} {tasks below : List Task} {due shown : Nat}
      (timeless : Timeless below) (paced : 0 < animation.frameMillis)
      (bound : shown ≤ animation.count) (playing : animation.Playing below tasks due shown) :
      Scheduled tasks due (animation.startedAt + animation.span)
  | done {animation : Animation} {below : List Task} {due : Nat} (timeless : Timeless below)
      (none : animation.playFor = 0) : Scheduled (.animation animation :: below) due due

/-- The machine shows an animation that never rests. As time does not move on, it never ends. -/
inductive Hangs (now : Nat) : List Task → Prop where
  | showing {animation : Animation} {below : List Task} (unpaced : animation.frameMillis = 0)
      (some : 0 < animation.playFor) (begun : animation.startedAt = now) :
      Hangs now (.animation animation :: below)
  | givingWay {animation : Animation} {below : List Task} (unpaced : animation.frameMillis = 0)
      (some : 0 < animation.playFor) (begun : animation.startedAt = now) :
      Hangs now (.yield :: .animation animation :: below)

theorem Timeless.cons {task : Task} {tasks : List Task} (timeless : Timeless tasks)
    (quick : task.IsTimeless) : Timeless (task :: tasks) :=
  List.forall_mem_cons.mpr ⟨quick, timeless⟩

namespace Machine

/-- Setting a color takes no time, and leaves the tasks as they are. -/
theorem setColor_keeps (scene : Scene) (machine : Machine) (input : Input) :
    (machine.setColor scene input).1.pause = 0 ∧
      (machine.setColor scene input).2.tasks = machine.tasks ∧
        (machine.setColor scene input).2.executed = machine.executed := by
  have text : (machine.colorText input).2.tasks = machine.tasks ∧
      (machine.colorText input).2.executed = machine.executed := by
    cases input with
    | block name expression => cases expression <;> exact ⟨rfl, rfl⟩
    | _ => exact ⟨rfl, rfl⟩
  obtain ⟨tasks, executed⟩ := text
  rw [setColor]
  split
  · next after found =>
      rw [found] at tasks executed
      exact ⟨rfl, tasks, executed⟩
  · next shown after found =>
      rw [found] at tasks executed
      split
      · split <;> exact ⟨rfl, tasks, executed⟩
      · exact ⟨rfl, tasks, executed⟩

private theorem executed_execute (scene : Scene) (machine : Machine) (statement : Statement) :
    (machine.execute scene statement).2.executed = machine.executed := by
  cases statement with
  | playAnimation folder playFor =>
      rw [execute]
      split <;> rfl
  | gpio pin level =>
      rw [execute]
      split <;> rfl
  | setColor color => exact (machine.setColor_keeps scene color).2.2
  | _ => rfl

/-- What a statement takes of time is all on the schedule once it is begun, unless it never ends. -/
theorem scheduled_execute (scene : Scene) {machine : Machine} (timeless : Timeless machine.tasks)
    (statement : Statement) :
    (machine.execute scene statement).1.pause = 0 ∧
      (Hangs scene.now (machine.execute scene statement).2.tasks ∨
        Execution.Ends ⟨scene, machine, statement⟩ ∧
          Scheduled (machine.execute scene statement).2.tasks scene.now
            (scene.now + Execution.duration ⟨scene, machine, statement⟩)) := by
  have quick {next : Machine} (tasks : Timeless next.tasks) :
      Hangs scene.now next.tasks ∨ True ∧ Scheduled next.tasks scene.now (scene.now + 0) :=
    .inr ⟨trivial, .idle tasks⟩
  cases statement with
  | wait time => exact ⟨rfl, .inr ⟨trivial, .waiting timeless _⟩⟩
  | playAnimation folder playFor =>
      rw [execute, Execution.duration, Execution.Ends]
      dsimp only
      by_cases noFrames : scene.frames folder = 0
      · rw [if_pos noFrames, if_pos noFrames]
        refine ⟨rfl, .inr ⟨fun some => absurd noFrames (Nat.ne_of_gt some), .idle timeless⟩⟩
      · rw [if_neg noFrames, if_neg noFrames]
        refine ⟨rfl, ?_⟩
        rcases Nat.eq_zero_or_pos playFor.toNat with none | some
        · right
          rw [Animation.span_eq_zero none]
          exact ⟨fun _ some => absurd none (Nat.ne_of_gt some), .done timeless none⟩
        · rcases Nat.eq_zero_or_pos
            (Animation.frameMillis ⟨folder, scene.frames folder, playFor.toNat, scene.now, 0⟩) with
            unpaced | paced
          · exact .inl (.showing unpaced some rfl)
          · right
            refine ⟨fun _ _ => paced, ?_⟩
            exact .playing timeless paced (Nat.zero_le _) (Animation.playing_begun rfl)
  | gpio pin level =>
      rw [execute]
      split <;> exact ⟨rfl, quick timeless⟩
  | setColor color =>
      obtain ⟨pause, tasks, _⟩ := machine.setColor_keeps scene color
      refine ⟨pause, ?_⟩
      rw [execute, tasks]
      exact quick timeless
  | branch condition whenTrue whenFalse => exact ⟨rfl, quick (timeless.cons trivial)⟩
  | gpioBranch pin level whenTrue whenFalse => exact ⟨rfl, quick (timeless.cons trivial)⟩
  | repeatLoop times body => exact ⟨rfl, quick (timeless.cons trivial)⟩
  | forever body => exact ⟨rfl, quick (timeless.cons trivial)⟩
  | whileLoop condition body => exact ⟨rfl, quick (timeless.cons trivial)⟩
  | displayImage filename => exact ⟨rfl, quick timeless⟩
  | setVariable name value => exact ⟨rfl, quick timeless⟩
  | breakLoop => exact ⟨rfl, quick timeless⟩
  | start actions => exact ⟨rfl, quick timeless⟩
  | gpioTrigger pin trigger actions => exact ⟨rfl, quick timeless⟩
  | value expression => exact ⟨rfl, quick timeless⟩

/-- What a step leaves on the schedule: what takes time of the statement that the step begins, if it
begins one, and what has been there before. Or the machine hangs. -/
def KeepsSchedule (scene : Scene) (machine : Machine) (ends : Nat) (request : Request)
    (next : Machine) : Prop :=
  let begun := (machine.begins? scene).toList
  next.executed = machine.executed + begun.length ∧
    (Hangs scene.now next.tasks ∧ request.pause = 0 ∨
      (∀ execution ∈ begun, execution.Ends) ∧ Scheduled next.tasks (scene.now + request.pause)
        (ends + (begun.map Execution.duration).sum))

private theorem keepsSchedule_of_nothing {scene : Scene} {machine next : Machine} {ends : Nat}
    {request : Request} (nothing : machine.begins? scene = none)
    (executed : next.executed = machine.executed)
    (scheduled : Scheduled next.tasks (scene.now + request.pause) ends) :
    machine.KeepsSchedule scene ends request next := by
  rw [KeepsSchedule, nothing]
  refine ⟨executed, .inr ⟨List.forall_mem_nil _, ?_⟩⟩
  rw [Option.toList_none, List.map_nil, List.sum_nil, Nat.add_zero]
  exact scheduled

private theorem keepsSchedule_of_timeless {scene : Scene} {machine next : Machine}
    {request : Request} (timeless : Timeless machine.tasks) (going : scene.stopped = false)
    (takes : machine.step scene = some (request, next)) :
    machine.KeepsSchedule scene scene.now request next := by
  obtain ⟨tasks, store, dice, executed⟩ := machine
  cases tasks with
  | nil => cases takes
  | cons task below =>
      obtain ⟨quick, others⟩ : task.IsTimeless ∧ Timeless below := List.forall_mem_cons.mp timeless
      have body {chain : Chain} {last : Task} (quick : last.IsTimeless) :
          Timeless (.chain chain :: .yield :: last :: below) :=
        Timeless.cons (Timeless.cons (others.cons quick) trivial) trivial
      rw [step] at takes
      cases task with
      | rest milliseconds => exact quick.elim
      | animation animation => exact quick.elim
      | yield =>
          cases takes
          exact keepsSchedule_of_nothing rfl rfl (.idle others)
      | chain statements =>
          cases statements with
          | nil =>
              cases takes
              exact keepsSchedule_of_nothing rfl rfl (.idle others)
          | link id statement rest =>
              have pushed : Timeless (Machine.mk (.chain rest :: below) store dice
                (executed + 1)).tasks := others.cons trivial
              have first : begins? scene ⟨.chain (.link id statement rest) :: below, store, dice,
                  executed⟩ = some ⟨scene, ⟨.chain (.link id statement rest) :: below, store, dice,
                    executed⟩, statement⟩ := by
                rw [begins?, going]
                rfl
              have same : Execution.duration ⟨scene, ⟨.chain (.link id statement rest) :: below, store,
                  dice, executed⟩, statement⟩ = Execution.duration ⟨scene, ⟨.chain rest :: below,
                    store, dice, executed + 1⟩, statement⟩ :=
                Execution.duration_of_values rfl rfl statement
              obtain ⟨pause, scheduled⟩ := scheduled_execute scene pushed statement
              have count := executed_execute scene
                ⟨.chain rest :: below, store, dice, executed + 1⟩ statement
              simp only [perform, going, Bool.false_eq_true, if_false, push, List.cons_append,
                List.nil_append, Option.some.injEq] at takes
              rw [takes] at pause scheduled count
              rw [KeepsSchedule, first]
              refine ⟨count, ?_⟩
              rw [pause, Option.toList_some, List.map_singleton, List.sum_singleton, same]
              rcases scheduled with hangs | ⟨ends, scheduled⟩
              · exact .inl ⟨hangs, rfl⟩
              · exact .inr ⟨List.forall_mem_singleton.mpr ends, scheduled⟩
      | times left chain =>
          cases left with
          | zero =>
              cases takes
              exact keepsSchedule_of_nothing rfl rfl (.idle others)
          | succ left =>
              simp only [perform, going, Bool.false_eq_true, if_false] at takes
              cases takes
              exact keepsSchedule_of_nothing rfl rfl (.idle (body trivial))
      | forever chain =>
          simp only [perform, going, Bool.false_eq_true, if_false] at takes
          cases takes
          exact keepsSchedule_of_nothing rfl rfl (.idle (body trivial))
      | whileHolds condition chain =>
          simp only [perform, going, Bool.false_eq_true, if_false] at takes
          split at takes
          · cases takes
            exact keepsSchedule_of_nothing rfl rfl (.idle (body trivial))
          · cases takes
            exact keepsSchedule_of_nothing rfl rfl (.idle others)

private theorem begins?_of_playing {animation : Animation} {below : List Task} {due shown : Nat}
    {machine : Machine} (playing : animation.Playing below machine.tasks due shown)
    (scene : Scene) : machine.begins? scene = none := by
  rw [begins?]
  generalize machine.tasks = tasks at playing
  cases playing <;> rfl

/-- A step that comes when it is due keeps to the schedule. -/
theorem keepsSchedule_of_step {scene : Scene} {machine next : Machine} {request : Request}
    {ends : Nat} (scheduled : Scheduled machine.tasks scene.now ends)
    (going : scene.stopped = false) (takes : machine.step scene = some (request, next)) :
    machine.KeepsSchedule scene ends request next := by
  generalize stack : machine.tasks = tasks, instant : scene.now = now at scheduled
  cases scheduled with
  | idle timeless =>
      rw [← stack] at timeless
      rw [← instant]
      exact keepsSchedule_of_timeless timeless going takes
  | waiting timeless milliseconds =>
      have nothing : machine.begins? scene = none := by rw [begins?, stack]
      by_cases none : milliseconds = 0
      · simp only [step, stack, perform, going, none, Bool.false_eq_true, false_or, if_true] at takes
        cases takes
        rw [none, ← instant]
        exact keepsSchedule_of_nothing nothing rfl (.idle timeless)
      · rw [Animation.step_rest stack (Nat.pos_of_ne_zero none) going] at takes
        cases takes
        rw [← instant]
        exact keepsSchedule_of_nothing nothing rfl (.idle timeless)
  | playing timeless paced bound playing =>
      rw [← stack, ← instant] at playing
      obtain ⟨_, _, stepped, steps⟩ := playing.step paced bound going
      rw [stepped] at takes
      cases takes
      refine keepsSchedule_of_nothing (begins?_of_playing playing scene) rfl ?_
      cases steps with
      | done all due =>
          rw [Request.pause_nothing, Nat.add_zero, ← due]
          exact .idle timeless
      | frame more due playing =>
          rw [Request.pause_call, Nat.add_zero]
          exact .playing timeless paced more playing
      | rest playing =>
          rw [Request.pause_rest]
          exact .playing timeless paced bound playing
  | @done animation below _ timeless none =>
      have nothing : machine.begins? scene = Option.none := by rw [begins?, stack]
      rw [Animation.step_over stack (by rw [none]; exact Nat.zero_le _)] at takes
      cases takes
      rw [← instant]
      exact keepsSchedule_of_nothing nothing rfl (.idle timeless)

/-- A machine that hangs goes on without an end. -/
theorem hangs_step {scene : Scene} {machine : Machine} (hangs : Hangs scene.now machine.tasks)
    (going : scene.stopped = false) :
    machine.begins? scene = none ∧ ∃ request next, machine.step scene = some (request, next) ∧
      Hangs scene.now next.tasks ∧ request.pause = 0 ∧ next.executed = machine.executed := by
  obtain ⟨tasks, store, dice, executed⟩ := machine
  dsimp only at hangs
  cases hangs with
  | @showing animation below unpaced some begun =>
      refine ⟨rfl, .call animation.frame,
        ⟨.yield :: .animation animation.advance :: below, store, dice, executed⟩, ?_, ?_, rfl, rfl⟩
      · have share : animation.frameNanos = 0 := by
          have positive := animation.frameMillis_pos_iff
          omega
        have short : ¬ animation.playFor ≤ scene.now - animation.startedAt := by omega
        simp only [step, perform, going, short, share, push, Bool.false_eq_true, or_self, if_false,
          if_true, List.cons_append, List.nil_append]
      · rw [← Animation.frameMillis_advance] at unpaced
        exact .givingWay unpaced some begun
  | givingWay unpaced some begun =>
      exact ⟨rfl, .yield, _, rfl, .showing unpaced some begun, rfl, rfl⟩

/-- When nothing is left to be done, nothing is left that takes time. -/
theorem due_of_done {due ends : Nat} (scheduled : Scheduled [] due ends) : due = ends := by
  cases scheduled with
  | idle => rfl
  | playing _ _ _ playing => cases playing

end Machine

end Marquee
