import Mathlib.Data.Nat.Init
import Marquee.Proofs.Run.Agenda
import Marquee.Proofs.Run.Twins
import Marquee.Proofs.Run.Undisturbed

/-!
# Loops and what they come to

A loop does what its body does, written out as often as it is executed: a repeat as often as its
number says when it is entered, a while as long as its condition holds, and a forever without end.
Left to itself, a run cannot be told from one that has the body written out.
-/

namespace Marquee

namespace Machine

theorem Agrees.trans {first second third : Machine} (agrees : first.Agrees second)
    (onward : second.Agrees third) : first.Agrees third :=
  ⟨onward.agenda.trans agrees.agenda, onward.store.trans agrees.store,
    onward.dice.trans agrees.dice⟩

/-- Machines with the same variables that have made the same draws. -/
def SameStore (first second : Machine) : Prop :=
  first.store = second.store ∧ first.dice = second.dice

theorem SameStore.symm {first second : Machine} (same : first.SameStore second) :
    second.SameStore first :=
  ⟨same.1.symm, same.2.symm⟩

/-- The machine has nothing left to do, or does something with its next step. -/
def IsDue (machine : Machine) : Prop :=
  machine.tasks = [] ∨ ∃ task rest item later, machine.tasks = task :: rest ∧
    Task.Leads task item later

private theorem agenda_of_tasks {machine : Machine} {task : Task} {rest : List Task}
    (tasks : machine.tasks = task :: rest) :
    machine.agenda = task.agenda ++ rest.flatMap Task.agenda := by
  rw [agenda, tasks, List.flatMap_cons]

private theorem agenda_of_done {machine : Machine} (done : machine.tasks = []) :
    machine.agenda = [] := by
  rw [agenda, done, List.flatMap_nil]

/-- Machines that agree and are both due ask for the same, and agree after it. -/
theorem Agrees.step {first second : Machine} (agrees : first.Agrees second) (due : first.IsDue)
    (otherDue : second.IsDue) {scene : Scene} (unstopped : scene.stopped = false) :
    first.step scene = none ∧ second.step scene = none ∨
      ∃ request next other, first.step scene = some (request, next) ∧
        second.step scene = some (request, other) ∧ next.Agrees other := by
  have same := agrees.agenda
  rcases due with done | ⟨task, rest, item, later, tasks, leads⟩
  · rcases otherDue with
      otherDone | ⟨other, otherRest, otherItem, otherLater, otherTasks, otherLeads⟩
    · left
      rw [Machine.step, Machine.step, done, otherDone]
      exact ⟨rfl, rfl⟩
    · rw [agenda_of_tasks otherTasks, otherLeads.agenda, agenda_of_done done] at same
      cases same
  · rcases otherDue with
      otherDone | ⟨other, otherRest, otherItem, otherLater, otherTasks, otherLeads⟩
    · rw [agenda_of_tasks tasks, leads.agenda, agenda_of_done otherDone] at same
      cases same
    · right
      rw [agenda_of_tasks tasks, leads.agenda, agenda_of_tasks otherTasks, otherLeads.agenda,
        List.cons_append, List.cons_append, List.cons_eq_cons] at same
      obtain ⟨rfl, below⟩ := same
      have bare : second.bare = first.bare := by
        rw [Machine.bare, Machine.bare, agrees.store, agrees.dice]
      obtain ⟨next, stepped, nextAgenda, nextStore, nextDice⟩ :=
        step_of_leads unstopped tasks leads
      obtain ⟨twin, twinStepped, twinAgenda, twinStore, twinDice⟩ :=
        step_of_leads unstopped otherTasks otherLeads
      rw [bare] at twinStepped twinAgenda twinStore twinDice
      refine ⟨_, next, twin, stepped, twinStepped, ?_, ?_, ?_⟩
      · rw [nextAgenda, twinAgenda, below]
      · rw [nextStore, twinStore]
      · rw [nextDice, twinDice]

end Machine

namespace Preview

variable {first second : Preview} {number : Nat}

/-- A run whose machine cuts its tasks goes on until something is done. -/
theorem Twins.exists_due (twins : first.Twins Machine.Agrees number second) {run : Run}
    (found : first.runs[number]? = some run) (ready : run.isReady first.now) (live : run.isLive) :
    ∃ more twin, (second.course number more).runs[number]? = some twin ∧ twin.machine.IsDue ∧
      first.Twins Machine.Agrees number (second.course number more) := by
  obtain ⟨_, twin, ownFound, twinFound, likes⟩ := twins.own
  generalize measure : twin.machine.weight = left
  induction left using Nat.strong_induction_on generalizing second twin with
  | _ left inductionHypothesis =>
      cases found.symm.trans ownFound
      cases tasks : twin.machine.tasks with
      | nil => exact ⟨0, twin, twinFound, .inl tasks, twins⟩
      | cons task rest =>
          rcases task.cuts_or_leads with cuts | ⟨item, later, leads⟩
          · have twinReady := (twins.ready_iff likes).mp ready
            have unstopped : (second.scene twin).stopped = false := by
              simp [Preview.scene, ← likes.isLive, live]
            obtain ⟨request, machine, takes, quiet, agrees, less⟩ :=
              Machine.step_of_cuts unstopped tasks cuts
            have onward : flip Machine.Agrees machine run.machine := likes.machine.trans agrees
            have ahead := (twins.symm.step_ahead twinFound found twinReady takes quiet onward).symm
            have moved : (second.step number).1.runs[number]? =
                some { twin with machine, wakesAt := none } := by
              rw [step_of_quiet twinFound twinReady takes quiet, runs_modifyRun, if_pos rfl,
                twinFound]
              rfl
            obtain ⟨_, _, ownFound', moved', likes'⟩ := ahead.own
            cases found.symm.trans ownFound'
            cases moved.symm.trans moved'
            obtain ⟨more, due, dueFound, isDue, twinsDue⟩ :=
              inductionHypothesis machine.weight (measure ▸ less) ahead _ moved likes' rfl
            refine ⟨more + 1, due, ?_, isDue, ?_⟩
            · rw [course, proceed_of_ready twinFound twinReady]
              exact dueFound
            · rw [course, proceed_of_ready twinFound twinReady]
              exact twinsDue
          · exact ⟨0, twin, twinFound, .inr ⟨task, rest, item, later, tasks, leads⟩, twins⟩

/-- While neither run is ready, time moves on to the same instant. -/
theorem Twins.proceed_unready {alike : Machine → Machine → Prop}
    (twins : first.Twins alike number second) {run : Run} (found : first.runs[number]? = some run)
    (unready : ¬ run.isReady first.now) :
    (first.proceed number).Twins alike number (second.proceed number) := by
  obtain ⟨_, twin, ownFound, twinFound, likes⟩ := twins.own
  cases found.symm.trans ownFound
  have twinUnready := mt (twins.ready_iff likes).mpr unready
  by_cases going : run.report = none
  · obtain ⟨wakesAt, wakes, wake⟩ := Run.exists_wake going unready
    have twinGoing := likes.report_eq_none_iff.mp going
    have twinWakes : twin.wakesAt = some wakesAt := by
      rcases likes.wakes going with same | ⟨ready, _⟩
      · exact same.symm.trans wakes
      · exact absurd ready unready
    have twinWake : twin.wake? = some wakesAt := by
      rw [Run.wake?, twinGoing, twinWakes]
      rfl
    rw [proceed_of_wake found unready wake, proceed_of_wake twinFound twinUnready twinWake]
    exact twins.moveTo wakesAt
  · have ended := Option.isSome_iff_ne_none.mpr going
    have twinEnded := Option.isSome_iff_ne_none.mpr (mt likes.report_eq_none_iff.mpr going)
    rw [proceed_of_ended found ended, proceed_of_ended twinFound twinEnded]
    exact twins

/-- What a run does next, its twin does too, after it has cut its tasks. -/
theorem Twins.proceed_agrees (twins : first.Twins Machine.Agrees number second)
    (undisturbed : first.Undisturbed number) :
    ∃ more, (first.proceed number).Twins Machine.Agrees number (second.course number more) := by
  obtain ⟨run, twin, found, twinFound, likes⟩ := twins.own
  by_cases ready : run.isReady first.now
  · have live := undisturbed.live run found (Run.going_of_isReady ready)
    have unstopped : (first.scene run).stopped = false := by
      simp [Preview.scene, live]
    rw [proceed_of_ready found ready]
    have together (due : run.machine.IsDue) :
        ∃ more, (first.step number).1.Twins Machine.Agrees number (second.course number more) := by
      obtain ⟨more, other, otherFound, otherDue, twinsDue⟩ := twins.exists_due found ready live
      obtain ⟨_, _, ownFound, ownOtherFound, same⟩ := twinsDue.own
      cases found.symm.trans ownFound
      cases otherFound.symm.trans ownOtherFound
      have otherReady := (twinsDue.ready_iff same).mp ready
      refine ⟨more + 1, ?_⟩
      rw [course_succ, proceed_of_ready otherFound otherReady]
      rcases same.machine.step due otherDue unstopped with
        ⟨ends, otherEnds⟩ | ⟨request, next, otherNext, takes, otherTakes, agrees⟩
      · exact twinsDue.step_end found otherFound ready ends otherEnds
      · exact twinsDue.step found otherFound ready takes otherTakes agrees
    cases tasks : run.machine.tasks with
    | nil => exact together (.inl tasks)
    | cons task rest =>
        rcases task.cuts_or_leads with cuts | ⟨item, later, leads⟩
        · obtain ⟨request, machine, takes, quiet, agrees, _⟩ :=
            Machine.step_of_cuts unstopped tasks cuts
          exact ⟨0, twins.step_ahead found twinFound ready takes quiet
            (agrees.symm.trans likes.machine)⟩
        · exact together (.inr ⟨task, rest, item, later, tasks, leads⟩)
  · exact ⟨1, twins.proceed_unready found ready⟩

theorem Twins.course_agrees (twins : first.Twins Machine.Agrees number second)
    (undisturbed : first.Undisturbed number) (steps : Nat) :
    ∃ more, (first.course number steps).Twins Machine.Agrees number
      (second.course number more) := by
  induction steps generalizing first second with
  | zero => exact ⟨0, twins⟩
  | succ steps inductionHypothesis =>
      obtain ⟨more, onward⟩ := twins.proceed_agrees undisturbed
      obtain ⟨rest, done⟩ := inductionHypothesis onward undisturbed.proceed
      refine ⟨more + rest, ?_⟩
      rw [course, course_add more rest]
      exact done

/-! ## Runs that do the same -/

/-- Left to themselves, the runs do the same: whatever the one has come to, the other comes to as
well, with the same calls at the same times, the same pins and the same variables. If one of them
has ended, so has the other. -/
def SameCourse (number : Nat) (first second : Preview) : Prop :=
  (∀ steps, ∃ others, (first.course number steps).Twins Machine.SameStore number
    (second.course number others)) ∧
  ∀ others, ∃ steps, (first.course number steps).Twins Machine.SameStore number
    (second.course number others)

namespace SameCourse

theorem symm (same : SameCourse number first second) : SameCourse number second first := by
  obtain ⟨there, back⟩ := same
  refine ⟨fun steps => ?_, fun others => ?_⟩
  · obtain ⟨others, twins⟩ := back steps
    exact ⟨others, twins.symm.mono fun _ _ => .symm⟩
  · obtain ⟨steps, twins⟩ := there others
    exact ⟨steps, twins.symm.mono fun _ _ => .symm⟩

theorem of_agrees (twins : first.Twins Machine.Agrees number second)
    (undisturbed : first.Undisturbed number) (otherUndisturbed : second.Undisturbed number) :
    SameCourse number first second := by
  have sameStore (machine other : Machine) (agrees : machine.Agrees other) :
      machine.SameStore other := ⟨agrees.store.symm, agrees.dice.symm⟩
  refine ⟨fun steps => ?_, fun others => ?_⟩
  · obtain ⟨others, reached⟩ := twins.course_agrees undisturbed steps
    exact ⟨others, reached.mono sameStore⟩
  · have back : second.Twins Machine.Agrees number first := twins.symm.mono fun _ _ => .symm
    obtain ⟨steps, reached⟩ := back.course_agrees otherUndisturbed others
    exact ⟨steps, reached.symm.mono fun _ _ agrees => sameStore _ _ agrees.symm⟩

/-- The first run takes a step while the second one waits. -/
theorem of_ahead (twins : first.Twins Machine.SameStore number second)
    (onward : SameCourse number (first.proceed number) second) :
    SameCourse number first second := by
  obtain ⟨there, back⟩ := onward
  refine ⟨fun steps => ?_, fun others => ?_⟩
  · cases steps with
    | zero => exact ⟨0, twins⟩
    | succ steps => exact there steps
  · obtain ⟨steps, reached⟩ := back others
    exact ⟨steps + 1, reached⟩

/-- Both runs go on. -/
theorem of_proceed (twins : first.Twins Machine.SameStore number second)
    (onward : SameCourse number (first.proceed number) (second.proceed number)) :
    SameCourse number first second := by
  obtain ⟨there, back⟩ := onward
  refine ⟨fun steps => ?_, fun others => ?_⟩
  · cases steps with
    | zero => exact ⟨0, twins⟩
    | succ steps =>
        obtain ⟨others, reached⟩ := there steps
        exact ⟨others + 1, reached⟩
  · cases others with
    | zero => exact ⟨0, twins⟩
    | succ others =>
        obtain ⟨steps, reached⟩ := back others
        exact ⟨steps + 1, reached⟩

/-- If the runs go on alike until they get to a point from which they do the same, they do the same
from the beginning. -/
theorem of_reached {alike arrived : Machine → Machine → Prop}
    (store : ∀ machine other, alike machine other → machine.SameStore other)
    (proceeds : ∀ {first second : Preview}, first.Undisturbed number →
      first.Twins alike number second → ¬ first.Twins arrived number second →
        (first.proceed number).Twins alike number (second.proceed number))
    (twins : first.Twins alike number second) (undisturbed : first.Undisturbed number)
    (reached : ∀ steps,
      (∀ fewer < steps,
        (first.course number fewer).Twins alike number (second.course number fewer) ∧
          ¬ (first.course number fewer).Twins arrived number (second.course number fewer)) →
      (first.course number steps).Twins arrived number (second.course number steps) →
        SameCourse number (first.course number steps) (second.course number steps)) :
    SameCourse number first second := by
  have both (count : Nat) :
      (∃ others, (first.course number count).Twins Machine.SameStore number
        (second.course number others)) ∧
      ∃ steps, (first.course number steps).Twins Machine.SameStore number
        (second.course number count) := by
    induction count generalizing first second with
    | zero => exact ⟨⟨0, twins.mono store⟩, 0, twins.mono store⟩
    | succ count inductionHypothesis =>
        by_cases there : first.Twins arrived number second
        · have same := reached 0 nofun there
          exact ⟨same.1 _, same.2 _⟩
        · have onward := inductionHypothesis (proceeds undisturbed twins there) undisturbed.proceed
          obtain ⟨⟨others, reachedOthers⟩, steps, reachedSteps⟩ := onward fun steps earlier => by
            refine reached (steps + 1) fun fewer less => ?_
            cases fewer with
            | zero => exact ⟨twins, there⟩
            | succ fewer => exact earlier fewer (Nat.lt_of_succ_lt_succ less)
          exact ⟨⟨others + 1, reachedOthers⟩, steps + 1, reachedSteps⟩
  exact ⟨fun steps => (both steps).1, fun others => (both others).2⟩

end SameCourse

end Preview

/-! ## Loops that are entered -/

namespace Machine

/-- The machines are these two. -/
def Are (machine other first second : Machine) : Prop :=
  first = machine ∧ second = other

private theorem sameStore_of_are {machine other : Machine} (store : machine.SameStore other)
    (first second : Machine) (are : Are machine other first second) : first.SameStore second := by
  obtain ⟨rfl, rfl⟩ := are
  exact store

/-- With its next step the machine asks for nothing and becomes another one, whatever it sees. -/
def Quietly (machine next : Machine) : Prop :=
  ∀ scene : Scene, scene.stopped = false → machine.step scene = some (.nothing, next)

/-- The machines agree after some steps that ask for nothing. -/
inductive Unrolls : Machine → Machine → Prop where
  | agrees {first second : Machine} (agrees : first.Agrees second) : Unrolls first second
  | ahead {first next second : Machine} (store : first.SameStore second)
      (takes : first.Quietly next) (onward : Unrolls next second) : Unrolls first second
  | both {first next second other : Machine} (store : first.SameStore second)
      (takes : first.Quietly next) (otherTakes : second.Quietly other)
      (onward : Unrolls next other) : Unrolls first second

variable (id : Option String) (body after : Chain) (rest : List Task) (store : Variables)
  (dice : Dice) (executed : Nat)

private theorem unrolls_forever :
    Unrolls ⟨.chain (.link id (.forever body) after) :: rest, store, dice, executed⟩
      ⟨.chain (body ++ .link id (.forever body) after) :: rest, store, dice, executed⟩ := by
  have enters : Quietly ⟨.chain (.link id (.forever body) after) :: rest, store, dice, executed⟩
      ⟨.forever body :: .chain after :: rest, store, dice, executed + 1⟩ := by
    intro scene unstopped
    simp [step, perform, execute, push, unstopped]
  have begins : Quietly ⟨.forever body :: .chain after :: rest, store, dice, executed + 1⟩
      ⟨.chain body :: .yield :: .forever body :: .chain after :: rest, store, dice,
        executed + 1⟩ := by
    intro scene unstopped
    simp [step, perform, push, unstopped]
  refine .ahead ⟨rfl, rfl⟩ enters (.ahead ⟨rfl, rfl⟩ begins (.agrees ⟨?_, rfl, rfl⟩))
  simp [agenda, Task.agenda, Chain.agenda_append, Chain.agenda, Statement.task]

private theorem unrolls_while (condition : Input) :
    Unrolls ⟨.chain (.link id (.whileLoop condition body) after) :: rest, store, dice, executed⟩
      ⟨.chain (.link none
        (.branch condition (body ++ .link id (.whileLoop condition body) .nil) .nil) after) :: rest,
          store, dice, executed⟩ := by
  generalize evaluated : condition.evaluate store dice = outcome
  obtain ⟨value, thrown⟩ := outcome
  have enters : Quietly
      ⟨.chain (.link id (.whileLoop condition body) after) :: rest, store, dice, executed⟩
      ⟨.whileHolds condition body :: .chain after :: rest, store, dice, executed + 1⟩ := by
    intro scene unstopped
    simp [step, perform, execute, push, unstopped]
  have decides : Quietly ⟨.whileHolds condition body :: .chain after :: rest, store, dice,
      executed + 1⟩ ⟨(if value.isTruthy then [.chain body, .yield, .whileHolds condition body]
        else []) ++ .chain after :: rest, store, thrown, executed + 1⟩ := by
    intro scene unstopped
    cases truth : value.isTruthy <;>
      simp [step, perform, push, unstopped, evaluate, evaluated, truth]
  have branches : Quietly ⟨.chain (.link none (.branch condition
      (body ++ .link id (.whileLoop condition body) .nil) .nil) after) :: rest, store, dice, executed⟩
      ⟨.chain
          (if value.isTruthy then body ++ .link id (.whileLoop condition body) .nil else .nil) ::
        .chain after :: rest, store, thrown, executed + 1⟩ := by
    intro scene unstopped
    simp [step, perform, execute, push, unstopped, evaluate, evaluated]
  refine .ahead ⟨rfl, rfl⟩ enters (.both ⟨rfl, rfl⟩ decides branches (.agrees ⟨?_, rfl, rfl⟩))
  cases value.isTruthy <;>
    simp [agenda, Task.agenda, Chain.agenda_append, Chain.agenda, Statement.task]

private theorem unrolls_repeat (times : Input) {rounds : Nat}
    (evaluates : (times.evaluate store dice).1.toNumber.toInt.toNat = rounds) :
    Unrolls ⟨.chain (.link id (.repeatLoop times body) after) :: rest, store, dice, executed⟩
      ⟨.chain (.link none (.branch times .nil .nil) (body.copies rounds ++ after)) :: rest,
          store, dice, executed⟩ := by
  generalize evaluated : times.evaluate store dice = outcome at evaluates
  obtain ⟨value, thrown⟩ := outcome
  have enters : Quietly
      ⟨.chain (.link id (.repeatLoop times body) after) :: rest, store, dice, executed⟩
      ⟨.times rounds body :: .chain after :: rest, store, thrown, executed + 1⟩ := by
    intro scene unstopped
    simp [step, perform, execute, push, unstopped, evaluate, evaluated, evaluates]
  have evaluatesOnly : Quietly ⟨.chain (.link none (.branch times .nil .nil)
      (body.copies rounds ++ after)) :: rest, store, dice, executed⟩
      ⟨.chain .nil :: .chain (body.copies rounds ++ after) :: rest, store, thrown,
        executed + 1⟩ := by
    intro scene unstopped
    simp [step, perform, execute, push, unstopped, evaluate, evaluated]
  refine .both ⟨rfl, rfl⟩ enters evaluatesOnly (.agrees ⟨?_, rfl, rfl⟩)
  simp [agenda, Task.agenda, Chain.agenda_append, Chain.agenda]

end Machine

namespace Preview

variable {first second : Preview} {number : Nat}

/-- The first machine takes a step that asks for nothing. -/
theorem Twins.proceed_ahead {alike next : Machine → Machine → Prop}
    (twins : first.Twins alike number second) {run twin : Run}
    (found : first.runs[number]? = some run) (twinFound : second.runs[number]? = some twin)
    (ready : run.isReady first.now) (live : run.isLive) {machine : Machine}
    (takes : run.machine.Quietly machine) (likes : next machine twin.machine) :
    (first.proceed number).Twins next number second := by
  have unstopped : (first.scene run).stopped = false := by
    simp [Preview.scene, live]
  rw [proceed_of_ready found ready]
  exact twins.step_ahead found twinFound ready (takes _ unstopped) (.inl rfl) likes

/-- Both machines take steps that ask for nothing. -/
theorem Twins.proceed_both {alike next : Machine → Machine → Prop}
    (twins : first.Twins alike number second) {run twin : Run}
    (found : first.runs[number]? = some run) (twinFound : second.runs[number]? = some twin)
    (likesNow : run.Twin alike first.now twin) (ready : run.isReady first.now) (live : run.isLive)
    {machine other : Machine} (takes : run.machine.Quietly machine)
    (otherTakes : twin.machine.Quietly other) (likes : next machine other) :
    (first.proceed number).Twins next number (second.proceed number) := by
  have unstopped : (first.scene run).stopped = false := by
    simp [Preview.scene, live]
  have twinReady := (twins.ready_iff likesNow).mp ready
  rw [proceed_of_ready found ready, proceed_of_ready twinFound twinReady]
  exact twins.step found twinFound ready (takes _ unstopped) (otherTakes _ unstopped) likes

namespace SameCourse

/-- If nothing is ready, time moves on until both runs are. -/
theorem of_ready {alike : Machine → Machine → Prop}
    (store : ∀ machine other, alike machine other → machine.SameStore other)
    (onward : ∀ {first second : Preview} {run twin : Run}, first.Undisturbed number →
      second.Undisturbed number → first.Twins alike number second →
        first.runs[number]? = some run → second.runs[number]? = some twin →
          run.Twin alike first.now twin → run.isReady first.now →
            SameCourse number first second)
    (twins : first.Twins alike number second) (undisturbed : first.Undisturbed number)
    (otherUndisturbed : second.Undisturbed number) : SameCourse number first second := by
  obtain ⟨run, twin, found, twinFound, likes⟩ := twins.own
  by_cases ready : run.isReady first.now
  · exact onward undisturbed otherUndisturbed twins found twinFound likes ready
  · have moved := twins.proceed_unready found ready
    by_cases going : run.report = none
    · obtain ⟨wakesAt, wakes, wake⟩ := Run.exists_wake going ready
      have twinWakes : (first.proceed number).runs[number]? = some run := by
        rw [proceed_of_wake found ready wake]
        exact found
      have awake : run.isReady (first.proceed number).now := by
        rw [proceed_of_wake found ready wake]
        exact Run.isReady_of_wake going wakes (Nat.le_max_right _ _)
      obtain ⟨_, twinThen, ownFound, twinThenFound, likesThen⟩ := moved.own
      cases twinWakes.symm.trans ownFound
      exact of_proceed (twins.mono store) (onward undisturbed.proceed otherUndisturbed.proceed moved
        ownFound twinThenFound likesThen awake)
    · have still := course_of_ended found (Option.isSome_iff_ne_none.mpr going)
      have twinStill := course_of_ended twinFound
        (Option.isSome_iff_ne_none.mpr (mt likes.report_eq_none_iff.mpr going))
      refine ⟨fun steps => ⟨0, ?_⟩, fun others => ⟨0, ?_⟩⟩
      · rw [still steps]
        exact twins.mono store
      · rw [twinStill others]
        exact twins.mono store

/-- Runs whose machines agree after some steps that ask for nothing do the same. -/
theorem of_unrolls {machine other : Machine} (unrolls : machine.Unrolls other)
    (twins : first.Twins (Machine.Are machine other) number second)
    (undisturbed : first.Undisturbed number) (otherUndisturbed : second.Undisturbed number) :
    SameCourse number first second := by
  induction unrolls generalizing first second with
  | agrees agrees =>
      refine of_agrees (twins.mono ?_) undisturbed otherUndisturbed
      rintro _ _ ⟨rfl, rfl⟩
      exact agrees
  | ahead store takes onward inductionHypothesis =>
      have sameStore := Machine.sameStore_of_are store
      refine of_ready sameStore ?_ twins undisturbed otherUndisturbed
      intro first second run twin undisturbed otherUndisturbed twins found twinFound likes ready
      obtain ⟨rfl, rfl⟩ := likes.machine
      have live := undisturbed.live run found (Run.going_of_isReady ready)
      refine of_ahead (twins.mono sameStore) (inductionHypothesis ?_ undisturbed.proceed
        otherUndisturbed)
      exact twins.proceed_ahead found twinFound ready live takes ⟨rfl, rfl⟩
  | both store takes otherTakes onward inductionHypothesis =>
      have sameStore := Machine.sameStore_of_are store
      refine of_ready sameStore ?_ twins undisturbed otherUndisturbed
      intro first second run twin undisturbed otherUndisturbed twins found twinFound likes ready
      obtain ⟨rfl, rfl⟩ := likes.machine
      have live := undisturbed.live run found (Run.going_of_isReady ready)
      refine of_proceed (twins.mono sameStore) (inductionHypothesis ?_ undisturbed.proceed
        otherUndisturbed.proceed)
      exact twins.proceed_both found twinFound likes ready live takes otherTakes ⟨rfl, rfl⟩

end SameCourse

end Preview

namespace Machine

/-- Two machines execute the same statements, after which one of them goes on with other ones. -/
inductive Ahead (first second : Chain) (rest : List Task) : Machine → Machine → Prop where
  | mk (above : List Task) (before : Chain) (store : Variables) (dice : Dice) (executed : Nat) :
      Ahead first second rest
        ⟨above ++ .chain (before ++ first) :: rest, store, dice, executed⟩
        ⟨above ++ .chain (before ++ second) :: rest, store, dice, executed⟩

/-- What is executed next is no longer the same. -/
inductive Arrived (first second : Chain) (rest : List Task) : Machine → Machine → Prop where
  | mk (store : Variables) (dice : Dice) (executed : Nat) :
      Arrived first second rest ⟨.chain first :: rest, store, dice, executed⟩
        ⟨.chain second :: rest, store, dice, executed⟩

variable {first second : Chain} {rest : List Task} {machine other : Machine}

theorem Ahead.sameStore (ahead : Ahead first second rest machine other) :
    machine.SameStore other := by
  cases ahead
  exact ⟨rfl, rfl⟩

/-- Machines that go on alike have arrived as soon as one of them has. -/
theorem Ahead.arrived (ahead : Ahead first second rest machine other)
    (tasks : machine.tasks = .chain first :: rest) : Arrived first second rest machine other := by
  obtain ⟨above, before, store, dice, executed⟩ := ahead
  have none : above = [] := by
    have lengths := congrArg List.length tasks
    simp only [List.length_append, List.length_cons] at lengths
    exact List.eq_nil_of_length_eq_zero (by omega)
  subst none
  have chains : before ++ first = first := by
    simpa using tasks
  rw [Chain.eq_nil_of_append_eq chains]
  exact .mk store dice executed

theorem Ahead.step (ahead : Ahead first second rest machine other) {scene : Scene}
    (unstopped : scene.stopped = false) :
    Arrived first second rest machine other ∨ ∃ request next twin,
      machine.step scene = some (request, next) ∧ other.step scene = some (request, twin) ∧
        Ahead first second rest next twin := by
  obtain ⟨above, before, store, dice, executed⟩ := ahead
  cases above with
  | cons task above =>
      right
      have stepped (last : Chain) : (Machine.mk (task :: above ++ .chain (before ++ last) :: rest) store
          dice executed).step scene = some (((Machine.mk above store dice executed).perform scene
            task).map id (onto (.chain (before ++ last) :: rest) 0)) := by
        rw [← perform_onto]
        rfl
      rw [stepped, stepped]
      obtain ⟨request, tasks, storeThen, diceThen, count⟩ :=
        (Machine.mk above store dice executed).perform scene task
      exact ⟨request, _, _, rfl, rfl, .mk tasks before storeThen diceThen count⟩
  | nil =>
      cases before with
      | nil => exact .inl (.mk store dice executed)
      | link name statement before =>
          right
          have running : ¬ scene.stopped := ne_true_of_eq_false unstopped
          have stepped (last : Chain) : (Machine.mk ([] ++ .chain (.link name statement before ++ last)
              :: rest) store dice executed).step scene = some (((Machine.mk [] store dice
                (executed + 1)).execute scene statement).map id
                  (onto (.chain (before ++ last) :: rest) 0)) := by
            rw [← execute_onto, List.nil_append, Chain.link_append, step_cons, perform,
              if_neg running]
            rfl
          rw [stepped, stepped]
          obtain ⟨request, tasks, storeThen, diceThen, count⟩ :=
            (Machine.mk [] store dice (executed + 1)).execute scene statement
          exact ⟨request, _, _, rfl, rfl, .mk tasks before storeThen diceThen count⟩

end Machine

namespace Preview

variable {first second preview : Preview} {number : Nat} {one two : Chain} {rest : List Task}

/-- The preview with other tasks left for a run. -/
def doing (preview : Preview) (number : Nat) (tasks : List Task) : Preview :=
  preview.modifyRun number fun run => { run with machine := { run.machine with tasks } }

/-- Left to itself, the run gets to the tasks of this machine for the first time after so many
steps, and is then this machine. -/
structure Reaches (preview : Preview) (number : Nat) (machine : Machine) (steps : Nat) : Prop where
  found : (preview.course number steps).runs[number]?.map Run.machine = some machine
  first : ∀ fewer < steps, ∀ earlier,
    (preview.course number fewer).runs[number]?.map Run.machine = some earlier →
      earlier.tasks ≠ machine.tasks

theorem Undisturbed.doing (undisturbed : preview.Undisturbed number) (tasks : List Task) :
    (preview.doing number tasks).Undisturbed number := by
  refine ⟨undisturbed.reactions, ?_⟩
  intro run found going
  rw [Preview.doing, runs_modifyRun, if_pos rfl] at found
  obtain ⟨old, oldFound, rfl⟩ := Option.map_eq_some_iff.mp found
  exact undisturbed.live old oldFound going

/-- Previews in which a run has different tasks left. -/
theorem twins_doing {alike : Machine → Machine → Prop} {run : Run}
    (found : preview.runs[number]? = some run) (going : run.report = none)
    {tasks others : List Task}
    (likes : alike { run.machine with tasks := tasks } { run.machine with tasks := others }) :
    (preview.doing number tasks).Twins alike number (preview.doing number others) where
  settings := rfl
  now := rfl
  pins := rfl
  calls := rfl
  current := rfl
  size := by rw [doing, doing, modifyRun, modifyRun, Array.size_modify, Array.size_modify]
  others := by
    intro other different
    rw [doing, doing, runs_modifyRun, runs_modifyRun, if_neg different.symm, if_neg different.symm]
  own := by
    refine ⟨{ run with machine := { run.machine with tasks := tasks } },
      { run with machine := { run.machine with tasks := others } }, ?_, ?_,
      likes, rfl, rfl, fun _ => .inl rfl, .inl ⟨going, going⟩⟩
    · rw [doing, runs_modifyRun, if_pos rfl, found]
      rfl
    · rw [doing, runs_modifyRun, if_pos rfl, found]
      rfl

/-- Runs that execute the same statements go on alike until they get to where they differ. -/
theorem Twins.proceed_alike (undisturbed : first.Undisturbed number)
    (twins : first.Twins (Machine.Ahead one two rest) number second)
    (underway : ¬ first.Twins (Machine.Arrived one two rest) number second) :
    (first.proceed number).Twins (Machine.Ahead one two rest) number (second.proceed number) := by
  obtain ⟨run, twin, found, twinFound, likes⟩ := twins.own
  by_cases ready : run.isReady first.now
  · have live := undisturbed.live run found (Run.going_of_isReady ready)
    have unstopped : (first.scene run).stopped = false := by
      simp [Preview.scene, live]
    rw [proceed_of_ready found ready, proceed_of_ready twinFound ((twins.ready_iff likes).mp ready)]
    rcases likes.machine.step unstopped with
      arrived | ⟨request, next, other, takes, otherTakes, onward⟩
    · exact absurd { twins with own := ⟨run, twin, found, twinFound, likes.mono fun _ => arrived⟩ }
        underway
    · exact twins.step found twinFound ready takes otherTakes onward
  · exact twins.proceed_unready found ready

/-- Chains that begin with the same statements do the same if what comes after these does. -/
theorem SameCourse.of_entered (before : Chain) {run : Run}
    (found : preview.runs[number]? = some run) (going : run.report = none)
    (undisturbed : preview.Undisturbed number)
    (unrolls : ∀ steps store dice executed,
      (preview.doing number (.chain (before ++ one) :: rest)).Reaches number
          ⟨.chain one :: rest, store, dice, executed⟩ steps →
        Machine.Unrolls ⟨.chain one :: rest, store, dice, executed⟩
          ⟨.chain two :: rest, store, dice, executed⟩) :
    SameCourse number (preview.doing number (.chain (before ++ one) :: rest))
      (preview.doing number (.chain (before ++ two) :: rest)) := by
  refine of_reached (fun _ _ => Machine.Ahead.sameStore)
    Twins.proceed_alike (twins_doing found going (.mk [] before _ _ _)) (undisturbed.doing _) ?_
  intro steps earlier twins
  obtain ⟨entered, twin, enteredFound, twinFound, likes⟩ := twins.own
  have arrived := likes.machine
  generalize machineIs : entered.machine = machine, otherIs : twin.machine = other at arrived
  obtain ⟨store, dice, executed⟩ := arrived
  have reaches : (preview.doing number (.chain (before ++ one) :: rest)).Reaches number
      ⟨.chain one :: rest, store, dice, executed⟩ steps := by
    refine ⟨?_, ?_⟩
    · rw [enteredFound, Option.map_some, machineIs]
    · intro fewer less old oldIs tasks
      obtain ⟨alike, underway⟩ := earlier fewer less
      obtain ⟨own, _, ownFound, otherFound, same⟩ := alike.own
      rw [ownFound, Option.map_some, Option.some.injEq] at oldIs
      rw [← oldIs] at tasks
      exact underway { alike with
        own := ⟨_, _, ownFound, otherFound, same.mono fun ahead => ahead.arrived tasks⟩ }
  refine of_unrolls (unrolls steps store dice executed reaches) ?_
    ((undisturbed.doing _).course steps) ((undisturbed.doing _).course steps)
  exact { twins with
    own := ⟨entered, twin, enteredFound, twinFound, likes.mono fun _ => ⟨machineIs, otherIs⟩⟩ }

/-- A loop does what its body does, written out. A repeat evaluates how often that is once, when the
run gets to it; a while evaluates its condition before each time. -/
theorem sameCourse_unrolled {run : Run} (found : preview.runs[number]? = some run)
    (going : run.report = none) (undisturbed : preview.Undisturbed number)
    (before body after : Chain) (id : Option String) (rest : List Task) :
    (∀ times rounds,
      (∀ steps store dice executed,
        (preview.doing number
            (.chain (before ++ .link id (.repeatLoop times body) after) :: rest)).Reaches number
            ⟨.chain (.link id (.repeatLoop times body) after) :: rest, store, dice, executed⟩ steps →
          (times.evaluate store dice).1.toNumber.toInt.toNat = rounds) →
      SameCourse number
        (preview.doing number (.chain (before ++ .link id (.repeatLoop times body) after) :: rest))
        (preview.doing number (.chain (before ++
          .link none (.branch times .nil .nil) (body.copies rounds ++ after)) :: rest))) ∧
    (∀ condition, SameCourse number
      (preview.doing number (.chain (before ++ .link id (.whileLoop condition body) after) :: rest))
      (preview.doing number (.chain (before ++ .link none (.branch condition
        (body ++ .link id (.whileLoop condition body) .nil) .nil) after) :: rest))) ∧
    SameCourse number
      (preview.doing number (.chain (before ++ .link id (.forever body) after) :: rest))
      (preview.doing number
        (.chain (before ++ (body ++ .link id (.forever body) after)) :: rest)) := by
  refine ⟨fun times rounds evaluates => ?_, fun condition => ?_, ?_⟩
  · apply SameCourse.of_entered before found going undisturbed
    intro steps store dice executed reaches
    apply Machine.unrolls_repeat
    exact evaluates steps store dice executed reaches
  · apply SameCourse.of_entered before found going undisturbed
    intro steps store dice executed _
    exact Machine.unrolls_while id body after rest store dice executed condition
  · apply SameCourse.of_entered before found going undisturbed
    intro steps store dice executed _
    exact Machine.unrolls_forever id body after rest store dice executed

/-- Grows the variable that says how often. -/
def growing : Chain :=
  .link none (.setVariable "n" (.number 5)) .nil

/-- The loop is entered when the variable is 2, and goes around twice even though it is 5 then. -/
theorem sameCourse_unrolled_growing :
    let before : Chain := .link none (.setVariable "n" (.number 2)) .nil
    let times : Input := .block "get_variable" (.getVariable "n")
    let origin := (start default .low).run (.ofActions .nil)
    SameCourse 0 (origin.doing 0 [.chain (before ++ .link none (.repeatLoop times growing) .nil)])
      (origin.doing 0 [.chain (before ++
        .link none (.branch times .nil .nil) (growing.copies 2 ++ .nil))]) := by
  intro before times origin
  have found : origin.runs[0]? =
      some ⟨.start .nil (origin.settings.dice 0), 0, none, none, none⟩ := rfl
  have undisturbed : origin.Undisturbed 0 := by
    refine ⟨fun _ => List.not_mem_nil, ?_⟩
    intro run other _
    cases found.symm.trans other
    rfl
  refine (sameCourse_unrolled found rfl undisturbed before growing .nil none []).1 times 2 ?_
  intro steps store dice executed reaches
  match steps with
  | 0 =>
      have tasks := congrArg (Option.map Machine.tasks) reaches.found
      cases tasks
  | 1 =>
      have stores : some (Variables.empty.set "n" (.number 2)) = some store :=
        congrArg (Option.map Machine.store) reaches.found
      cases stores
      change ((Variables.empty.set "n" (.number 2)).get "n").toNumber.toInt.toNat = 2
      decide +kernel
  | steps + 2 =>
      have entered : (((origin.doing 0 [.chain (before ++ .link none (.repeatLoop times growing)
          .nil)]).course 0 1).runs[0]?.map Run.machine).map Machine.tasks =
            some [.chain (.link none (.repeatLoop times growing) .nil)] := rfl
      obtain ⟨machine, machineIs, tasks⟩ := Option.map_eq_some_iff.mp entered
      exact absurd tasks (reaches.first 1 (by omega) machine machineIs)

end Preview

end Marquee
