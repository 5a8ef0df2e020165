import Mathlib.Data.List.Forall2
import Marquee.Proofs.Run.Foresight

/-!
# Machines in lockstep

Two machines go in lockstep if each step of the one asks for the same as the step of the other, and
they go in lockstep again after it. Nobody outside can tell them apart: a preview that runs the one
makes the same calls at the same times, and leaves the same pins and the same reports, as a preview
that runs the other.
-/

namespace Marquee

/-- Machines that are alike have begun equally many statements, and go on alike. -/
structure Machine.Lockstep (alike : Machine → Machine → Prop) : Prop where
  refl : ∀ machine, alike machine machine
  executed : ∀ {first second : Machine}, alike first second → first.executed = second.executed
  ends : ∀ {first second : Machine} {scene : Scene}, alike first second →
    first.step scene = none → second.step scene = none
  goesOn : ∀ {first second next : Machine} {scene : Scene} {request : Request},
    alike first second → first.step scene = some (request, next) →
      ∃ other, second.step scene = some (request, other) ∧ alike next other

/-- Runs of machines that are alike. -/
def Run.Alike (alike : Machine → Machine → Prop) (first second : Run) : Prop :=
  ∃ machine, alike first.machine machine ∧ second = { first with machine }

/-- Previews that differ only in machines that are alike. -/
def Preview.Alike (alike : Machine → Machine → Prop) (first second : Preview) : Prop :=
  ∃ runs : Array Run,
    (∀ number : Nat, Option.Rel (Run.Alike alike) first.runs[number]? runs[number]?) ∧
      second = { first with runs }

/-- Acts that are equal, or start programs whose machines are alike. -/
inductive Act.Alike (alike : Machine → Machine → Prop) : Act → Act → Prop where
  | same (act : Act) : Alike alike act act
  | run {first second : Program}
      (machines : ∀ dice, alike (.start first.actions dice) (.start second.actions dice)) :
      Alike alike (.run first) (.run second)

/-- Nobody who watches the panel, the pins, the clock, the status and the runs sees a difference. -/
structure Preview.Indistinct (first second : Preview) : Prop where
  calls : first.calls = second.calls
  pins : first.pins = second.pins
  now : first.now = second.now
  status : first.status = second.status
  isRunLive : ∀ number, first.isRunLive number = second.isRunLive number
  report? : ∀ number, first.report? number = second.report? number

variable {alike : Machine → Machine → Prop}

namespace Run.Alike

variable {first second : Run}

theorem stop (same : Run.Alike alike first second) (now : Nat) :
    Run.Alike alike (first.stop now) (second.stop now) := by
  obtain ⟨machine, likes, rfl⟩ := same
  exact ⟨machine, likes, rfl⟩

theorem finish (lockstep : Machine.Lockstep alike) (same : Run.Alike alike first second)
    (now : Nat) : Run.Alike alike (first.finish now) (second.finish now) := by
  obtain ⟨machine, likes, rfl⟩ := same
  refine ⟨machine, likes, ?_⟩
  rw [Run.finish, Run.finish, lockstep.executed likes]
  rfl

end Run.Alike

namespace Preview.Alike

variable {first second : Preview} {number : Nat}

theorem refl (lockstep : Machine.Lockstep alike) (preview : Preview) :
    Preview.Alike alike preview preview := by
  refine ⟨preview.runs, ?_, rfl⟩
  intro number
  cases preview.runs[number]? with
  | none => exact .none
  | some run => exact .some ⟨run.machine, lockstep.refl run.machine, rfl⟩

theorem run (same : Preview.Alike alike first second) (number : Nat) :
    first.runs[number]? = none ∧ second.runs[number]? = none ∨
      ∃ run twin, first.runs[number]? = some run ∧ second.runs[number]? = some twin ∧
        Run.Alike alike run twin := by
  obtain ⟨runs, paired, rfl⟩ := same
  have pair := paired number
  generalize first.runs[number]? = run, runs[number]? = twin at pair
  cases pair with
  | none => exact Or.inl ⟨rfl, rfl⟩
  | some likes => exact Or.inr ⟨_, _, rfl, rfl, likes⟩

/-- What does not look at machines sees equal runs. -/
theorem map_runs {α : Type} (same : Preview.Alike alike first second) {look : Run → α}
    (blind : ∀ (run : Run) (machine : Machine), look { run with machine } = look run) :
    first.runs.map look = second.runs.map look := by
  apply Array.ext_getElem?
  intro number
  rw [Array.getElem?_map, Array.getElem?_map]
  rcases same.run number with ⟨absent, twinAbsent⟩ | ⟨run, twin, found, twinFound, likes⟩
  · rw [absent, twinAbsent]
  · obtain ⟨machine, _, rfl⟩ := likes
    rw [found, twinFound]
    exact congrArg some (blind run machine).symm

theorem map_run {α : Type} (same : Preview.Alike alike first second) {look : Run → α}
    (blind : ∀ (run : Run) (machine : Machine), look { run with machine } = look run)
    (number : Nat) : first.runs[number]?.map look = second.runs[number]?.map look := by
  rw [← Array.getElem?_map, ← Array.getElem?_map, same.map_runs blind]

theorem size_runs (same : Preview.Alike alike first second) :
    first.runs.size = second.runs.size := by
  have units : first.runs.map (fun _ => ()) = second.runs.map fun _ => () :=
    same.map_runs fun _ _ => rfl
  have sizes := congrArg Array.size units
  rwa [Array.size_map, Array.size_map] at sizes

theorem report? (same : Preview.Alike alike first second) (number : Nat) :
    first.report? number = second.report? number := by
  rcases same.run number with ⟨absent, twinAbsent⟩ | ⟨run, twin, found, twinFound, likes⟩
  · rw [Preview.report?, Preview.report?, absent, twinAbsent]
  · obtain ⟨machine, _, rfl⟩ := likes
    rw [Preview.report?, Preview.report?, found, twinFound]
    rfl

theorem settings (same : Preview.Alike alike first second) :
    first.settings = second.settings := by
  obtain ⟨runs, _, rfl⟩ := same
  rfl

theorem now (same : Preview.Alike alike first second) : first.now = second.now := by
  obtain ⟨runs, _, rfl⟩ := same
  rfl

theorem current (same : Preview.Alike alike first second) : first.current = second.current := by
  obtain ⟨runs, _, rfl⟩ := same
  rfl

theorem status (same : Preview.Alike alike first second) : first.status = second.status := by
  rw [Preview.status, Preview.status, currentRun?, currentRun?, ← same.current, ← same.now]
  cases first.current with
  | none => rfl
  | some number =>
      rw [Option.bind_some, Option.bind_some]
      rcases same.run number with ⟨absent, twinAbsent⟩ | ⟨run, twin, found, twinFound, likes⟩
      · rw [absent, twinAbsent]
      · obtain ⟨machine, _, rfl⟩ := likes
        rw [found, twinFound]
        rfl

theorem indistinct (same : Preview.Alike alike first second) : first.Indistinct second where
  status := same.status
  isRunLive number := congrArg (·.getD false) (same.map_run (fun _ _ => rfl) number)
  report? := same.report?
  now := same.now
  calls := by
    obtain ⟨runs, _, rfl⟩ := same
    rfl
  pins := by
    obtain ⟨runs, _, rfl⟩ := same
    rfl

theorem readyRuns (same : Preview.Alike alike first second) :
    first.readyRuns = second.readyRuns := by
  rw [Preview.readyRuns, Preview.readyRuns, ← same.size_runs, ← same.now]
  apply List.filter_congr
  intro number _
  rcases same.run number with ⟨absent, twinAbsent⟩ | ⟨run, twin, found, twinFound, likes⟩
  · rw [absent, twinAbsent]
  · obtain ⟨machine, _, rfl⟩ := likes
    rw [found, twinFound]
    rfl

theorem nextWake? (same : Preview.Alike alike first second) :
    first.nextWake? = second.nextWake? := by
  have runs : first.runs.map Run.wake? = second.runs.map Run.wake? :=
    same.map_runs fun _ _ => rfl
  have wakes := congrArg Array.toList runs
  rw [Array.toList_map, Array.toList_map] at wakes
  rw [Preview.nextWake?, Preview.nextWake?]
  have through (runs : List Run) : runs.filterMap Run.wake? =
      (runs.map Run.wake?).filterMap id := by
    rw [List.filterMap_map]
    rfl
  rw [through, through, wakes]

theorem modifyRun {change other : Run → Run} (same : Preview.Alike alike first second)
    (number : Nat) (changes : ∀ {run twin : Run}, Run.Alike alike run twin →
      Run.Alike alike (change run) (other twin)) :
    Preview.Alike alike (first.modifyRun number change) (second.modifyRun number other) := by
  obtain ⟨runs, paired, rfl⟩ := same
  refine ⟨runs.modify number other, ?_, rfl⟩
  intro place
  have pair := paired place
  rw [runs_modifyRun, Array.getElem?_modify]
  generalize first.runs[place]? = run, runs[place]? = twin at pair
  split
  · cases pair with
    | none => exact .none
    | some likes => exact .some (changes likes)
  · exact pair

theorem stop (same : Preview.Alike alike first second) :
    Preview.Alike alike first.stop second.stop := by
  rw [Preview.stop, Preview.stop, ← same.current]
  split
  · rw [stopRun, stopRun, ← same.now]
    exact same.modifyRun _ fun likes => likes.stop first.now
  · exact same

theorem setPin (same : Preview.Alike alike first second) (pin : UInt8) (high : Bool) :
    Preview.Alike alike (first.setPin pin high) (second.setPin pin high) := by
  obtain ⟨runs, paired, rfl⟩ := same
  exact ⟨runs, paired, rfl⟩

theorem react (same : Preview.Alike alike first second) (reactions : List Reaction) :
    Preview.Alike alike (reactions.foldl Preview.react first)
      (reactions.foldl Preview.react second) := by
  induction reactions generalizing first second with
  | nil => exact same
  | cons reaction reactions inductionHypothesis =>
      apply inductionHypothesis
      cases reaction with
      | stop => exact same.stop
      | setPin pin high => exact same.setPin pin high

theorem call (same : Preview.Alike alike first second) (panelCall : PanelCall) :
    Preview.Alike alike (first.call panelCall) (second.call panelCall) := by
  have recorded : Preview.Alike alike (first.record panelCall) (second.record panelCall) := by
    obtain ⟨runs, paired, rfl⟩ := same
    exact ⟨runs, paired, rfl⟩
  rw [call_eq, call_eq, ← same.settings, ← same.indistinct.calls]
  exact recorded.react _

theorem grant (same : Preview.Alike alike first second) (number : Nat) (request : Request) :
    Preview.Alike alike (first.grant number request).1 (second.grant number request).1 ∧
      (first.grant number request).2 = (second.grant number request).2 := by
  cases request with
  | nothing => exact ⟨same, rfl⟩
  | call panelCall => exact ⟨same.call panelCall, rfl⟩
  | drive pin high => exact ⟨(same.setPin pin high).call _, rfl⟩
  | rest milliseconds =>
      refine ⟨?_, rfl⟩
      rw [Preview.grant, Preview.grant, ← same.now]
      apply same.modifyRun
      rintro run twin ⟨machine, likes, rfl⟩
      exact ⟨machine, likes, rfl⟩
  | yield => exact ⟨same, rfl⟩

theorem step (lockstep : Machine.Lockstep alike) (same : Preview.Alike alike first second)
    (number : Nat) :
    Preview.Alike alike (first.step number).1 (second.step number).1 ∧
      (first.step number).2 = (second.step number).2 := by
  rcases same.run number with ⟨absent, twinAbsent⟩ | ⟨run, twin, found, twinFound, likes⟩
  · rw [step_of_none absent, step_of_none twinAbsent]
    exact ⟨same, rfl⟩
  · obtain ⟨twinMachine, machines, rfl⟩ := likes
    have scene : second.scene { run with machine := twinMachine } = first.scene run := by
      obtain ⟨runs, _, rfl⟩ := same
      rfl
    by_cases ready : run.isReady first.now
    · have twinReady : Run.isReady { run with machine := twinMachine } second.now :=
        same.now ▸ ready
      cases takes : run.machine.step (first.scene run) with
      | none =>
          have twinTakes := lockstep.ends machines takes
          rw [← scene] at twinTakes
          rw [step_of_end found ready takes, step_of_end twinFound twinReady twinTakes, same.now]
          exact ⟨same.modifyRun number fun likes => likes.finish lockstep second.now, rfl⟩
      | some taken =>
          obtain ⟨request, machine⟩ := taken
          obtain ⟨otherMachine, twinTakes, goOn⟩ := lockstep.goesOn machines takes
          rw [← scene] at twinTakes
          rw [step_of_request found ready takes, step_of_request twinFound twinReady twinTakes]
          apply grant
          apply same.modifyRun
          rintro run twin ⟨_, _, rfl⟩
          exact ⟨otherMachine, goOn, rfl⟩
    · have twinUnready : ¬ Run.isReady { run with machine := twinMachine } second.now :=
        same.now ▸ ready
      rw [step_of_unready found ready, step_of_unready twinFound twinUnready]
      exact ⟨same, rfl⟩

theorem turn (lockstep : Machine.Lockstep alike) (same : Preview.Alike alike first second)
    (number steps : Nat) :
    Preview.Alike alike (Preview.turn number steps first) (Preview.turn number steps second) := by
  induction steps generalizing first second with
  | zero => exact same
  | succ steps inductionHypothesis =>
      obtain ⟨stepped, goesOn⟩ := same.step lockstep number
      rw [turn_succ, turn_succ, ← goesOn]
      split
      · exact inductionHypothesis stepped
      · exact stepped

theorem round (lockstep : Machine.Lockstep alike) (same : Preview.Alike alike first second)
    (steps : Nat) : Preview.Alike alike (first.round steps) (second.round steps) := by
  have turns (numbers : List Nat) {first second : Preview}
      (same : Preview.Alike alike first second) :
      Preview.Alike alike
        (numbers.foldl (fun preview number => preview.turn number steps) first)
        (numbers.foldl (fun preview number => preview.turn number steps) second) := by
    induction numbers generalizing first second with
    | nil => exact same
    | cons number numbers inductionHypothesis =>
        exact inductionHypothesis (same.turn lockstep number steps)
  rw [Preview.round, Preview.round, ← same.readyRuns]
  exact turns first.readyRuns same

theorem moveTo (same : Preview.Alike alike first second) (instant : Nat) :
    Preview.Alike alike (first.moveTo instant) (second.moveTo instant) := by
  obtain ⟨runs, paired, rfl⟩ := same
  exact ⟨runs, paired, rfl⟩

theorem passUntil (lockstep : Machine.Lockstep alike) (same : Preview.Alike alike first second)
    (instant rounds : Nat) :
    Preview.Alike alike (Preview.passUntil instant rounds first)
      (Preview.passUntil instant rounds second) := by
  induction rounds generalizing first second with
  | zero => exact same.moveTo instant
  | succ rounds inductionHypothesis =>
      rw [Preview.passUntil, Preview.passUntil, ← same.readyRuns, ← same.nextWake?]
      split
      · split
        · split
          · exact inductionHypothesis (same.moveTo _)
          · exact same.moveTo instant
        · exact same.moveTo instant
      · exact inductionHypothesis (same.round lockstep patience)

theorem sleep (lockstep : Machine.Lockstep alike) (same : Preview.Alike alike first second)
    (milliseconds : Nat) :
    Preview.Alike alike (first.sleep milliseconds) (second.sleep milliseconds) := by
  rw [Preview.sleep, Preview.sleep, ← same.now]
  split
  · exact same
  · exact same.passUntil lockstep _ patience

theorem passToEnd (lockstep : Machine.Lockstep alike) (same : Preview.Alike alike first second)
    (number rounds : Nat) :
    Preview.Alike alike (Preview.passToEnd number rounds first)
      (Preview.passToEnd number rounds second) := by
  induction rounds generalizing first second with
  | zero => exact same
  | succ rounds inductionHypothesis =>
      rw [Preview.passToEnd, Preview.passToEnd, ← same.report?, ← same.readyRuns,
        ← same.nextWake?]
      split
      · exact same
      · split
        · split
          · exact inductionHypothesis (same.moveTo _)
          · exact same
        · exact inductionHypothesis (same.round lockstep patience)

theorem install (same : Preview.Alike alike first second) {actions others : Chain}
    (machines : ∀ dice, alike (.start actions dice) (.start others dice)) :
    Preview.Alike alike (first.install actions) (second.install others) := by
  have ready := (same.call (.color first.settings.color)).call .clear
  rw [Preview.install, Preview.install, ← same.settings]
  generalize (first.call (.color first.settings.color)).call .clear = reset,
    (second.call (.color first.settings.color)).call .clear = twinReset at ready
  have size := ready.size_runs
  obtain ⟨runs, paired, rfl⟩ := ready
  dsimp only at size ⊢
  refine ⟨runs.push ⟨.start others (reset.settings.dice runs.size), reset.now, none, none, none⟩,
    ?_, ?_⟩
  · intro number
    rw [Array.getElem?_push, Array.getElem?_push, size]
    split
    · exact .some ⟨_, machines _, rfl⟩
    · exact paired number
  · rw [size]

theorem runAct (lockstep : Machine.Lockstep alike) (same : Preview.Alike alike first second)
    {program other : Program}
    (machines : ∀ dice, alike (.start program.actions dice) (.start other.actions dice)) :
    Preview.Alike alike (first.run program) (second.run other) := by
  rw [Preview.run, Preview.run, isRunning, isRunning, ← same.status, ← same.settings]
  split
  · exact (same.stop.sleep lockstep _).install machines
  · exact same.install machines

theorem act (lockstep : Machine.Lockstep alike) (same : Preview.Alike alike first second)
    {act other : Act} (acts : Act.Alike alike act other) :
    Preview.Alike alike (first.act act) (second.act other) := by
  cases acts with
  | run machines => exact same.runAct lockstep machines
  | same =>
      cases act with
      | step number => exact (same.step lockstep number).1
      | moveTo instant => exact same.moveTo instant
      | sleep milliseconds => exact same.sleep lockstep milliseconds
      | finish number => exact same.passToEnd lockstep number patience
      | run program => exact same.runAct lockstep fun dice => lockstep.refl _
      | setPin pin high => exact same.setPin pin high
      | togglePin pin =>
          obtain ⟨runs, paired, rfl⟩ := same
          exact ⟨runs, paired, rfl⟩
      | stop => exact same.stop
      | stopRun number =>
          rw [Preview.act, Preview.act, stopRun, stopRun, ← same.now]
          exact same.modifyRun number fun likes => likes.stop first.now

/-- Whatever happens to previews whose machines go in lockstep, they differ in nothing else. -/
theorem follow (lockstep : Machine.Lockstep alike) (same : Preview.Alike alike first second)
    {acts others : List Act} (alikeActs : List.Forall₂ (Act.Alike alike) acts others) :
    Preview.Alike alike (first.follow acts) (second.follow others) := by
  induction alikeActs generalizing first second with
  | nil => exact same
  | cons head tail inductionHypothesis => exact inductionHypothesis (same.act lockstep head)

end Preview.Alike

end Marquee
