import Marquee.Proofs.Run.Live

/-!
# What a stopped run still does

A machine whose run is stopped only drops its tasks. So the run begins no statement, calls nothing
and sets no pin; it never rests, and after as many steps as it has tasks it ends.
-/

namespace Marquee

theorem Machine.perform_stopped {scene : Scene} (stopped : scene.stopped) (machine : Machine)
    (task : Task) :
    ∃ request, machine.perform scene task = (request, machine) ∧
      (request = .nothing ∨ request = .yield) := by
  cases task with
  | chain statements =>
      cases statements with
      | nil => exact ⟨_, rfl, Or.inl rfl⟩
      | link id statement next => exact ⟨_, if_pos stopped, Or.inl rfl⟩
  | yield => exact ⟨_, rfl, Or.inr rfl⟩
  | rest milliseconds => exact ⟨_, if_pos (Or.inl stopped), Or.inl rfl⟩
  | times left body =>
      cases left with
      | zero => exact ⟨_, rfl, Or.inl rfl⟩
      | succ left => exact ⟨_, if_pos stopped, Or.inl rfl⟩
  | forever body => exact ⟨_, if_pos stopped, Or.inl rfl⟩
  | whileHolds condition body => exact ⟨_, if_pos stopped, Or.inl rfl⟩
  | animation animation => exact ⟨_, if_pos (Or.inl stopped), Or.inl rfl⟩

/-- What a step makes of a stopped run: it ends, or has one task less. -/
def Run.unwind (now : Nat) (run : Run) : Run :=
  match run.machine.tasks with
  | [] => run.finish now
  | _ :: rest => { run with machine := { run.machine with tasks := rest }, wakesAt := none }

namespace Preview

theorem isReady_of_stopped {run : Run} {now : Nat} (stopped : run.isLive = false)
    (going : run.report = none) : run.isReady now := by
  rw [Run.isReady, going, stopped]
  cases run.wakesAt <;> simp

private theorem modifyRun_congr {preview : Preview} {number : Nat} {run : Run}
    {first second : Run → Run}
    (found : preview.runs[number]? = some run) (same : first run = second run) :
    preview.modifyRun number first = preview.modifyRun number second := by
  have runs : preview.runs.modify number first = preview.runs.modify number second := by
    apply Array.ext_getElem?
    intro other
    rw [Array.getElem?_modify, Array.getElem?_modify]
    split
    · next equal =>
        rw [← equal, found, Option.map_some, Option.map_some, same]
    · rfl
  rw [modifyRun, modifyRun, runs]

/-- A stopped run that has ended stays as it is, and one that has not only unwinds. -/
theorem step_stopped {preview : Preview} {number : Nat} {run : Run}
    (found : preview.runs[number]? = some run) (stopped : run.isLive = false) :
    (preview.step number).1 =
      if run.report.isSome then preview else preview.modifyRun number (Run.unwind preview.now) := by
  rw [step, found]
  dsimp only
  cases going : run.report with
  | some report =>
      have unready : ¬ run.isReady preview.now := by
        simp [Run.isReady, going]
      rw [if_neg unready]
      rfl
  | none =>
      rw [if_pos (isReady_of_stopped stopped going)]
      have stoppedScene : (preview.scene run).stopped := by
        simp [scene, stopped]
      cases tasks : run.machine.tasks with
      | nil =>
          rw [Machine.step, tasks]
          apply modifyRun_congr found
          rw [Run.unwind, tasks]
      | cons task rest =>
          obtain ⟨request, performed, quiet⟩ :=
            Machine.perform_stopped stoppedScene { run.machine with tasks := rest } task
          rw [Machine.step, tasks]
          dsimp only
          rw [performed]
          rcases quiet with rfl | rfl
          · apply modifyRun_congr found
            rw [Run.unwind, tasks]
          · apply modifyRun_congr found
            rw [Run.unwind, tasks]

end Preview

/-- What is left of a run that was stopped at an instant: it is as it was but for its tasks, of
which there are fewer than this many, or it has ended as a cancelled one. -/
structure Run.Ending (origin : Run) (instant left : Nat) (run : Run) : Prop where
  startedAt : run.startedAt = origin.startedAt
  stoppedAt : run.stoppedAt = some instant
  executed : run.machine.executed = origin.machine.executed
  report : run.report = none ∧ run.machine.tasks.length < left ∨
    run.report = some ⟨origin.machine.executed, instant - origin.startedAt, true⟩

namespace Run.Ending

variable {origin run : Run} {instant left : Nat}

theorem not_isLive (ending : Ending origin instant left run) : run.isLive = false := by
  rw [isLive, ending.stoppedAt]
  rfl

theorem stop (ending : Ending origin instant left run) (now : Nat) :
    Ending origin instant left (run.stop now) := by
  have same : run.stop now = run := by
    rw [Run.stop, ending.stoppedAt, Option.getD_some, ← ending.stoppedAt]
  rw [same]
  exact ending

theorem finish (ending : Ending origin instant left run) (now : Nat) (less : Nat) :
    Ending origin instant less (run.finish now) := by
  have same : (run.finish now).report =
      some ⟨origin.machine.executed, instant - origin.startedAt, true⟩ := by
    rw [Run.finish, ending.not_isLive, ending.executed, elapsed, ending.stoppedAt,
      ending.startedAt]
    rfl
  exact ⟨ending.startedAt, (ending.stop now).stoppedAt, ending.executed, Or.inr same⟩

theorem unwind (ending : Ending origin instant (left + 1) run) (now : Nat)
    (going : run.report.isSome = false) : Ending origin instant left (run.unwind now) := by
  rw [Run.unwind]
  split
  · exact ending.finish now left
  · next task rest tasks =>
      refine ⟨ending.startedAt, ending.stoppedAt, ending.executed, ?_⟩
      rcases ending.report with ⟨none, bound⟩ | ended
      · rw [tasks, List.length_cons] at bound
        exact Or.inl ⟨none, Nat.lt_of_succ_lt_succ bound⟩
      · rw [ended] at going
        cases going

end Run.Ending

namespace Preview

/-- A run is what is left of one that was stopped at an instant. -/
def Leaves (preview : Preview) (number : Nat) (origin : Run) (instant left : Nat) : Prop :=
  ∃ run, preview.runs[number]? = some run ∧ Run.Ending origin instant left run

section

variable {preview : Preview} {number instant left : Nat} {origin : Run}

theorem Leaves.mono (leaves : preview.Leaves number origin instant left) {more : Nat}
    (bound : left ≤ more) : preview.Leaves number origin instant more := by
  obtain ⟨run, found, ending⟩ := leaves
  refine ⟨run, found, ending.startedAt, ending.stoppedAt, ending.executed, ?_⟩
  rcases ending.report with ⟨none, fewer⟩ | ended
  · exact Or.inl ⟨none, Nat.lt_of_lt_of_le fewer bound⟩
  · exact Or.inr ended

theorem Leaves.modifyRun {other : Nat} {change : Run → Run}
    (leaves : preview.Leaves number origin instant left)
    (keeps : ∀ run, other = number → Run.Ending origin instant left run →
      Run.Ending origin instant left (change run)) :
    (preview.modifyRun other change).Leaves number origin instant left := by
  obtain ⟨run, found, ending⟩ := leaves
  by_cases same : other = number
  · refine ⟨change run, ?_, keeps run same ending⟩
    rw [runs_modifyRun, if_pos same, found]
    rfl
  · refine ⟨run, ?_, ending⟩
    rw [runs_modifyRun, if_neg same, found]

theorem Leaves.stop (leaves : preview.Leaves number origin instant left) :
    preview.stop.Leaves number origin instant left := by
  rw [Preview.stop]
  split
  · exact leaves.modifyRun fun run _ ending => ending.stop _
  · exact leaves

private theorem withstands_leaves {other : Nat} (different : other ≠ number) :
    Withstands other fun preview => preview.Leaves number origin instant left where
  change _ leaves := leaves.modifyRun fun _ same => absurd same different
  record _ leaves := leaves
  setPin _ _ leaves := leaves
  stop leaves := leaves.stop

/-- A step of a stopped run brings it nearer to its end. -/
theorem Leaves.step (leaves : preview.Leaves number origin instant (left + 1)) :
    (preview.step number).1.Leaves number origin instant left := by
  obtain ⟨run, found, ending⟩ := leaves
  rw [step_stopped found ending.not_isLive]
  split
  · next ended =>
      refine ⟨run, found, ending.startedAt, ending.stoppedAt, ending.executed, ?_⟩
      rcases ending.report with ⟨none, _⟩ | report
      · rw [none] at ended
        cases ended
      · exact Or.inr report
  · next going =>
      refine ⟨run.unwind preview.now, ?_, ending.unwind _ (Bool.eq_false_iff.mpr going)⟩
      rw [runs_modifyRun, if_pos rfl, found]
      rfl

private theorem keeps_leaves : Keeps fun preview => preview.Leaves number origin instant left := by
  refine ⟨⟨?_⟩, fun _ leaves => leaves⟩
  intro preview other leaves
  by_cases same : other = number
  · rw [same]
    exact (leaves.mono (Nat.le_succ left)).step
  · exact (withstands_leaves same).step leaves

theorem Leaves.call (leaves : preview.Leaves number origin instant left)
    (panelCall : PanelCall) : (preview.call panelCall).Leaves number origin instant left :=
  (withstands_leaves (Nat.succ_ne_self number)).call panelCall leaves

theorem Leaves.install (leaves : preview.Leaves number origin instant left)
    (statements : Chain) : (preview.install statements).Leaves number origin instant left := by
  obtain ⟨run, found, ending⟩ := (leaves.call (.color preview.settings.color)).call .clear
  refine ⟨run, ?_, ending⟩
  obtain ⟨inside, _⟩ := Array.getElem?_eq_some_iff.mp found
  rw [Preview.install, Array.getElem?_push, if_neg (Nat.ne_of_lt inside)]
  exact found

/-- Whatever happens, a stopped run stays what it is but for its tasks. -/
theorem Leaves.act (leaves : preview.Leaves number origin instant left) (act : Act) :
    (preview.act act).Leaves number origin instant left := by
  cases act with
  | step other => exact keeps_leaves.step other leaves
  | moveTo _ => exact leaves
  | sleep milliseconds => exact keeps_leaves.sleep milliseconds leaves
  | finish other => exact keeps_leaves.finish other leaves
  | run program =>
      rw [Preview.act, Preview.run]
      split
      · exact (keeps_leaves.sleep _ leaves.stop).install program.actions
      · exact leaves.install program.actions
  | setPin _ _ => exact leaves
  | togglePin _ => exact leaves
  | stop => exact leaves.stop
  | stopRun other => exact leaves.modifyRun fun run _ ending => ending.stop _

theorem Leaves.follow (leaves : preview.Leaves number origin instant left) (acts : List Act) :
    (preview.follow acts).Leaves number origin instant left := by
  have keeps : ∀ act ∈ acts, ∀ preview : Preview, preview.Leaves number origin instant left →
      (preview.act act).Leaves number origin instant left := fun act _ _ leaves => leaves.act act
  exact follow_induction keeps leaves

theorem leaves_stopRun (found : preview.runs[number]? = some origin) (live : origin.isLive)
    (going : origin.report = none) :
    (preview.stopRun number).Leaves number origin preview.now
      (origin.machine.tasks.length + 1) := by
  have stoppedAt : (origin.stop preview.now).stoppedAt = some preview.now := by
    rw [Run.stop, Option.isNone_iff_eq_none.mp live]
    rfl
  refine ⟨origin.stop preview.now, ?_, rfl, stoppedAt, rfl, Or.inl ⟨going, Nat.lt_succ_self _⟩⟩
  rw [stopRun, runs_modifyRun, if_pos rfl, found]
  rfl

theorem Leaves.report? (leaves : preview.Leaves number origin instant left)
    (ended : (preview.report? number).isSome ∨ left = 0) :
    preview.report? number =
      some ⟨origin.machine.executed, instant - origin.startedAt, true⟩ := by
  obtain ⟨run, found, ending⟩ := leaves
  rw [Preview.report?, found, Option.bind_some] at ended ⊢
  rcases ending.report with ⟨none, fewer⟩ | report
  · rw [none] at ended
    rcases ended with impossible | rfl
    · cases impossible
    · cases fewer
  · exact report

theorem Leaves.ready (leaves : preview.Leaves number origin instant left)
    (going : ¬ (preview.report? number).isSome) : number ∈ preview.readyRuns := by
  obtain ⟨run, found, ending⟩ := leaves
  obtain ⟨inside, _⟩ := Array.getElem?_eq_some_iff.mp found
  rw [Preview.report?, found, Option.bind_some, Option.not_isSome_iff_eq_none] at going
  rw [readyRuns, List.mem_filter, found]
  exact ⟨List.mem_range.mpr inside, isReady_of_stopped ending.not_isLive going⟩

theorem withstands_now (number now : Nat) : Withstands number fun preview => preview.now = now where
  change _ same := same
  record _ same := same
  setPin _ _ same := same
  stop same := by
    rw [Preview.stop]
    split <;> exact same

theorem now_round (preview : Preview) (steps : Nat) : (preview.round steps).now = preview.now := by
  have keeps : StepsKeep fun other => other.now = preview.now :=
    ⟨fun number same => (withstands_now number preview.now).step same⟩
  exact keeps.round steps rfl

theorem Leaves.turn (leaves : preview.Leaves number origin instant (left + 1)) (steps : Nat) :
    (turn number (steps + 1) preview).Leaves number origin instant left := by
  have stepped := leaves.step
  rw [Preview.turn]
  split
  · next after found =>
      rw [found] at stepped
      exact keeps_leaves.turn number steps stepped
  · next after found =>
      rw [found] at stepped
      exact stepped

theorem Leaves.round (leaves : preview.Leaves number origin instant (left + 1))
    (ready : number ∈ preview.readyRuns) (steps : Nat) :
    (preview.round (steps + 1)).Leaves number origin instant left := by
  obtain ⟨early, late, split⟩ := List.append_of_mem ready
  rw [Preview.round, split, List.foldl_append, List.foldl_cons]
  have before := keeps_leaves.turns (steps + 1) early leaves
  exact keeps_leaves.turns (steps + 1) late (before.turn steps)

/-- Waiting for the end of a stopped run takes no time, and with enough rounds it comes. -/
theorem Leaves.passToEnd (leaves : preview.Leaves number origin instant left) (rounds : Nat) :
    (passToEnd number rounds preview).now = preview.now ∧
      (left ≤ rounds → (passToEnd number rounds preview).report? number =
        some ⟨origin.machine.executed, instant - origin.startedAt, true⟩) := by
  induction rounds generalizing preview left with
  | zero =>
      refine ⟨rfl, ?_⟩
      intro bound
      exact leaves.report? (Or.inr (Nat.le_zero.mp bound))
  | succ rounds inductionHypothesis =>
      rw [Preview.passToEnd]
      split
      · next ended => exact ⟨rfl, fun _ => leaves.report? (Or.inl ended)⟩
      · next going =>
          have ready := leaves.ready going
          have waiting : ¬ preview.readyRuns.isEmpty :=
            fun empty => List.ne_nil_of_mem ready (List.isEmpty_iff.mp empty)
          rw [if_neg waiting]
          have nearer : (preview.round patience).Leaves number origin instant (left - 1) :=
            ((leaves.mono (Nat.le_add_of_sub_le (Nat.le_refl _))).round ready _)
          obtain ⟨now, report⟩ := inductionHypothesis nearer
          exact ⟨now.trans (now_round preview patience), fun bound => report (by omega)⟩

end

end Preview

end Marquee
