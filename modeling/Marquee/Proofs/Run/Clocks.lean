import Mathlib.Data.Nat.PSub
import Marquee.Proofs.Run.Chronicle
import Marquee.Proofs.Run.Stopping

/-!
# Clocks and reports of runs

The clock of a run starts when its session is created and is frozen by what closes it: the first
stop of the session, or the return of its walk. The run, the preview and their report and status
remember just that much, so they can be told from the chronicle, and they are what it tells.
-/

namespace Marquee

/-- A run is as a chronicle tells it. -/
structure Run.AsTold (log : List Note) (number : Nat) (run : Run) : Prop where
  created : createdAt? log number = some run.startedAt
  stopped : run.stoppedAt = (closing? log number).map Note.instant
  ordered : ∀ closing ∈ closing? log number, run.startedAt ≤ closing.instant
  ended : run.report.isSome ↔ HasReturned log number
  report : ∀ report ∈ run.report, ∃ closing ∈ closing? log number,
    report.elapsed = closing.instant - run.startedAt ∧
      (report.cancelled ↔ closing.mark = .stopped)

namespace Run.AsTold

variable {log : List Note} {number : Nat} {run : Run}

/-- What happens to other runs is of no matter. -/
theorem append_others (told : run.AsTold log number) {notes : List Note}
    (others : ∀ note ∈ notes, note.number ≠ number) : run.AsTold (log ++ notes) number := by
  obtain ⟨noCreated, noClosing, noReturn⟩ := unknown_of_absent others
  have closing : closing? (log ++ notes) number = closing? log number := by
    rw [closing?_append, noClosing, Option.or_none]
  refine ⟨?_, ?_, ?_, ?_, ?_⟩
  · rw [createdAt?_append, noCreated, Option.or_none]
    exact told.created
  · rw [closing]
    exact told.stopped
  · rw [closing]
    exact told.ordered
  · rw [hasReturned_append, or_iff_left noReturn]
    exact told.ended
  · rw [closing]
    exact told.report

/-- What a machine does and when it wakes is not told. -/
theorem resumed (told : run.AsTold log number) (machine : Machine) (wakesAt : Option Nat) :
    ({ run with machine, wakesAt } : Run).AsTold log number :=
  ⟨told.created, told.stopped, told.ordered, told.ended, told.report⟩

/-- A run that is closed at an instant, unless it was closed before. -/
theorem closed (told : run.AsTold log number) {now : Nat} (begun : run.startedAt ≤ now)
    (mark : Mark) (closes : mark ≠ .created) :
    let notes := log ++ [⟨now, number, mark⟩]
    createdAt? notes number = some run.startedAt ∧
      (run.stop now).stoppedAt = (closing? notes number).map Note.instant ∧
      (∀ closing ∈ closing? notes number, run.startedAt ≤ closing.instant) ∧
      closing? notes number =
        some ((closing? log number).getD ⟨now, number, mark⟩) := by
  intro notes
  have closing : closing? notes number =
      some ((closing? log number).getD ⟨now, number, mark⟩) := by
    have last : closing? [⟨now, number, mark⟩] number = some ⟨now, number, mark⟩ := by
      simp [closing?, closes]
    rw [closing?_append, last]
    cases closing? log number <;> rfl
  refine ⟨?_, ?_, ?_, closing⟩
  · rw [createdAt?_append, told.created]
    rfl
  · rw [closing, Run.stop, told.stopped]
    cases closing? log number <;> rfl
  · rw [closing]
    intro first same
    cases same
    cases found : closing? log number with
    | none => exact begun
    | some earlier => exact told.ordered earlier found

theorem stop (told : run.AsTold log number) {now : Nat} (begun : run.startedAt ≤ now) :
    (run.stop now).AsTold (log ++ [⟨now, number, .stopped⟩]) number := by
  obtain ⟨created, stopped, ordered, closing⟩ := told.closed begun .stopped (by decide)
  refine ⟨created, stopped, ordered, ?_, ?_⟩
  · have noReturn : ¬ HasReturned [⟨now, number, .stopped⟩] number := by
      rintro ⟨note, member, _, returned⟩
      rw [List.mem_singleton.mp member] at returned
      cases returned
    rw [hasReturned_append, or_iff_left noReturn]
    exact told.ended
  · intro report found
    obtain ⟨first, same, elapsed, cancelled⟩ := told.report report found
    refine ⟨first, ?_, elapsed, cancelled⟩
    rw [closing, same]
    rfl

/-- What closed a run whose walk has not returned is a stop. -/
theorem mark_of_going (told : run.AsTold log number) (going : run.report = none) {first : Note}
    (found : closing? log number = some first) : first.mark = .stopped := by
  have noReturn : ¬ HasReturned log number := by
    rw [← told.ended, going]
    exact Bool.false_ne_true
  obtain ⟨member, same, closes⟩ := of_closing? found
  cases mark : first.mark with
  | created => exact absurd mark closes
  | stopped => rfl
  | returned => exact absurd ⟨first, member, same, mark⟩ noReturn

/-- When the walk of a run returns, its report is made of what closed it. -/
theorem finish (told : run.AsTold log number) {now : Nat} (begun : run.startedAt ≤ now)
    (going : run.report = none) :
    (run.finish now).AsTold (log ++ [⟨now, number, .returned⟩]) number := by
  obtain ⟨created, stopped, ordered, closing⟩ := told.closed begun .returned (by decide)
  refine ⟨created, stopped, ordered, ?_, ?_⟩
  · rw [hasReturned_append]
    exact iff_of_true rfl (Or.inr ⟨_, List.mem_singleton_self _, rfl, rfl⟩)
  · intro report found
    cases found
    refine ⟨_, closing, ?_⟩
    rw [elapsed, isLive, told.stopped]
    cases found : closing? log number with
    | none => exact ⟨rfl, iff_of_false Bool.false_ne_true fun same => by cases same⟩
    | some first => exact ⟨rfl, iff_of_true rfl (told.mark_of_going going found)⟩

end Run.AsTold

namespace Preview

/-- A preview is as a chronicle tells it. The current run is the one that was started last. -/
structure AsTold (log : List Note) (preview : Preview) : Prop where
  runs : ∀ (number : Nat) (run : Run), preview.runs[number]? = some run → run.AsTold log number
  inside : ∀ note ∈ log, note.number < preview.runs.size
  begun : ∀ (number : Nat) (run : Run), preview.runs[number]? = some run →
    run.startedAt ≤ preview.now
  current : preview.current = preview.runs.size.ppred

namespace AsTold

variable {log : List Note} {preview : Preview}

/-- One run changes, and what is noted is about this one. -/
theorem modifyRun (told : preview.AsTold log) {number : Nat} {change : Run → Run}
    {notes : List Note} (about : ∀ note ∈ notes, note.number = number)
    (inside : notes ≠ [] → number < preview.runs.size)
    (changes : ∀ run, preview.runs[number]? = some run → run.AsTold log number →
      run.startedAt ≤ preview.now →
        (change run).AsTold (log ++ notes) number ∧ (change run).startedAt = run.startedAt) :
    (preview.modifyRun number change).AsTold (log ++ notes) := by
  have size : (preview.modifyRun number change).runs.size = preview.runs.size := Array.size_modify
  have each (other : Nat) (run : Run)
      (found : (preview.modifyRun number change).runs[other]? = some run) :
      run.AsTold (log ++ notes) other ∧ run.startedAt ≤ preview.now := by
    rw [runs_modifyRun] at found
    split at found
    · next same =>
        subst same
        obtain ⟨old, oldFound, rfl⟩ := Option.map_eq_some_iff.mp found
        have begun := told.begun number old oldFound
        obtain ⟨changed, startedAt⟩ := changes old oldFound (told.runs number old oldFound) begun
        exact ⟨changed, startedAt ▸ begun⟩
    · next different =>
        have others : ∀ note ∈ notes, note.number ≠ other :=
          fun note member same => different ((about note member).symm.trans same)
        exact ⟨(told.runs other run found).append_others others, told.begun other run found⟩
  refine ⟨fun other run found => (each other run found).1, ?_,
    fun other run found => (each other run found).2, ?_⟩
  · rw [size]
    intro note member
    rcases List.mem_append.mp member with old | new
    · exact told.inside note old
    · rw [about note new]
      exact inside (List.ne_nil_of_mem new)
  · rw [size]
    exact told.current

theorem append_nil (told : preview.AsTold log) : preview.AsTold (log ++ []) := by
  rw [List.append_nil]
  exact told

/-- Nothing is noted of what a machine does. -/
theorem resume (told : preview.AsTold log) (number : Nat) (machine : Run → Machine)
    (wakesAt : Option Nat) :
    (preview.modifyRun number fun run =>
      { run with machine := machine run, wakesAt }).AsTold log := by
  have changed : (preview.modifyRun number fun run =>
      { run with machine := machine run, wakesAt }).AsTold (log ++ []) := by
    refine told.modifyRun (fun note member => absurd member List.not_mem_nil)
      (fun noted => absurd rfl noted) fun run _ asTold _ => ?_
    rw [List.append_nil]
    exact ⟨asTold.resumed _ _, rfl⟩
  rw [List.append_nil] at changed
  exact changed

theorem stopRun (told : preview.AsTold log) (number : Nat) :
    (preview.stopRun number).AsTold (log ++ preview.stopRunLog number) := by
  rw [stopRunLog]
  split
  · next inside =>
      refine told.modifyRun (fun note member => ?_) (fun _ => inside) ?_
      · rw [List.mem_singleton.mp member]
      · intro run _ asTold begun
        exact ⟨asTold.stop begun, rfl⟩
  · next outside =>
      refine told.modifyRun (fun note member => absurd member List.not_mem_nil)
        (fun noted => absurd rfl noted) ?_
      intro run found
      exact absurd (Array.getElem?_eq_some_iff.mp found).1 outside

theorem stop (told : preview.AsTold log) : preview.stop.AsTold (log ++ preview.stopLog) := by
  rw [Preview.stop, stopLog]
  cases preview.current with
  | none => exact told.append_nil
  | some number => exact told.stopRun number

/-! ## Calls and turns -/

theorem reactions (told : preview.AsTold log) (reactions : List Reaction) :
    (reactions.foldl react preview).AsTold (log ++ reactionsLog reactions preview) := by
  induction reactions generalizing preview log with
  | nil => exact told.append_nil
  | cons reaction rest inductionHypothesis =>
      have first : (preview.react reaction).AsTold (log ++ preview.reactLog reaction) := by
        cases reaction with
        | stop => exact told.stop
        | setPin pin high =>
            obtain ⟨runs, inside, begun, current⟩ := told.append_nil
            exact ⟨runs, inside, begun, current⟩
      rw [reactionsLog, ← List.append_assoc]
      exact inductionHypothesis first

theorem call (told : preview.AsTold log) (panelCall : PanelCall) :
    (preview.call panelCall).AsTold (log ++ preview.callLog panelCall) := by
  have recorded : (preview.record panelCall).AsTold log :=
    ⟨told.runs, told.inside, told.begun, told.current⟩
  rw [call_eq]
  exact recorded.reactions _

theorem grant (told : preview.AsTold log) (number : Nat) (request : Request) :
    (preview.grant number request).1.AsTold (log ++ preview.grantLog request) := by
  cases request with
  | nothing => exact told.append_nil
  | call panelCall => exact told.call panelCall
  | drive pin high =>
      have driven : (preview.setPin pin high).AsTold log :=
        ⟨told.runs, told.inside, told.begun, told.current⟩
      exact driven.call (.indicator pin high)
  | rest milliseconds =>
      exact (told.resume number Run.machine (some (preview.now + milliseconds))).append_nil
  | yield => exact told.append_nil

theorem step (told : preview.AsTold log) (number : Nat) :
    (preview.step number).1.AsTold (log ++ preview.stepLog number) := by
  cases found : preview.runs[number]? with
  | none =>
      rw [step_of_none found, stepLog, found]
      exact told.append_nil
  | some run =>
      rw [stepLog, found]
      dsimp only
      by_cases ready : run.isReady preview.now
      · rw [if_pos ready]
        cases takes : run.machine.step (preview.scene run) with
        | none =>
            rw [step_of_end found ready takes]
            refine told.modifyRun (fun note member => ?_)
              (fun _ => (Array.getElem?_eq_some_iff.mp found).1) ?_
            · rw [List.mem_singleton.mp member]
            · intro same foundAgain asTold begun
              rw [found] at foundAgain
              cases foundAgain
              have going : run.report = none := by
                rw [Run.isReady, Bool.and_eq_true] at ready
                exact Option.isNone_iff_eq_none.mp ready.1
              exact ⟨asTold.finish begun going, rfl⟩
        | some taken =>
            obtain ⟨request, machine⟩ := taken
            rw [step_of_request found ready takes]
            exact (told.resume number (fun _ => machine) none).grant number request
      · rw [step_of_unready found ready, if_neg ready]
        exact told.append_nil

theorem turn (told : preview.AsTold log) (number steps : Nat) :
    (preview.turn number steps).AsTold (log ++ turnLog number steps preview) := by
  induction steps generalizing preview log with
  | zero => exact told.append_nil
  | succ steps inductionHypothesis =>
      have stepped := told.step number
      rw [turn_succ, turnLog, ← List.append_assoc]
      split
      · exact inductionHypothesis stepped
      · exact stepped.append_nil

theorem turns (told : preview.AsTold log) (steps : Nat) (numbers : List Nat) :
    (numbers.foldl (fun preview number => preview.turn number steps) preview).AsTold
      (log ++ turnsLog steps numbers preview) := by
  induction numbers generalizing preview log with
  | nil => exact told.append_nil
  | cons number rest inductionHypothesis =>
      rw [turnsLog, ← List.append_assoc]
      exact inductionHypothesis (told.turn number steps)

theorem round (told : preview.AsTold log) (steps : Nat) :
    (preview.round steps).AsTold (log ++ roundLog steps preview) :=
  told.turns steps preview.readyRuns

theorem moveTo (told : preview.AsTold log) (instant : Nat) :
    (preview.moveTo instant).AsTold log :=
  ⟨told.runs, told.inside, fun number run found =>
    Nat.le_trans (told.begun number run found) (Nat.le_max_left _ _), told.current⟩

theorem passUntil (told : preview.AsTold log) (instant rounds : Nat) :
    (preview.passUntil instant rounds).AsTold (log ++ passUntilLog instant rounds preview) := by
  induction rounds generalizing preview log with
  | zero => exact (told.moveTo instant).append_nil
  | succ rounds inductionHypothesis =>
      rw [Preview.passUntil, passUntilLog]
      split
      · cases preview.nextWake? with
        | none => exact (told.moveTo instant).append_nil
        | some wakesAt =>
            dsimp only
            split
            · exact inductionHypothesis (told.moveTo wakesAt)
            · exact (told.moveTo instant).append_nil
      · rw [← List.append_assoc]
        exact inductionHypothesis (told.round patience)

theorem sleep (told : preview.AsTold log) (milliseconds : Nat) :
    (preview.sleep milliseconds).AsTold (log ++ preview.sleepLog milliseconds) := by
  rw [Preview.sleep, sleepLog]
  split
  · exact told.append_nil
  · exact told.passUntil _ patience

theorem passToEnd (told : preview.AsTold log) (number rounds : Nat) :
    (preview.passToEnd number rounds).AsTold (log ++ passToEndLog number rounds preview) := by
  induction rounds generalizing preview log with
  | zero => exact told.append_nil
  | succ rounds inductionHypothesis =>
      rw [Preview.passToEnd, passToEndLog]
      split
      · exact told.append_nil
      · split
        · cases preview.nextWake? with
          | none => exact told.append_nil
          | some wakesAt => exact inductionHypothesis (told.moveTo wakesAt)
        · rw [← List.append_assoc]
          exact inductionHypothesis (told.round patience)

/-- Nothing was noted of a run before its session is created. -/
theorem push (told : preview.AsTold log) (machine : Machine) :
    ({ preview with
        runs := preview.runs.push ⟨machine, preview.now, none, none, none⟩
        current := some preview.runs.size } : Preview).AsTold
      (log ++ [⟨preview.now, preview.runs.size, .created⟩]) := by
  have last : ∀ note ∈ [(⟨preview.now, preview.runs.size, .created⟩ : Note)],
      note.number = preview.runs.size := by
    intro note member
    rw [List.mem_singleton.mp member]
  obtain ⟨noCreated, noClosing, noReturn⟩ :=
    unknown_of_absent fun note member => Nat.ne_of_lt (told.inside note member)
  have each (number : Nat) (run : Run)
      (found : (preview.runs.push ⟨machine, preview.now, none, none, none⟩)[number]? = some run) :
      run.AsTold (log ++ [⟨preview.now, preview.runs.size, .created⟩]) number ∧
        run.startedAt ≤ preview.now := by
    rw [Array.getElem?_push] at found
    split at found
    · next same =>
        cases found
        subst same
        have closing : closing? (log ++ [⟨preview.now, preview.runs.size, .created⟩])
            preview.runs.size = none := by
          rw [closing?_append, noClosing]
          simp [closing?]
        refine ⟨⟨?_, ?_, ?_, ?_, ?_⟩, Nat.le_refl _⟩
        · rw [createdAt?_append, noCreated]
          simp [createdAt?]
        · rw [closing]
          rfl
        · intro note closes
          rw [closing] at closes
          cases closes
        · rw [hasReturned_append, or_iff_right noReturn]
          refine iff_of_false Bool.false_ne_true ?_
          rintro ⟨note, member, _, returned⟩
          rw [List.mem_singleton.mp member] at returned
          cases returned
        · intro report found
          cases found
    · next different =>
        refine ⟨(told.runs number run found).append_others ?_, told.begun number run found⟩
        intro note member same
        exact different (same.symm.trans (last note member))
  refine ⟨fun number run found => (each number run found).1, ?_,
    fun number run found => (each number run found).2, ?_⟩
  · intro note member
    rw [Array.size_push]
    rcases List.mem_append.mp member with old | new
    · exact Nat.lt_succ_of_lt (told.inside note old)
    · rw [last note new]
      exact Nat.lt_succ_self _
  · rw [Array.size_push]
    rfl

theorem install (told : preview.AsTold log) (statements : Chain) :
    (preview.install statements).AsTold (log ++ preview.installLog) := by
  have ready := (told.call (.color preview.settings.color)).call .clear
  rw [installLog, ← List.append_assoc, ← List.append_assoc]
  exact ready.push _

theorem run (told : preview.AsTold log) (program : Program) :
    (preview.run program).AsTold (log ++ preview.runLog) := by
  rw [Preview.run, runLog]
  split
  · have settled := told.stop.sleep preview.settings.settle
    rw [← List.append_assoc, ← List.append_assoc]
    exact settled.install program.actions
  · exact told.install program.actions

theorem act (told : preview.AsTold log) (act : Act) :
    (preview.act act).AsTold (log ++ preview.actLog act) := by
  cases act with
  | step number => exact told.step number
  | moveTo instant => exact (told.moveTo instant).append_nil
  | sleep milliseconds => exact told.sleep milliseconds
  | finish number => exact told.passToEnd number patience
  | run program => exact told.run program
  | setPin pin high =>
      obtain ⟨runs, inside, begun, current⟩ := told.append_nil
      exact ⟨runs, inside, begun, current⟩
  | togglePin pin =>
      obtain ⟨runs, inside, begun, current⟩ := told.append_nil
      exact ⟨runs, inside, begun, current⟩
  | stop => exact told.stop
  | stopRun number => exact told.stopRun number

theorem follow (told : preview.AsTold log) (acts : List Act) :
    (preview.follow acts).AsTold (log ++ chronicle acts preview) := by
  induction acts generalizing preview log with
  | nil => exact told.append_nil
  | cons act acts inductionHypothesis =>
      rw [chronicle, ← List.append_assoc]
      exact inductionHypothesis (told.act act)

/-! ## What can be seen -/

theorem report? (told : preview.AsTold log) {number : Nat} {report : RunReport}
    (found : preview.report? number = some report) :
    ∃ since closing, createdAt? log number = some since ∧ closing? log number = some closing ∧
      since ≤ closing.instant ∧ report.elapsed = closing.instant - since ∧
      (report.cancelled ↔ closing.mark = .stopped) := by
  obtain ⟨run, listed, reported⟩ := Option.bind_eq_some_iff.mp found
  have asTold := told.runs number run listed
  obtain ⟨closing, closes, elapsed, cancelled⟩ := asTold.report report reported
  exact ⟨run.startedAt, closing, asTold.created, closes, asTold.ordered closing closes, elapsed,
    cancelled⟩

theorem unknown_of_none (told : preview.AsTold log) {number : Nat}
    (absent : preview.runs[number]? = none) :
    createdAt? log number = none ∧ closing? log number = none ∧ ¬ HasReturned log number := by
  refine unknown_of_absent fun note member same => ?_
  have inside := told.inside note member
  rw [same] at inside
  exact Nat.not_le_of_gt inside (Array.getElem?_eq_none_iff.mp absent)

theorem isSome_report? (told : preview.AsTold log) (number : Nat) :
    (preview.report? number).isSome ↔ HasReturned log number := by
  rw [Preview.report?]
  cases found : preview.runs[number]? with
  | none => exact iff_of_false Bool.false_ne_true (told.unknown_of_none found).2.2
  | some run => exact (told.runs number run found).ended

/-- A run is live from when its session is created until something closes it. -/
theorem isRunLive (told : preview.AsTold log) (number : Nat) :
    preview.isRunLive number ↔ createdAt? log number ≠ none ∧ closing? log number = none := by
  rw [Preview.isRunLive]
  cases found : preview.runs[number]? with
  | none =>
      exact iff_of_false Bool.false_ne_true fun known => known.1 (told.unknown_of_none found).1
  | some run =>
      have asTold := told.runs number run found
      rw [asTold.created, Option.map_some, Option.getD_some, Run.isLive, asTold.stopped,
        Option.isNone_map, Option.isNone_iff_eq_none]
      exact (and_iff_right (Option.some_ne_none _)).symm

theorem currentRun? (told : preview.AsTold log) :
    preview.currentRun? = preview.runs[preview.runs.size - 1]? := by
  rw [Preview.currentRun?, told.current]
  cases size : preview.runs.size with
  | zero => exact (Array.getElem?_eq_none_iff.mpr (Nat.le_of_eq size)).symm
  | succ count => rfl

theorem isRunning (told : preview.AsTold log) :
    preview.isRunning = preview.isRunLive (preview.runs.size - 1) := by
  rw [Preview.isRunning, status, told.currentRun?, Preview.isRunLive]
  cases preview.runs[preview.runs.size - 1]? with
  | none => rfl
  | some run =>
      dsimp only
      rw [Option.map_some, Option.getD_some]
      cases run.isLive <;> rfl

/-- The clock of a run that is closed stands still. -/
theorem status (told : preview.AsTold log) {since : Nat} {closing : Note}
    (created : createdAt? log (preview.runs.size - 1) = some since)
    (closes : closing? log (preview.runs.size - 1) = some closing) :
    preview.status = .stopped (closing.instant - since) := by
  rw [Preview.status, told.currentRun?]
  cases found : preview.runs[preview.runs.size - 1]? with
  | none =>
      rw [(told.unknown_of_none found).1] at created
      cases created
  | some run =>
      have asTold := told.runs _ run found
      rw [asTold.created] at created
      cases created
      dsimp only
      rw [Run.isLive, Run.elapsed, asTold.stopped, closes]
      rfl

theorem calls (told : preview.AsTold log) (panelCalls : List PanelCall) :
    ∃ notes, (panelCalls.foldl Preview.call preview).AsTold (log ++ notes) := by
  induction panelCalls generalizing preview log with
  | nil => exact ⟨[], told.append_nil⟩
  | cons panelCall rest inductionHypothesis =>
      obtain ⟨notes, after⟩ := inductionHypothesis (told.call panelCall)
      rw [List.append_assoc] at after
      exact ⟨_, after⟩

end AsTold

theorem withstands_size (number size : Nat) :
    Withstands number fun preview => preview.runs.size = size where
  change _ same := Array.size_modify.trans same
  record _ same := same
  setPin _ _ same := same
  stop same := by
    rw [stop]
    split
    · exact Array.size_modify.trans same
    · exact same

theorem keeps_size (size : Nat) : Keeps fun preview => preview.runs.size = size :=
  ⟨⟨fun number same => (withstands_size number size).step same⟩, fun _ same => same⟩

private theorem size_act (preview : Preview) {act : Act} (noRun : ∀ program, act ≠ .run program) :
    (preview.act act).runs.size = preview.runs.size := by
  cases act with
  | step number => exact (keeps_size _).step number rfl
  | moveTo instant => rfl
  | sleep milliseconds => exact (keeps_size _).sleep milliseconds rfl
  | finish number => exact (keeps_size _).finish number rfl
  | run program => exact absurd rfl (noRun program)
  | setPin pin high => rfl
  | togglePin pin => rfl
  | stop => exact (withstands_size 0 _).stop rfl
  | stopRun number => exact Array.size_modify

private theorem size_follow (preview : Preview) {acts : List Act}
    (noRun : ∀ program, .run program ∉ acts) :
    (preview.follow acts).runs.size = preview.runs.size := by
  have stays (act : Act) (member : act ∈ acts) (after : Preview)
      (same : after.runs.size = preview.runs.size) :
      (after.act act).runs.size = preview.runs.size := by
    refine (size_act after ?_).trans same
    rintro program rfl
    exact noRun program member
  exact follow_induction stays rfl

private theorem size_calls (preview : Preview) (panelCalls : List PanelCall) :
    (panelCalls.foldl call preview).runs.size = preview.runs.size := by
  induction panelCalls generalizing preview with
  | nil => rfl
  | cons panelCall rest inductionHypothesis =>
      exact (inductionHypothesis _).trans ((withstands_size 0 _).call panelCall rfl)

/-- The calls that make the panel ready start nothing. -/
theorem size_ready (preview : Preview) :
    ((preview.call (.color preview.settings.color)).call .clear).runs.size = preview.runs.size :=
  preview.size_calls [.color preview.settings.color, .clear]

/-- Reports, handles and status say of the runs what a chronicle tells of them. A run that was
stopped before its walk returned, and no other, is reported as cancelled. Its time is from when its
session was created to the first stop, or to the return of its walk if that came first. The preview
is running as long as the last run is, and after that its status shows the time of this run until
the next session is created, also while the panel is made ready for it. -/
structure ClocksAgree (log : List Note) (preview : Preview) : Prop where
  report : ∀ {number report}, preview.report? number = some report →
    ∃ since closing, createdAt? log number = some since ∧ closing? log number = some closing ∧
      since ≤ closing.instant ∧ report.elapsed = closing.instant - since ∧
      (report.cancelled ↔ closing.mark = .stopped)
  ended : ∀ number, (preview.report? number).isSome ↔ HasReturned log number
  live : ∀ number, preview.isRunLive number ↔
    createdAt? log number ≠ none ∧ closing? log number = none
  running : preview.isRunning = preview.isRunLive (preview.runs.size - 1)
  status : ∀ {since closing}, createdAt? log (preview.runs.size - 1) = some since →
    closing? log (preview.runs.size - 1) = some closing →
      ∀ later : List Act, (∀ program, .run program ∉ later) → ∀ panelCalls : List PanelCall,
        (panelCalls.foldl call (preview.follow later)).status = .stopped (closing.instant - since)

theorem AsTold.clocksAgree {log : List Note} {preview : Preview} (told : preview.AsTold log) :
    preview.ClocksAgree log where
  report found := told.report? found
  ended := told.isSome_report?
  live := told.isRunLive
  running := told.isRunning
  status {since closing} created closes later noRun panelCalls := by
    obtain ⟨notes, after⟩ := (told.follow later).calls panelCalls
    have size := (size_calls (preview.follow later) panelCalls).trans (size_follow preview noRun)
    refine after.status ?_ ?_
    · rw [size, createdAt?_append, createdAt?_append, created]
      rfl
    · rw [size, closing?_append, closing?_append, closes]
      rfl

/-- Whatever happens to a preview, its clocks, reports and status agree with its chronicle. -/
theorem clocks_agree (settings : PreviewSettings) (pins : PinBank) (acts : List Act) :
    ((start settings pins).follow acts).ClocksAgree (chronicle acts (start settings pins)) := by
  have fresh : (start settings pins).AsTold [] := ⟨nofun, nofun, nofun, rfl⟩
  exact (fresh.follow acts).clocksAgree

/-- Stops that come after the first one are noted, and do not matter. -/
example :
    let acts := [.run ticking, .moveTo 7, .stop, .moveTo 9, .stopRun 0, .finish 0]
    chronicle acts (start default .low) =
        [⟨0, 0, .created⟩, ⟨7, 0, .stopped⟩, ⟨9, 0, .stopped⟩, ⟨9, 0, .returned⟩] ∧
      ((start default .low).follow acts).report? 0 = some ⟨0, 7, true⟩ :=
  ⟨rfl, rfl⟩

end Preview

end Marquee
