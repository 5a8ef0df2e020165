import Marquee.Proofs.Run.Clocks
import Marquee.Proofs.Run.Isolation
import Marquee.Proofs.Run.Moments
import Marquee.Proofs.Run.Schedule

/-!
# Where the time goes

On virtual time a program spends time in waits and animations only. The statements that a run begins
are written down, each with what can be seen then, and so is how long each of them takes. When the
run ends by itself, its time is the sum of all these.
-/

namespace Marquee

/-- How long the statements take together. -/
def totalDuration (executions : List Execution) : Nat :=
  (executions.map Execution.duration).sum

/-- These are the statements that the run has begun so far, and it goes on: it keeps to its schedule,
or hangs. -/
structure Run.Ongoing (now : Nat) (begun : List Execution) (run : Run) : Prop where
  report : run.report = none
  executed : run.machine.executed = begun.length
  progress : Hangs now run.machine.tasks ∧ run.wakesAt.getD now = now ∨
    (∀ execution ∈ begun, execution.Ends) ∧
      Scheduled run.machine.tasks (run.wakesAt.getD now) (run.startedAt + totalDuration begun)
  ahead : ∀ wakesAt, run.wakesAt = some wakesAt → now ≤ wakesAt

/-- These are the statements that the run has begun so far. As long as it is live it goes on, and if
it has ended by itself, its report agrees. -/
structure Run.Accounts (now : Nat) (begun : List Execution) (run : Run) : Prop where
  ongoing : run.isLive → run.Ongoing now begun
  ended : ∀ report, run.report = some report → report.cancelled = false →
    report.executed = begun.length ∧ report.elapsed = totalDuration begun ∧
      ∀ execution ∈ begun, execution.Ends

theorem Run.Accounts.stop {run : Run} {now : Nat} {begun : List Execution}
    (accounts : run.Accounts now begun) (instant : Nat) :
    (run.stop instant).Accounts now begun :=
  ⟨nofun, accounts.ended⟩

/-- A run that is not live has nothing to do with time any more. -/
theorem Run.Accounts.later {run : Run} {now : Nat} {begun : List Execution}
    (accounts : run.Accounts now begun) (stopped : run.isLive = false) (later : Nat) :
    run.Accounts later begun := by
  refine ⟨?_, accounts.ended⟩
  intro live
  rw [stopped] at live
  cases live

theorem Run.Accounts.stoppedKeep (now : Nat) (begun : List Execution) :
    Preview.StoppedKeep fun run => run.Accounts now begun where
  stop instant accounts := accounts.stop instant
  unwind := by
    intro run instant stopped accounts
    refine ⟨fun live => ?_, ?_⟩
    · rw [Preview.not_isLive_unwind stopped] at live
      cases live
    · rw [Run.unwind]
      split
      · rintro _ ⟨rfl⟩ own
        simp [stopped] at own
      · exact accounts.ended

namespace Preview

/-- The statement that the run begins with its next step, if it begins one. -/
def begins? (preview : Preview) (number : Nat) : Option Execution :=
  preview.runs[number]?.bind fun run =>
    if run.isReady preview.now then run.machine.begins? (preview.scene run) else none

def begunBy (preview : Preview) (number : Nat) : Act → List Execution
  | .step other => if other = number then (preview.begins? number).toList else []
  | _ => []

/-- The statements that the run begins while all this happens moment by moment, one after the
other. -/
def executions (number : Nat) : List Act → Preview → List Execution
  | [], _ => []
  | act :: acts, preview => preview.begunBy number act ++ executions number acts (preview.act act)

/-- These are the statements that the run has begun so far, if it is there. -/
def Accounts (preview : Preview) (number : Nat) (begun : List Execution) : Prop :=
  preview.runs.size ≤ number ∧ begun = [] ∨
    ∃ run, preview.runs[number]? = some run ∧ run.Accounts preview.now begun

/-- The books of the run are closed, or not opened yet. -/
def Closed (preview : Preview) (number : Nat) (begun : List Execution) : Prop :=
  preview.runs.size ≤ number ∧ begun = [] ∨
    preview.Stopped number fun run => run.Accounts 0 begun

section

variable {preview : Preview} {number : Nat} {begun : List Execution}

private theorem withstands_accounts {other : Nat} (different : other ≠ number) (now : Nat) :
    Withstands other fun preview =>
      (preview.runs.size ≤ number ∧ begun = [] ∨
        ∃ run, preview.runs[number]? = some run ∧ run.Accounts now begun) where
  change fading accounts := accounts.imp
    (fun absent => ⟨Array.size_modify.trans_le absent.1, absent.2⟩)
    ((withstands_kept different fun _ _ accounts => accounts.stop _).change fading)
  record _ accounts := accounts
  setPin _ _ accounts := accounts
  stop accounts := accounts.imp
    (fun absent => ⟨((withstands_size other _).stop rfl).trans_le absent.1, absent.2⟩)
    (withstands_kept different fun _ _ accounts => accounts.stop _).stop

theorem Accounts.step_other {other : Nat} (accounts : preview.Accounts number begun)
    (different : other ≠ number) : (preview.step other).1.Accounts number begun := by
  rw [Accounts, (withstands_now other preview.now).step rfl]
  exact (withstands_accounts different preview.now).step accounts

theorem Accounts.stop (accounts : preview.Accounts number begun) :
    preview.stop.Accounts number begun := by
  rw [Accounts, (withstands_now number preview.now).stop rfl]
  exact (withstands_accounts (Nat.succ_ne_self number) preview.now).stop accounts

theorem begins?_of_found {run : Run} (found : preview.runs[number]? = some run)
    (ready : run.isReady preview.now) :
    preview.begins? number = run.machine.begins? (preview.scene run) := by
  rw [begins?, found, Option.bind_some, if_pos ready]

private theorem Run.Ongoing.accounts {run : Run} {now : Nat} (ongoing : run.Ongoing now begun) :
    run.Accounts now begun := by
  refine ⟨fun _ => ongoing, ?_⟩
  intro report ended
  cases ongoing.report.symm.trans ended

private theorem accounts_finish {run : Run} {now : Nat} (live : run.isLive)
    (executed : run.machine.executed = begun.length)
    (due : now = run.startedAt + totalDuration begun)
    (ends : ∀ execution ∈ begun, execution.Ends) : (run.finish now).Accounts now begun := by
  have unstopped : run.stoppedAt = none := Option.isNone_iff_eq_none.mp live
  refine ⟨nofun, ?_⟩
  rintro _ ⟨rfl⟩ own
  refine ⟨executed, ?_, ends⟩
  dsimp only [Run.elapsed]
  rw [unstopped, Option.getD_none, due, Nat.add_sub_cancel_left]

/-- The books after a request was granted, if the schedule was kept. -/
theorem exists_accounts_grant {run : Run} {request : Request} {machine : Machine}
    (found : preview.runs[number]? = some run) (going : run.report = none)
    (executed : machine.executed = begun.length)
    (progress : Hangs preview.now machine.tasks ∧ request.pause = 0 ∨
      (∀ execution ∈ begun, execution.Ends) ∧
        Scheduled machine.tasks (preview.now + request.pause)
          (run.startedAt + totalDuration begun)) :
    ∃ after, ((preview.modifyRun number fun run => { run with machine, wakesAt := none }).grant
      number request).1.runs[number]? = some after ∧ after.Accounts preview.now begun := by
  have changed : (preview.modifyRun number fun run =>
      { run with machine, wakesAt := none }).runs[number]? =
        some { run with machine, wakesAt := none } := by
    rw [runs_modifyRun, if_pos rfl, found]
    rfl
  by_cases rests : ∃ milliseconds, request = .rest milliseconds
  · obtain ⟨milliseconds, rfl⟩ := rests
    rw [Request.pause_rest] at progress
    refine ⟨{ run with machine, wakesAt := some (preview.now + milliseconds) }, ?_,
      Run.Ongoing.accounts ⟨going, executed, ?_, ?_⟩⟩
    · rw [grant, runs_modifyRun, if_pos rfl, changed]
      rfl
    · refine progress.imp_left fun hangs => ⟨hangs.1, ?_⟩
      rw [Option.getD_some, hangs.2, Nat.add_zero]
    · rintro _ ⟨rfl⟩
      exact Nat.le_add_right _ _
  · have restless : request.pause = 0 := by
      cases request with
      | rest milliseconds => exact absurd ⟨milliseconds, rfl⟩ rests
      | _ => rfl
    rw [restless, Nat.add_zero] at progress
    apply grant_kept (fun _ _ accounts => accounts.stop _)
      (fun milliseconds same => rests ⟨milliseconds, same⟩)
    refine ⟨_, changed, Run.Ongoing.accounts ⟨going, executed, ?_, ahead_of_none _⟩⟩
    exact progress.imp_left fun hangs => ⟨hangs.1, rfl⟩

/-- The books after a step that the run takes when it is due. -/
theorem exists_accounts_step {run : Run} (found : preview.runs[number]? = some run)
    (ready : run.isReady preview.now) (live : run.isLive)
    (accounts : run.Accounts preview.now begun) :
    ∃ after, (preview.step number).1.runs[number]? = some after ∧ after.Accounts preview.now
      (begun ++ (run.machine.begins? (preview.scene run)).toList) := by
  obtain ⟨going, executed, progress, ahead⟩ := accounts.ongoing live
  have unstopped : (preview.scene run).stopped = false := by simp [scene, live]
  rcases progress with ⟨hangs, _⟩ | ⟨ends, scheduled⟩
  · have hangsHere : Hangs (preview.scene run).now run.machine.tasks := hangs
    obtain ⟨nothing, request, machine, takes, still, pause, same⟩ :=
      Machine.hangs_step hangsHere unstopped
    rw [step_of_request found ready takes, nothing, Option.toList_none, List.append_nil]
    exact exists_accounts_grant found going (same.trans executed) (.inl ⟨still, pause⟩)
  · rw [due_of_ready live ready ahead] at scheduled
    have scheduledHere : Scheduled run.machine.tasks (preview.scene run).now
        (run.startedAt + totalDuration begun) := scheduled
    cases takes : run.machine.step (preview.scene run) with
    | none =>
        have done : run.machine.tasks = [] := by
          rw [Machine.step] at takes
          split at takes
          · assumption
          · cases takes
        rw [done] at scheduled
        have nothing : run.machine.begins? (preview.scene run) = none := by
          rw [Machine.begins?, done]
        rw [step_of_end found ready takes, nothing, Option.toList_none, List.append_nil]
        refine ⟨run.finish preview.now, ?_, ?_⟩
        · rw [runs_modifyRun, if_pos rfl, found]
          rfl
        · exact accounts_finish live executed (Machine.due_of_done scheduled) ends
    | some taken =>
        obtain ⟨request, machine⟩ := taken
        obtain ⟨count, onSchedule⟩ :=
          Machine.keepsSchedule_of_step scheduledHere unstopped takes
        rw [step_of_request found ready takes]
        generalize (run.machine.begins? (preview.scene run)).toList = first at count onSchedule ⊢
        have executedThen : machine.executed = (begun ++ first).length := by
          rw [count, executed, List.length_append]
        have total : run.startedAt + totalDuration begun + (first.map Execution.duration).sum =
            run.startedAt + totalDuration (begun ++ first) := by
          rw [totalDuration, totalDuration, List.map_append, List.sum_append, Nat.add_assoc]
        rw [total] at onSchedule
        apply exists_accounts_grant found going executedThen
        rcases onSchedule with hangs | ⟨firstEnds, onSchedule⟩
        · exact .inl hangs
        · exact .inr ⟨List.forall_mem_append.mpr ⟨ends, firstEnds⟩, onSchedule⟩

theorem Accounts.step (accounts : preview.Accounts number begun) :
    (preview.step number).1.Accounts number (begun ++ (preview.begins? number).toList) := by
  rcases accounts with ⟨absent, none⟩ | ⟨run, found, accounts⟩
  · have missing := Array.getElem?_eq_none_iff.mpr absent
    rw [step_of_none missing, begins?, missing]
    exact .inl ⟨absent, by simpa using none⟩
  · by_cases ready : run.isReady preview.now
    · rw [begins?_of_found found ready]
      have now := (withstands_now number preview.now).step rfl
      rw [Accounts, now]
      right
      by_cases live : run.isLive
      · exact exists_accounts_step found ready live accounts
      · have stopped := Bool.eq_false_iff.mpr live
        have nothing : run.machine.begins? (preview.scene run) = none := by
          rw [Machine.begins?]
          split
          · exact if_pos (by simp [scene, stopped])
          · rfl
        rw [nothing, Option.toList_none, List.append_nil, step_stopped found stopped]
        split
        · exact ⟨run, found, accounts⟩
        · refine ⟨run.unwind preview.now, ?_,
            (Run.Accounts.stoppedKeep _ _).unwind _ stopped accounts⟩
          rw [runs_modifyRun, if_pos rfl, found]
          rfl
    · rw [step_of_unready found ready, begins?, found, Option.bind_some, if_neg ready]
      exact .inr ⟨run, found, by simpa using accounts⟩

/-! ## Whatever happens, the books are kept -/

private theorem keeps_closed : Keeps fun preview => preview.Closed number begun := by
  have keeps : Keeps fun preview => preview.Stopped number fun run => run.Accounts 0 begun :=
    (Run.Accounts.stoppedKeep 0 begun).keeps
  refine ⟨⟨?_⟩, fun _ closed => closed⟩
  rintro preview other (⟨absent, none⟩ | stopped)
  · exact .inl ⟨((keeps_size _).step other rfl).trans_le absent, none⟩
  · exact .inr (keeps.step other stopped)

theorem Calm.closed (calm : preview.Calm) (accounts : preview.Accounts number begun) :
    preview.Closed number begun := by
  rcases accounts with absent | ⟨run, found, accounts⟩
  · exact .inl absent
  · have stopped := Bool.eq_false_iff.mpr (calm number run found)
    exact .inr ⟨run, found, stopped, accounts.later stopped _⟩

theorem OneLive.closed_settled (oneLive : preview.OneLive)
    (accounts : preview.Accounts number begun) : preview.settled.Closed number begun := by
  rw [Preview.settled]
  split
  · exact keeps_closed.sleep _ (oneLive.calm_stop.closed accounts.stop)
  · next idle => exact (oneLive.calm_of_not_isRunning idle).closed accounts

/-- A run that is installed has begun nothing, and its first step is due at once. -/
theorem Closed.install (closed : preview.Closed number begun) (statements : Chain) :
    (preview.install statements).Accounts number begun := by
  rcases closed with ⟨absent, rfl⟩ | stopped
  · rw [← preview.size_ready] at absent
    rw [Preview.install]
    generalize (preview.call (.color preview.settings.color)).call .clear = settled at absent
    by_cases last : number = settled.runs.size
    · refine .inr ⟨⟨.start statements (settled.settings.dice settled.runs.size), settled.now, none,
        none, none⟩, ?_, Run.Ongoing.accounts
          ⟨rfl, rfl, .inr ⟨List.forall_mem_nil _, .idle ?_⟩, ahead_of_none _⟩⟩
      · rw [last, Array.getElem?_push, if_pos rfl]
      · exact List.forall_mem_singleton.mpr trivial
    · left
      rw [Array.size_push]
      exact ⟨by omega, rfl⟩
  · obtain ⟨run, found, still, accounts⟩ :=
      stopped.install (Run.Accounts.stoppedKeep 0 begun) statements
    exact .inr ⟨run, found, accounts.later still _⟩

theorem Accounts.stopRun (accounts : preview.Accounts number begun) (other : Nat) :
    (preview.stopRun other).Accounts number begun := by
  by_cases own : other = number
  · subst own
    rcases accounts with ⟨absent, none⟩ | ⟨run, found, accounts⟩
    · exact .inl ⟨Array.size_modify.trans_le absent, none⟩
    · refine .inr ⟨run.stop preview.now, ?_, accounts.stop _⟩
      rw [Preview.stopRun, runs_modifyRun, if_pos rfl, found]
      rfl
  · exact (withstands_accounts own preview.now).change (Run.fading_stop _) accounts

/-- Time that moves on past no run leaves the books as they are. -/
theorem Accounts.moveTo (accounts : preview.Accounts number begun) {instant : Nat}
    (keepsTime : preview.KeepsTime number (.moveTo instant)) :
    (preview.moveTo instant).Accounts number begun := by
  by_cases ahead : preview.now < instant
  · rcases accounts with absent | ⟨run, found, accounts⟩
    · exact .inl absent
    · refine .inr ⟨run, found, ?_, accounts.ended⟩
      intro live
      obtain ⟨going, executed, progress, _⟩ := accounts.ongoing live
      obtain ⟨wakesAt, wakes, bound⟩ := keepsTime ahead run found live going
      have reached : instant ≤ wakesAt := Nat.le_trans (Nat.le_max_right _ _) bound
      refine ⟨going, executed, .inr ?_, ?_⟩
      · rw [wakes, Option.getD_some] at progress ⊢
        refine progress.resolve_left fun hangs => ?_
        exact Nat.ne_of_gt (Nat.lt_of_lt_of_le ahead reached) hangs.2
      · intro other same
        cases wakes.symm.trans same
        exact bound
  · have same : preview.moveTo instant = preview := by
      rw [Preview.moveTo, Nat.max_eq_left (Nat.le_of_not_lt ahead)]
    rw [same]
    exact accounts

theorem Accounts.act (accounts : preview.Accounts number begun) (oneLive : preview.OneLive)
    {act : Act} (atomic : act.IsMoment) (keepsTime : preview.KeepsTime number act) :
    (preview.act act).Accounts number (begun ++ preview.begunBy number act) := by
  have nothing (after : Preview) (accounts : after.Accounts number begun) :
      after.Accounts number (begun ++ []) := by
    rw [List.append_nil]
    exact accounts
  cases act with
  | step other =>
      rw [begunBy]
      split
      · next own =>
          rw [own]
          exact accounts.step
      · next different => exact nothing _ (accounts.step_other different)
  | moveTo instant => exact nothing _ (accounts.moveTo keepsTime)
  | sleep milliseconds => exact atomic.elim
  | finish other => exact atomic.elim
  | run program =>
      rw [Preview.act, run_eq_install]
      exact nothing _ ((oneLive.closed_settled accounts).install program.actions)
  | setPin pin high => exact nothing _ accounts
  | togglePin pin => exact nothing _ accounts
  | stop => exact nothing _ accounts.stop
  | stopRun other => exact nothing _ (accounts.stopRun other)

theorem Accounts.follow {acts : List Act} (accounts : preview.Accounts number begun)
    (oneLive : preview.OneLive) (atomic : ∀ act ∈ acts, act.IsMoment)
    (punctual : Punctual number acts preview) :
    (preview.follow acts).Accounts number (begun ++ executions number acts preview) := by
  induction acts generalizing preview begun with
  | nil =>
      rw [executions, List.append_nil]
      exact accounts
  | cons act acts inductionHypothesis =>
      obtain ⟨first, others⟩ := List.forall_mem_cons.mp atomic
      obtain ⟨keepsTime, later⟩ := punctual
      rw [executions, ← List.append_assoc]
      exact inductionHypothesis (accounts.act oneLive first keepsTime) (oneLive.act act) others
        later

end

/-- On virtual time the elapsed time of a run that ends by itself is the sum of what its statements
take. A wait takes what it evaluates to. An animation that has frames and plays for some time takes
the least time that has room for whole rests and is not below what is asked for. All else takes no
time. -/
theorem elapsed_eq_totalDuration {settings : PreviewSettings} {pins : PinBank} {acts : List Act}
    {number : Nat} {report : RunReport} (punctual : Punctual number acts (start settings pins))
    (ended : ((start settings pins).follow acts).report? number = some report)
    (own : report.cancelled = false) :
    let begun := executions number (moments acts (start settings pins)) (start settings pins)
    report.executed = begun.length ∧ report.elapsed = totalDuration begun ∧
      ∀ execution ∈ begun, ∀ folder playFor, execution.statement = .playAnimation folder playFor →
        0 < execution.scene.frames folder → 0 < playFor.toNat →
          let rest := Animation.frameMillis
            ⟨folder, execution.scene.frames folder, playFor.toNat, execution.scene.now, 0⟩
          0 < rest ∧ IsLeast {time | rest ∣ time ∧ playFor.toNat ≤ time} execution.duration := by
  intro begun
  have fresh : (start settings pins).Accounts number [] := .inl ⟨Nat.zero_le _, rfl⟩
  have accounts := fresh.follow (oneLive_follow settings pins []) (isMoment_moments acts _)
    punctual.moments
  rw [follow_moments, List.nil_append] at accounts
  rcases accounts with ⟨absent, _⟩ | ⟨run, found, accounts⟩
  · rw [report?, Array.getElem?_eq_none_iff.mpr absent] at ended
    cases ended
  · rw [report?, found, Option.bind_some] at ended
    obtain ⟨executed, elapsed, ends⟩ := accounts.ended report ended own
    refine ⟨executed, elapsed, ?_⟩
    intro execution member folder playFor plays someFrames some rest
    exact (ends execution member).isLeast_duration plays someFrames some

def swaying : Program :=
  .ofActions <| .link none (.repeatLoop (.number 2) <| .link none (.wait (.number 10)) .nil) <|
    .link none (.playAnimation "sway" 100) .nil

/-- With three frames a frame lasts 33333333 nanoseconds, and so the rest after it 34 milliseconds. -/
def threeFrames : PreviewSettings :=
  { (default : PreviewSettings) with frames := fun _ => 3 }

theorem elapsed_eq_totalDuration_swaying :
    let acts : List Act := [.run swaying, .sleep 15, .finish 0]
    Punctual 0 acts (start threeFrames .low) ∧
      ((start threeFrames .low).follow acts).report? 0 = some ⟨4, 122, false⟩ ∧
        totalDuration (executions 0 (moments acts (start threeFrames .low))
          (start threeFrames .low)) = 10 + 10 + 3 * 34 := by
  intro acts
  have onTime : (((start threeFrames .low).act (.run swaying)).sleep 15).OnTime 0 := by
    have wakes : (((start threeFrames .low).act (.run swaying)).sleep 15).runs[0]?.map
        Run.wakesAt = some (some 20) := by decide +kernel
    have now : (((start threeFrames .low).act (.run swaying)).sleep 15).now = 15 := by
      decide +kernel
    intro run found _ _
    rw [found] at wakes
    rw [now]
    exact ⟨20, Option.some.inj wakes, by decide⟩
  have punctual : Punctual 0 acts (start threeFrames .low) :=
    ⟨trivial, fun _ => onTime, trivial, trivial⟩
  have ended : ((start threeFrames .low).follow acts).report? 0 = some ⟨4, 122, false⟩ := by
    decide +kernel
  exact ⟨punctual, ended, (elapsed_eq_totalDuration punctual ended rfl).2.1.symm⟩

end Preview

end Marquee
