import Marquee.Proofs.Run.Bounded
import Marquee.Proofs.Run.Elapsed
import Marquee.Proofs.Run.Undisturbed

/-!
# Runs that come to an end

A run goes on again and again, and in between other things happen: other runs take steps, time moves
on, pins change, and the run may be stopped. If its program has no open loops, and each frame of the
animations that it shows lasts for a nanosecond at least, it comes to an end.
-/

namespace Marquee

/-- Something that happens beside the run: it does not take a step itself, and nothing is
started. -/
def Act.IsBeside (number : Nat) : Act → Prop
  | .step other => other ≠ number
  | .sleep _ => False
  | .finish _ => False
  | .run _ => False
  | _ => True

/-- What a run keeps while it does not take a step. -/
structure Run.Rests (origin run : Run) : Prop where
  machine : run.machine = origin.machine
  wakesAt : run.wakesAt = origin.wakesAt
  report : run.report = origin.report
  stopped : origin.isLive = false → run.isLive = false

theorem Run.Rests.refl (run : Run) : run.Rests run :=
  ⟨rfl, rfl, rfl, id⟩

theorem Run.Rests.stop {origin run : Run} (rests : origin.Rests run) (now : Nat) :
    origin.Rests (run.stop now) :=
  ⟨rests.machine, rests.wakesAt, rests.report, fun _ => rfl⟩

namespace Preview

/-- The preview after a run has gone on so many times, and after what happens each time before it
goes on. -/
def courseAmid (number : Nat) (outside : Nat → List Act) (preview : Preview) : Nat → Preview
  | 0 => preview.follow (outside 0)
  | moment + 1 =>
    ((courseAmid number outside preview moment).proceed number).follow (outside (moment + 1))

/-- If nothing happens, the run is left to itself. -/
theorem courseAmid_nil (number : Nat) (preview : Preview) (moment : Nat) :
    courseAmid number (fun _ => []) preview moment = preview.course number moment := by
  induction moment with
  | zero => rfl
  | succ moment inductionHypothesis =>
      rw [course_succ, ← inductionHypothesis]
      rfl

section

variable {number : Nat} {preview : Preview} {outside : Nat → List Act}

/-- What lasts is the same at each moment. -/
theorem Lasts.courseAmid {kept : Preview → Prop} (lasts : Lasts kept) (holds : kept preview)
    (moment : Nat) : kept (courseAmid number outside preview moment) := by
  have proceed {preview : Preview} (holds : kept preview) : kept (preview.proceed number) := by
    rw [Preview.proceed]
    split
    · exact holds
    · split
      · exact (lasts.withstands number).step holds
      · split
        · exact lasts.moveTo _ holds
        · exact holds
  induction moment with
  | zero => exact lasts.follow _ holds
  | succ moment inductionHypothesis => exact lasts.follow _ (proceed inductionHypothesis)

/-- A statement is begun with the frames that the preview was given. -/
theorem frames_of_begins? {execution : Execution} (begun : execution ∈ preview.begins? number) :
    execution.scene.frames = preview.settings.frames := by
  rw [begins?] at begun
  obtain ⟨run, _, taken⟩ := Option.bind_eq_some_iff.mp begun
  split at taken
  · rw [Machine.begins?] at taken
    split at taken
    · split at taken
      · cases taken
      · cases taken
        rfl
    · cases taken
  · cases taken

private theorem exists_beside {act : Act} (beside : act.IsBeside number) {origin : Run}
    (rests : ∃ run, preview.runs[number]? = some run ∧ origin.Rests run) :
    (∃ run, (preview.act act).runs[number]? = some run ∧ origin.Rests run) ∧
      preview.now ≤ (preview.act act).now := by
  have stops (run : Run) (now : Nat) (same : origin.Rests run) : origin.Rests (run.stop now) :=
    same.stop now
  cases act with
  | step other =>
      refine ⟨(withstands_kept beside stops).step rests, ?_⟩
      exact Nat.le_of_eq ((withstands_now other preview.now).step rfl).symm
  | moveTo instant => exact ⟨rests, Nat.le_max_left _ _⟩
  | sleep milliseconds => exact beside.elim
  | finish other => exact beside.elim
  | run program => exact beside.elim
  | setPin pin high => exact ⟨rests, Nat.le_refl _⟩
  | togglePin pin => exact ⟨rests, Nat.le_refl _⟩
  | stop =>
      refine ⟨(withstands_kept (Nat.succ_ne_self number) stops).stop rests, ?_⟩
      exact Nat.le_of_eq ((withstands_now number preview.now).stop rfl).symm
  | stopRun other =>
      refine ⟨?_, Nat.le_refl _⟩
      by_cases own : other = number
      · obtain ⟨run, found, same⟩ := rests
        refine ⟨run.stop preview.now, ?_, stops run _ same⟩
        rw [Preview.act, stopRun, runs_modifyRun, if_pos own, found]
        rfl
      · exact (withstands_kept own stops).change (Run.fading_stop _) rests

/-- Whatever happens beside a run, its machine waits, and time does not go back. -/
theorem exists_beside_follow {acts : List Act} (beside : ∀ act ∈ acts, act.IsBeside number)
    {origin : Run} (found : preview.runs[number]? = some origin) :
    (∃ run, (preview.follow acts).runs[number]? = some run ∧ origin.Rests run) ∧
      preview.now ≤ (preview.follow acts).now := by
  apply follow_induction (motive := fun after =>
    (∃ run, after.runs[number]? = some run ∧ origin.Rests run) ∧ preview.now ≤ after.now)
  · intro act member after ⟨rests, passed⟩
    obtain ⟨restsThen, later⟩ := exists_beside (beside act member) rests
    exact ⟨restsThen, Nat.le_trans passed later⟩
  · exact ⟨⟨origin, found, .refl origin⟩, Nat.le_refl _⟩

/-- Acts other than stops disturb no run. -/
theorem Undisturbed.act (undisturbed : preview.Undisturbed number) {act : Act}
    (beside : act.IsBeside number) (unstopped : act ≠ .stop) (going : act ≠ .stopRun number) :
    (preview.act act).Undisturbed number := by
  cases act with
  | step other => exact undisturbed.step other
  | moveTo instant => exact ⟨undisturbed.reactions, undisturbed.live⟩
  | sleep milliseconds => exact beside.elim
  | finish other => exact beside.elim
  | run program => exact beside.elim
  | setPin pin high => exact ⟨undisturbed.reactions, undisturbed.live⟩
  | togglePin pin => exact ⟨undisturbed.reactions, undisturbed.live⟩
  | stop => exact absurd rfl unstopped
  | stopRun other =>
      apply undisturbed.modifyRun
      rintro _ _ rfl
      exact absurd rfl going

/-- Nothing stops the run, neither from outside nor during a call. -/
theorem Undisturbed.courseAmid (undisturbed : preview.Undisturbed number)
    (beside : ∀ moment, ∀ act ∈ outside moment, act.IsBeside number)
    (unstopped : ∀ moment, .stop ∉ outside moment ∧ .stopRun number ∉ outside moment)
    (moment : Nat) : (courseAmid number outside preview moment).Undisturbed number := by
  have follow {preview : Preview} (moment : Nat) (undisturbed : preview.Undisturbed number) :
      (preview.follow (outside moment)).Undisturbed number := by
    refine follow_induction (motive := fun after => after.Undisturbed number)
      (fun act member after undisturbed => ?_) undisturbed
    obtain ⟨noStop, noStopRun⟩ := unstopped moment
    refine undisturbed.act (beside moment act member) ?_ ?_
    · rintro rfl
      exact noStop member
    · rintro rfl
      exact noStopRun member
  induction moment with
  | zero => exact follow 0 undisturbed
  | succ moment inductionHypothesis => exact follow _ inductionHypothesis.proceed

/-! ## The end of a run -/

/-- A run to which a request is granted is due when it has been held up. -/
theorem exists_granted {run : Run} (found : preview.runs[number]? = some run)
    (awake : run.wakesAt = none) (request : Request) :
    ∃ after, (preview.grant number request).1.runs[number]? = some after ∧
      after.machine = run.machine ∧ after.report = run.report ∧
      (run.isLive = false → after.isLive = false) ∧
      preview.now + request.pause ≤ after.wakesAt.getD (preview.grant number request).1.now := by
  have now : (preview.grant number request).1.now = preview.now :=
    (withstands_now number preview.now).grant request rfl
  by_cases rests : ∃ milliseconds, request = .rest milliseconds
  · obtain ⟨milliseconds, rfl⟩ := rests
    refine ⟨{ run with wakesAt := some (preview.now + milliseconds) }, ?_, rfl, rfl, id,
      Nat.le_refl _⟩
    rw [grant, runs_modifyRun, if_pos rfl, found]
    rfl
  · have restless : request.pause = 0 := by
      cases request with
      | rest milliseconds => exact absurd ⟨milliseconds, rfl⟩ rests
      | _ => rfl
    have stops (after : Run) (now : Nat) (same : run.Rests after) : run.Rests (after.stop now) :=
      same.stop now
    obtain ⟨after, afterFound, same⟩ := grant_kept stops
      (fun milliseconds same => rests ⟨milliseconds, same⟩) ⟨run, found, .refl run⟩
    refine ⟨after, afterFound, same.machine, same.report, same.stopped, ?_⟩
    rw [restless, same.wakesAt, awake, Option.getD_none, now]
    exact Nat.le_refl _

/-- The run has come to its end, and is reported as cancelled if it was not live before. -/
def Ends (preview : Preview) (number : Nat) (run : Run) : Prop :=
  ∃ report, preview.report? number = some report ∧ report.cancelled = !run.isLive

/-- The run has gone on with this machine, and its next step is not due before this instant. -/
def GoesOn (preview : Preview) (number : Nat) (run : Run) (machine : Machine) (due : Nat) : Prop :=
  ∃ later, preview.runs[number]? = some later ∧ later.machine = machine ∧ later.report = none ∧
    (run.isLive = false → later.isLive = false) ∧ due ≤ later.wakesAt.getD preview.now

/-- What happens beside the run does not make its step due. -/
theorem goesOn_follow {acts : List Act} (beside : ∀ act ∈ acts, act.IsBeside number) {run : Run}
    {machine : Machine} {due : Nat} (goesOn : preview.GoesOn number run machine due) :
    (preview.follow acts).GoesOn number run machine due := by
  obtain ⟨later, found, same, going, stopped, reached⟩ := goesOn
  obtain ⟨⟨last, lastFound, rests⟩, passed⟩ := exists_beside_follow beside found
  refine ⟨last, lastFound, rests.machine.trans same, rests.report.trans going,
    fun unlive => rests.stopped (stopped unlive), ?_⟩
  rw [rests.wakesAt]
  cases wakes : later.wakesAt with
  | none =>
      rw [wakes] at reached
      exact Nat.le_trans reached passed
  | some wakesAt =>
      rw [wakes] at reached
      exact reached

/-- A run that is ready comes to its end, or its machine takes a step. -/
theorem ends_or_goesOn {acts : List Act} (beside : ∀ act ∈ acts, act.IsBeside number) {run : Run}
    (found : preview.runs[number]? = some run) (ready : run.isReady preview.now) :
    ((preview.proceed number).follow acts).Ends number run ∨
      ∃ request next, run.machine.step (preview.scene run) = some (request, next) ∧
        ((preview.proceed number).follow acts).GoesOn number run next
          (preview.now + request.pause) := by
  have going := Run.going_of_isReady ready
  rw [proceed_of_ready found ready]
  cases takes : run.machine.step (preview.scene run) with
  | none =>
      left
      rw [step_of_end found ready takes]
      have finished : (preview.modifyRun number fun run => run.finish preview.now).runs[number]? =
          some (run.finish preview.now) := by
        rw [runs_modifyRun, if_pos rfl, found]
        rfl
      obtain ⟨⟨later, laterFound, rests⟩, _⟩ := exists_beside_follow beside finished
      refine ⟨⟨run.machine.executed, run.elapsed preview.now, !run.isLive⟩, ?_, rfl⟩
      rw [report?, laterFound, Option.bind_some, rests.report]
      rfl
  | some taken =>
      right
      obtain ⟨request, machine⟩ := taken
      refine ⟨request, machine, rfl, goesOn_follow beside ?_⟩
      rw [step_of_request found ready takes]
      have resumed : (preview.modifyRun number fun run =>
          { run with machine, wakesAt := none }).runs[number]? =
            some { run with machine, wakesAt := none } := by
        rw [runs_modifyRun, if_pos rfl, found]
        rfl
      obtain ⟨after, afterFound, same, report, stopped, reached⟩ :=
        exists_granted resumed rfl request
      exact ⟨after, afterFound, same, report.trans going, stopped, reached⟩

/-- At this moment the run is going on, and after it the run has come to its end. -/
def EndsWith (number : Nat) (points : Nat → Preview) (moment : Nat) : Prop :=
  ∃ run, (points moment).runs[number]? = some run ∧ run.report = none ∧
    (points (moment + 1)).Ends number run

section

variable (beside : ∀ moment, ∀ act ∈ outside moment, act.IsBeside number) {run : Run} {moment : Nat}

include beside

/-- A stopped run takes no more steps than it has tasks. -/
theorem exists_end_of_stopped
    (found : (courseAmid number outside preview moment).runs[number]? = some run)
    (going : run.report = none) (stopped : run.isLive = false) :
    ∃ last, EndsWith number (courseAmid number outside preview) last := by
  generalize measure : run.machine.tasks.length = left
  induction left using Nat.strong_induction_on generalizing moment run with
  | _ left inductionHypothesis =>
      have ready : run.isReady (courseAmid number outside preview moment).now :=
        isReady_of_stopped stopped going
      rcases ends_or_goesOn (beside (moment + 1)) found ready with
        ends | ⟨request, next, takes, later, laterFound, rfl, laterGoing, stops, _⟩
      · exact ⟨moment, run, found, going, ends⟩
      · change (courseAmid number outside preview (moment + 1)).runs[number]? = some later
          at laterFound
        apply inductionHypothesis _ _ laterFound laterGoing (stops stopped) rfl
        have stoppedScene : ((courseAmid number outside preview moment).scene run).stopped := by
          simp [scene, stopped]
        rw [Machine.step] at takes
        split at takes
        · cases takes
        · next task rest tasks =>
            obtain ⟨_, performed, _⟩ :=
              Machine.perform_stopped stoppedScene { run.machine with tasks := rest } task
            rw [performed] at takes
            rw [← (Prod.mk.inj (Option.some.inj takes)).2, ← measure, tasks]
            exact Nat.lt_succ_self _

/-- A run that is ready comes to an end if it does so after the step that it takes. -/
theorem exists_end_of_ready
    (found : (courseAmid number outside preview moment).runs[number]? = some run)
    (ready : run.isReady (courseAmid number outside preview moment).now)
    (onward : run.isLive → ∀ request next,
      run.machine.step ((courseAmid number outside preview moment).scene run) =
          some (request, next) →
        (courseAmid number outside preview (moment + 1)).GoesOn number run next
            ((courseAmid number outside preview moment).now + request.pause) →
          ∃ last, EndsWith number (courseAmid number outside preview) last) :
    ∃ last, EndsWith number (courseAmid number outside preview) last := by
  have going := Run.going_of_isReady ready
  cases live : run.isLive with
  | false => exact exists_end_of_stopped beside found going live
  | true =>
      rcases ends_or_goesOn (beside (moment + 1)) found ready with
        ended | ⟨request, next, takes, goesOn⟩
      · exact ⟨moment, run, found, going, ended⟩
      · exact onward live request next takes goesOn

/-- A live run that goes on is ready at this moment or at the next one, and not before it is due. -/
theorem exists_ready
    (found : (courseAmid number outside preview moment).runs[number]? = some run)
    (going : run.report = none) (live : run.isLive) :
    ∃ later awake, (courseAmid number outside preview later).runs[number]? = some awake ∧
      awake.isReady (courseAmid number outside preview later).now ∧
      awake.machine = run.machine ∧
      run.wakesAt.getD (courseAmid number outside preview moment).now ≤
        (courseAmid number outside preview later).now := by
  by_cases ready : run.isReady (courseAmid number outside preview moment).now
  · refine ⟨moment, run, found, ready, rfl, ?_⟩
    cases wakes : run.wakesAt with
    | none => exact Nat.le_refl _
    | some wakesAt =>
        rw [Run.isReady, wakes, Bool.and_eq_true] at ready
        simpa [live] using ready.2
  · obtain ⟨wakesAt, wakes, wake⟩ := Run.exists_wake going ready
    have moved := proceed_of_wake found ready wake
    have stays : ((courseAmid number outside preview moment).proceed number).runs[number]? =
        some run := by
      rw [moved]
      exact found
    obtain ⟨⟨awake, awakeFound, rests⟩, passed⟩ :=
      exists_beside_follow (beside (moment + 1)) stays
    have woken : wakesAt ≤ (courseAmid number outside preview (moment + 1)).now := by
      refine Nat.le_trans ?_ passed
      rw [moved]
      exact Nat.le_max_right _ _
    refine ⟨moment + 1, awake, awakeFound, ?_, rests.machine, wakes ▸ woken⟩
    exact Run.isReady_of_wake (rests.report.trans going) (rests.wakesAt.trans wakes) woken

/-- A run whose tasks expire comes to an end, since after each step it has tasks that expire. -/
theorem exists_end_of_expires {tasks : List Task} {due : Nat} (expires : Expires tasks due)
    (ends : ∀ moment, ∀ execution ∈ (courseAmid number outside preview moment).begins? number,
      execution.Ends)
    (found : (courseAmid number outside preview moment).runs[number]? = some run)
    (going : run.report = none) (same : run.machine.tasks = tasks)
    (reached : due ≤ run.wakesAt.getD (courseAmid number outside preview moment).now) :
    ∃ last, EndsWith number (courseAmid number outside preview) last := by
  induction expires generalizing moment run with
  | @intro tasks due onward inductionHypothesis =>
      cases live : run.isLive with
      | false => exact exists_end_of_stopped beside found going live
      | true =>
          obtain ⟨later, awake, awakeFound, ready, machine, passed⟩ :=
            exists_ready beside found going live
          refine exists_end_of_ready beside awakeFound ready ?_
          intro awakeLive request next takes goesOn
          obtain ⟨last, lastFound, rfl, lastGoing, _, lastDue⟩ := goesOn
          have unstopped :
              ((courseAmid number outside preview later).scene awake).stopped = false := by
            simp [scene, awakeLive]
          refine inductionHypothesis awake.machine _ request last.machine (machine ▸ same)
            unstopped (Nat.le_trans reached passed) ?_ takes lastFound lastGoing rfl lastDue
          intro execution begun
          apply ends later execution
          rw [begins?_of_found awakeFound ready]
          exact begun

end

/-- The run that a start has installed. -/
theorem exists_started (origin : Preview) (program : Program) :
    ∃ instant dice, (origin.run program).runs[origin.settled.runs.size]? =
      some ⟨.start program.actions dice, instant, none, none, none⟩ := by
  rw [run_eq_install, install, ← origin.settled.size_ready]
  exact ⟨_, _, Array.getElem?_push_size⟩

end

/-- The run of a program without open loops comes to an end, whatever happens beside it, if the
frames of all animations that it shows last for a nanosecond at least. If nobody stops it, it is not
reported as cancelled. -/
theorem exists_report_of_bounded (origin : Preview) {program : Program}
    (bounded : program.actions.IsBounded) {outside : Nat → List Act}
    (beside : ∀ moment, ∀ act ∈ outside moment, act.IsBeside origin.settled.runs.size)
    (shares : ∀ moment, ∀ execution ∈ (courseAmid origin.settled.runs.size outside
        (origin.run program) moment).begins? origin.settled.runs.size,
      ∀ folder playFor, execution.statement = .playAnimation folder playFor →
        playFor = 0 ∨ origin.settings.frames folder = 0 ∨
          min (origin.settings.frames folder) (wordLimit - 1) ≤ playFor.toNat * 1000000) :
    ∃ moment report, (courseAmid origin.settled.runs.size outside (origin.run program)
        moment).report? origin.settled.runs.size = some report ∧
      ((∀ call, .stop ∉ origin.settings.reactions call) →
        (∀ moment, .stop ∉ outside moment ∧ .stopRun origin.settled.runs.size ∉ outside moment) →
          report.cancelled = false) := by
  obtain ⟨instant, dice, started⟩ := origin.exists_started program
  generalize origin.settled.runs.size = number at *
  have lasts := lasts_settings origin.settings
  have settings : (origin.run program).settings = origin.settings := lasts.act (.run program) rfl
  have ends (moment : Nat) : ∀ execution ∈ (courseAmid number outside (origin.run program)
      moment).begins? number, execution.Ends := by
    intro execution begun
    have frames : execution.scene.frames = origin.settings.frames := by
      rw [frames_of_begins? begun, lasts.courseAmid settings moment]
    apply Execution.ends_of_share
    rw [frames]
    exact shares moment execution begun
  have undisturbed (quiet : ∀ call, .stop ∉ origin.settings.reactions call) :
      (origin.run program).Undisturbed number := by
    refine ⟨settings ▸ quiet, ?_⟩
    intro run found _
    cases started.symm.trans found
    rfl
  obtain ⟨⟨run, found, rests⟩, _⟩ := exists_beside_follow (beside 0) started
  change (courseAmid number outside (origin.run program) 0).runs[number]? = some run at found
  have tasks : run.machine.tasks = [.chain program.actions] := by
    rw [rests.machine]
    rfl
  obtain ⟨last, own, ownFound, going, report, reported, cancelled⟩ :=
    exists_end_of_expires beside (expires_start bounded 0) ends found rests.report tasks
      (Nat.zero_le _)
  refine ⟨last + 1, report, reported, ?_⟩
  intro quiet unstopped
  have live := ((undisturbed quiet).courseAmid beside unstopped last).live own ownFound going
  rw [cancelled, live]
  rfl

/-- Shows an animation twice. -/
def revolving : Program :=
  .ofActions <| .link none (.repeatLoop (.number 2) <|
    .link none (.playAnimation "spin" 100) <| .link none (.wait (.number 5)) .nil) .nil

theorem exists_report_of_bounded_revolving :
    let outside : Nat → List Act := fun moment => if moment = 3 then [.setPin 5 true] else []
    revolving.actions.IsBounded ∧ ∃ moment report,
      (courseAmid 0 outside ((start threeFrames .low).run revolving) moment).report? 0 =
        some report ∧ report.cancelled = false := by
  intro outside
  have bounded : revolving.actions.IsBounded := by
    simp [revolving, Program.ofActions, Chain.IsBounded, Statement.IsBounded]
  have pins (moment : Nat) : outside moment = [.setPin 5 true] ∨ outside moment = [] := by
    by_cases third : moment = 3
    · exact .inl (if_pos third)
    · exact .inr (if_neg third)
  have beside (moment : Nat) : ∀ act ∈ outside moment, act.IsBeside 0 := by
    rcases pins moment with same | same <;> simp [same, Act.IsBeside]
  have unstopped (moment : Nat) : .stop ∉ outside moment ∧ .stopRun 0 ∉ outside moment := by
    rcases pins moment with same | same <;> simp [same]
  obtain ⟨moment, report, reported, cancelled⟩ :=
    exists_report_of_bounded (start threeFrames .low) bounded beside
      (by
        intro moment execution _ folder playFor _
        by_cases none : playFor = 0
        · exact .inl none
        · have some : 0 < playFor.toNat := Nat.pos_of_ne_zero fun zero =>
            none (UInt64.toNat_inj.mp zero)
          refine .inr (.inr (Nat.le_trans (Nat.min_le_left _ _) ?_))
          change 3 ≤ playFor.toNat * 1000000
          omega)
  exact ⟨bounded, moment, report, reported, cancelled (fun _ => List.not_mem_nil) unstopped⟩

end Preview

end Marquee
