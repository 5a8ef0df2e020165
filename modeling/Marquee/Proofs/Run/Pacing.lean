import Marquee.Proofs.Run.Clocks
import Marquee.Proofs.Run.Course
import Marquee.Proofs.Run.Frames
import Marquee.Proofs.Run.Isolation
import Marquee.Proofs.Run.Starts

/-!
# The pace of an animation

On virtual time an animation that is not stopped shows its frames at equal intervals from the instant
at which it begins, and nothing else is called meanwhile. It ends with the rest after its last frame.
-/

namespace Marquee

/-- The calls that show so many frames at a pace, from an instant on. -/
def timetable (since pace frames : Nat) (folder : String) (count : Nat) :
    List (Nat × PanelCall) :=
  (List.range count).map fun shown => (since + pace * shown, .frame folder (shown % frames))

private theorem timetable_succ (since pace frames : Nat) (folder : String) (count : Nat) :
    timetable since pace frames folder (count + 1) =
      timetable since pace frames folder count ++
        [(since + pace * count, .frame folder (count % frames))] := by
  rw [timetable, List.range_succ, List.map_append]
  rfl

/-- No frame comes twice as long as there are enough of them. -/
theorem nodup_timetable (since pace : Nat) (folder : String) {frames count : Nat}
    (enough : count ≤ frames) :
    ((timetable since pace frames folder count).map Prod.snd).Nodup := by
  rw [timetable, List.map_map]
  apply List.Nodup.map_on _ List.nodup_range
  intro first firstMember second secondMember same
  have firstBound := Nat.lt_of_lt_of_le (List.mem_range.mp firstMember) enough
  have secondBound := Nat.lt_of_lt_of_le (List.mem_range.mp secondMember) enough
  injection same with _ index
  rwa [Nat.mod_eq_of_lt firstBound, Nat.mod_eq_of_lt secondBound] at index

namespace Preview

/-- The run was stopped, and if it has ended since, it was cancelled. -/
def CutOff (preview : Preview) (number : Nat) : Prop :=
  preview.Stopped number fun run => ∀ report, run.report = some report → report.cancelled

private theorem stoppedKeep_cancelled :
    StoppedKeep fun run => ∀ report, run.report = some report → report.cancelled where
  stop _ cancelled := cancelled
  unwind := by
    intro run now stopped cancelled
    rw [Run.unwind]
    split
    · rintro _ ⟨rfl⟩
      simp [stopped]
    · exact cancelled

/-- The run is as it was, no time has passed, and nothing was called. -/
structure Unmoved (number : Nat) (before after : Preview) : Prop where
  run : after.runs[number]? = before.runs[number]?
  now : after.now = before.now
  calls : after.calls = before.calls
  settings : after.settings = before.settings

section

variable {preview : Preview} {number : Nat} {run : Run}

private theorem unmoved_modifyRun {other : Nat} (different : other ≠ number) (change : Run → Run) :
    Unmoved number preview (preview.modifyRun other change) :=
  ⟨by rw [runs_modifyRun, if_neg different], rfl, rfl, rfl⟩

/-- While a run is live, what happens beside its steps and beside moves of time stops it or leaves it
unmoved. -/
theorem OneLive.cutOff_or_unmoved (oneLive : preview.OneLive)
    (found : preview.runs[number]? = some run) (live : run.isLive) {act : Act}
    (atomic : act.IsMoment) (notOwn : act ≠ .step number)
    (timeless : ∀ instant, act ≠ .moveTo instant) :
    (preview.act act).CutOff number ∨ Unmoved number preview (preview.act act) := by
  obtain ⟨current, going⟩ := oneLive number run found live
  have stopped : (preview.stopRun number).CutOff number := by
    refine ⟨run.stop preview.now, ?_, rfl, ?_⟩
    · rw [stopRun, runs_modifyRun, if_pos rfl, found]
      rfl
    · intro report ended
      cases going.symm.trans ended
  cases act with
  | step other =>
      right
      have different : other ≠ number := fun own => notOwn (by rw [own])
      rw [Preview.act]
      cases otherFound : preview.runs[other]? with
      | none =>
          rw [step_of_none otherFound]
          exact ⟨rfl, rfl, rfl, rfl⟩
      | some otherRun =>
          have otherStopped : otherRun.isLive = false := by
            apply Bool.eq_false_iff.mpr
            intro otherLive
            have otherCurrent := (oneLive other otherRun otherFound otherLive).1
            rw [current] at otherCurrent
            exact different (Option.some.inj otherCurrent).symm
          rw [step_stopped otherFound otherStopped]
          split
          · exact ⟨rfl, rfl, rfl, rfl⟩
          · exact unmoved_modifyRun different _
  | moveTo instant => exact absurd rfl (timeless instant)
  | sleep milliseconds => exact atomic.elim
  | finish other => exact atomic.elim
  | run program =>
      left
      rw [Preview.act, run_eq_install, Preview.settled]
      refine Stopped.install ?_ stoppedKeep_cancelled _
      have running : preview.isRunning := by
        rw [isRunning, status, currentRun?, current, Option.bind_some, found]
        dsimp only
        rw [if_pos live]
        rfl
      rw [if_pos running, Preview.stop, current]
      exact stoppedKeep_cancelled.keeps.sleep _ stopped
  | setPin pin high => exact .inr ⟨rfl, rfl, rfl, rfl⟩
  | togglePin pin => exact .inr ⟨rfl, rfl, rfl, rfl⟩
  | stop =>
      left
      rw [Preview.act, Preview.stop, current]
      exact stopped
  | stopRun other =>
      by_cases own : other = number
      · rw [own]
        exact .inl stopped
      · exact .inr (unmoved_modifyRun own _)

end

end Preview

/-! ## While the animation plays -/

/-- The run with one more statement begun, these tasks, and this instant at which it wakes. -/
def Run.onward (run : Run) (tasks : List Task) (wakesAt : Option Nat) : Run :=
  { run with
    machine := { run.machine with tasks, executed := run.machine.executed + 1 }
    wakesAt }

/-- The calls of an animation for its first frames. -/
def Animation.calls (animation : Animation) (shown : Nat) : List (Nat × PanelCall) :=
  timetable animation.startedAt animation.frameMillis animation.frames animation.folder shown

namespace Preview

/-- The preview after the run has taken a step that leaves these tasks, before anything is granted. -/
def carryOn (preview : Preview) (number : Nat) (run : Run) (tasks : List Task) : Preview :=
  preview.modifyRun number fun old =>
    { old with machine := (run.onward tasks none).machine, wakesAt := none }

/-- A run is about to begin an animation. -/
structure Begins (origin : Preview) (number : Nat) (run : Run) (animation : Animation)
    (below : List Task) : Prop where
  oneLive : origin.OneLive
  found : origin.runs[number]? = some run
  live : run.isLive
  ready : run.isReady origin.now
  step : ∀ pins, run.machine.step { origin.scene run with pins } =
    some (.nothing, (run.onward (.animation animation :: below) none).machine)
  startedAt : animation.startedAt = origin.now
  fresh : animation.shown = 0
  paced : 0 < animation.frameMillis

/-- The run has played the animation and is past it. -/
structure Over (origin : Preview) (number : Nat) (run : Run) (animation : Animation)
    (below : List Task) (preview : Preview) : Prop where
  found : preview.runs[number]? = some (run.onward below none)
  now : preview.now = animation.startedAt + animation.span
  calls : preview.calls.toList = origin.calls.toList ++ animation.calls animation.count

/-- The run plays the animation, and has shown so many frames. -/
structure Plays (origin : Preview) (number : Nat) (run : Run) (animation : Animation)
    (below : List Task) (shown : Nat) (tasks : List Task) (wakesAt : Option Nat)
    (preview : Preview) : Prop where
  found : preview.runs[number]? = some (run.onward tasks wakesAt)
  playing : animation.Playing below tasks (wakesAt.getD preview.now) shown
  ahead : ∀ instant, wakesAt = some instant → preview.now ≤ instant
  bound : shown ≤ animation.count
  calls : preview.calls.toList = origin.calls.toList ++ animation.calls shown
  since : animation.startedAt ≤ preview.now
  recent : animation.startedAt + animation.frameMillis * shown ≤
    preview.now + animation.frameMillis

/-- The run is about to begin the animation, or plays it. -/
inductive Underway (origin : Preview) (number : Nat) (run : Run) (animation : Animation)
    (below : List Task) (preview : Preview) : Prop where
  | begins (unmoved : Unmoved number origin preview)
  | plays {shown : Nat} {tasks : List Task} {wakesAt : Option Nat}
      (plays : Plays origin number run animation below shown tasks wakesAt preview)

section

variable {origin preview : Preview} {number : Nat} {run : Run} {animation : Animation}
  {below : List Task}

theorem Underway.found (underway : Underway origin number run animation below preview)
    (begins : Begins origin number run animation below) :
    ∃ now, preview.runs[number]? = some now ∧ now.isLive ∧ now.report = none := by
  have going := (begins.oneLive number run begins.found begins.live).2
  cases underway with
  | begins unmoved => exact ⟨run, unmoved.run.trans begins.found, begins.live, going⟩
  | plays plays => exact ⟨_, plays.found, begins.live, going⟩

theorem Plays.now_le {shown : Nat} {tasks : List Task} {wakesAt : Option Nat}
    (plays : Plays origin number run animation below shown tasks wakesAt preview) :
    preview.now ≤ animation.startedAt + animation.frameMillis * shown := by
  apply Nat.le_trans _ plays.playing.due_le
  cases wakes : wakesAt with
  | none => exact Nat.le_refl _
  | some instant => exact plays.ahead instant wakes

theorem Underway.of_unmoved (underway : Underway origin number run animation below preview)
    {after : Preview} (unmoved : Unmoved number preview after) :
    Underway origin number run animation below after := by
  obtain ⟨sameRun, now, calls, settings⟩ := unmoved
  cases underway with
  | begins start =>
      exact .begins ⟨sameRun.trans start.run, now.trans start.now, calls.trans start.calls,
        settings.trans start.settings⟩
  | plays plays =>
      obtain ⟨found, playing, ahead, bound, called, since, recent⟩ := plays
      rw [← now] at playing ahead since recent
      rw [← calls] at called
      exact .plays ⟨sameRun.trans found, playing, ahead, bound, called, since, recent⟩

theorem Begins.plays_step (begins : Begins origin number run animation below)
    (unmoved : Unmoved number origin preview) :
    Plays origin number run animation below 0 (.animation animation :: below) none
      (preview.step number).1 := by
  have found : preview.runs[number]? = some run := unmoved.run.trans begins.found
  have ready : run.isReady preview.now := by
    rw [unmoved.now]
    exact begins.ready
  have scene : preview.scene run = { origin.scene run with pins := preview.pins } := by
    rw [Preview.scene, unmoved.now, unmoved.settings]
    rfl
  have takes := begins.step preview.pins
  rw [← scene] at takes
  have now : preview.now = animation.startedAt := unmoved.now.trans begins.startedAt.symm
  have playing : animation.Playing below (.animation animation :: below) animation.startedAt 0 :=
    Animation.playing_begun begins.fresh
  rw [step_of_request found ready takes, grant]
  refine ⟨?_, ?_, ahead_of_none _, Nat.zero_le _, ?_, Nat.le_of_eq now.symm, ?_⟩
  · rw [runs_modifyRun, if_pos rfl, found]
    rfl
  · rw [← now] at playing
    exact playing
  · exact (congrArg Array.toList unmoved.calls).trans (List.append_nil _).symm
  · rw [← now, Nat.mul_zero]
    exact Nat.le_add_right _ _

theorem Plays.rest {shown pause : Nat} {tasks next : List Task} {wakesAt : Option Nat}
    (plays : Plays origin number run animation below shown tasks wakesAt preview)
    (playing : animation.Playing below next (preview.now + pause) shown) :
    Plays origin number run animation below shown next (some (preview.now + pause))
      ((preview.carryOn number run next).grant number (.rest pause)).1 := by
  rw [grant, carryOn]
  refine ⟨?_, playing, ?_, plays.bound, plays.calls, plays.since, plays.recent⟩
  · rw [runs_modifyRun, if_pos rfl, runs_modifyRun, if_pos rfl, plays.found]
    rfl
  · rintro _ ⟨rfl⟩
    exact Nat.le_add_right _ _

/-- A call of the panel for the next frame. -/
theorem Plays.frame {shown : Nat} {tasks next : List Task} {wakesAt : Option Nat}
    (plays : Plays origin number run animation below shown tasks wakesAt preview)
    (more : shown < animation.count)
    (due : preview.now = animation.startedAt + animation.frameMillis * shown)
    (playing : animation.Playing below next preview.now (shown + 1)) {after : Preview}
    (found : after.runs[number]? = some (run.onward next none)) (now : after.now = preview.now)
    (calls : after.calls = preview.calls.push
      (preview.now, .frame animation.folder (shown % animation.frames))) :
    Plays origin number run animation below (shown + 1) next none after := by
  refine ⟨found, ?_, ahead_of_none _, more, ?_, ?_, ?_⟩
  · rw [Option.getD_none, now]
    exact playing
  · rw [calls, Array.toList_push, plays.calls, List.append_assoc, due, Animation.calls,
      Animation.calls, timetable_succ]
  · rw [now]
    exact plays.since
  · rw [now, due, Nat.mul_succ, Nat.add_assoc]

/-- A run that is ready takes its step when it is due. -/
theorem Plays.exists_step {shown : Nat} {tasks : List Task} {wakesAt : Option Nat}
    (plays : Plays origin number run animation below shown tasks wakesAt preview)
    (begins : Begins origin number run animation below)
    (ready : (run.onward tasks wakesAt).isReady preview.now) :
    wakesAt.getD preview.now = preview.now ∧ ∃ request next,
      Animation.Playing.Steps animation below shown preview.now request next ∧
        preview.step number = (preview.carryOn number run next).grant number request := by
  have live : (run.onward tasks wakesAt).isLive := begins.live
  have going : (preview.scene (run.onward tasks wakesAt)).stopped = false := by
    simp [scene, live]
  have due : wakesAt.getD preview.now = preview.now := due_of_ready live ready plays.ahead
  have playing := plays.playing
  rw [due] at playing
  have playingHere : animation.Playing below (run.onward tasks wakesAt).machine.tasks
      (preview.scene (run.onward tasks wakesAt)).now shown := playing
  obtain ⟨request, next, takes, steps⟩ := playingHere.step begins.paced plays.bound going
  exact ⟨due, request, next, steps, step_of_request plays.found ready takes⟩

theorem Plays.carryOn {shown : Nat} {tasks : List Task} {wakesAt : Option Nat}
    (plays : Plays origin number run animation below shown tasks wakesAt preview)
    (next : List Task) :
    (preview.carryOn number run next).runs[number]? = some (run.onward next none) := by
  rw [Preview.carryOn, runs_modifyRun, if_pos rfl, plays.found]
  rfl

/-- A step of a run that plays an animation: the animation is over, or goes on, or the run was
stopped while a frame was shown. -/
theorem Plays.step {shown : Nat} {tasks : List Task} {wakesAt : Option Nat}
    (plays : Plays origin number run animation below shown tasks wakesAt preview)
    (begins : Begins origin number run animation below) :
    Over origin number run animation below (preview.step number).1 ∨
      Underway origin number run animation below (preview.step number).1 ∨
        (preview.step number).1.CutOff number := by
  by_cases ready : (run.onward tasks wakesAt).isReady preview.now
  · obtain ⟨_, request, next, steps, stepped⟩ := plays.exists_step begins ready
    rw [stepped]
    cases steps with
    | done all due =>
        refine .inl ⟨plays.carryOn below, due, ?_⟩
        rw [← all]
        exact plays.calls
    | frame more due playing =>
        right
        have going := (begins.oneLive number run begins.found begins.live).2
        have stops (old : Run) (now : Nat)
            (kept : old.report = none ∧ (old = run.onward next none ∨ old.isLive = false)) :
            (old.stop now).report = none ∧
              (old.stop now = run.onward next none ∨ (old.stop now).isLive = false) :=
          ⟨kept.1, .inr rfl⟩
        obtain ⟨after, found, unended, same | stopped⟩ :=
          (withstands_kept (Nat.succ_ne_self number) stops).call
            (.frame animation.folder (shown % animation.frames))
            ⟨_, plays.carryOn next, going, .inl rfl⟩
        · left
          rw [same] at found
          apply Underway.plays
          exact plays.frame more due playing found ((withstands_now 0 preview.now).call _ rfl)
            (calls_call _ _)
        · refine .inr ⟨after, found, stopped, ?_⟩
          intro report ended
          cases unended.symm.trans ended
    | rest playing =>
        right
        left
        apply Underway.plays
        exact plays.rest playing
  · rw [step_of_unready plays.found ready]
    exact .inr (.inl (.plays plays))

theorem Underway.moveTo (underway : Underway origin number run animation below preview)
    (begins : Begins origin number run animation below) {instant : Nat}
    (keepsTime : preview.KeepsTime number (.moveTo instant)) :
    Underway origin number run animation below (preview.moveTo instant) := by
  by_cases ahead : preview.now < instant
  · obtain ⟨current, found, live, going⟩ := underway.found begins
    obtain ⟨wakesAt, wakes, bound⟩ := keepsTime ahead current found live going
    have late : instant ≤ wakesAt := Nat.le_trans (Nat.le_max_right _ _) bound
    cases underway with
    | begins unmoved =>
        -- The run is ready, so time does not move on before its step.
        cases found.symm.trans (unmoved.run.trans begins.found)
        have ready := begins.ready
        rw [← unmoved.now, Run.isReady, wakes, Bool.and_eq_true] at ready
        have reached : wakesAt ≤ preview.now := by simpa [begins.live] using ready.2
        omega
    | @plays _ _ rests plays =>
        cases found.symm.trans plays.found
        obtain ⟨found, playing, _, shownBound, calls, since, recent⟩ := plays
        have later : preview.now ≤ (preview.moveTo instant).now := Nat.le_max_left _ _
        have sameWake : rests = some wakesAt := wakes
        subst sameWake
        refine .plays ⟨found, playing, ?_, shownBound, calls, Nat.le_trans since later,
          Nat.le_trans recent (Nat.add_le_add_right later _)⟩
        rintro _ ⟨rfl⟩
        exact bound
  · have same : preview.moveTo instant = preview := by
      rw [Preview.moveTo, Nat.max_eq_left (Nat.le_of_not_lt ahead)]
    rw [same]
    exact underway

theorem Underway.act (underway : Underway origin number run animation below preview)
    (begins : Begins origin number run animation below) (oneLive : preview.OneLive) {act : Act}
    (atomic : act.IsMoment) (keepsTime : preview.KeepsTime number act) :
    Over origin number run animation below (preview.act act) ∨
      Underway origin number run animation below (preview.act act) ∨
        (preview.act act).CutOff number := by
  obtain ⟨current, found, live, _⟩ := underway.found begins
  by_cases own : act = .step number
  · subst own
    cases underway with
    | begins unmoved => exact .inr (.inl (.plays (begins.plays_step unmoved)))
    | plays plays => exact plays.step begins
  · by_cases moves : ∃ instant, act = .moveTo instant
    · obtain ⟨instant, rfl⟩ := moves
      exact .inr (.inl (underway.moveTo begins keepsTime))
    · right
      rcases oneLive.cutOff_or_unmoved found live atomic own
        (fun instant same => moves ⟨instant, same⟩) with cutOff | unmoved
      · exact .inr cutOff
      · exact .inl (underway.of_unmoved unmoved)

/-- Whatever happens on virtual time: at some moment the animation is over, or it is still under way,
or the run was stopped. -/
theorem Underway.follow (underway : Underway origin number run animation below preview)
    (begins : Begins origin number run animation below) (oneLive : preview.OneLive)
    {acts : List Act} (atomic : ∀ act ∈ acts, act.IsMoment)
    (punctual : Punctual number acts preview) :
    (∃ first second, acts = first ++ second ∧
        Over origin number run animation below (preview.follow first)) ∨
      Underway origin number run animation below (preview.follow acts) ∨
        (preview.follow acts).CutOff number := by
  induction acts generalizing preview with
  | nil => exact .inr (.inl underway)
  | cons act acts inductionHypothesis =>
      obtain ⟨firstAtomic, othersAtomic⟩ := List.forall_mem_cons.mp atomic
      obtain ⟨keepsTime, later⟩ := punctual
      rcases underway.act begins oneLive firstAtomic keepsTime with past | underway | cutOff
      · exact .inl ⟨[act], acts, rfl, past⟩
      · rcases inductionHypothesis underway (oneLive.act act) othersAtomic later with
          ⟨first, second, rfl, past⟩ | rest
        · exact .inl ⟨act :: first, second, rfl, past⟩
        · exact .inr rest
      · exact .inr (.inr (cutOff.follow stoppedKeep_cancelled acts))

/-! ## Left to itself, the animation ends -/

private theorem length_calls (animation : Animation) (shown : Nat) :
    (animation.calls shown).length = shown := by
  rw [Animation.calls, timetable, List.length_map, List.length_range]

private theorem runs_call_of_unstopped (panelCall : PanelCall)
    (unstopped : .stop ∉ preview.settings.reactions (preview.calls.size + 1)) :
    (preview.call panelCall).runs = preview.runs := by
  rw [call_eq]
  exact runs_foldl_react unstopped _

theorem Plays.size_calls {shown : Nat} {tasks : List Task} {wakesAt : Option Nat}
    (plays : Plays origin number run animation below shown tasks wakesAt preview) :
    preview.calls.size = origin.calls.size + shown := by
  have lengths := congrArg List.length plays.calls
  rwa [List.length_append, length_calls] at lengths

theorem Plays.due_le {shown : Nat} {tasks : List Task} {wakesAt : Option Nat}
    (plays : Plays origin number run animation below shown tasks wakesAt preview) :
    wakesAt.getD preview.now ≤ animation.startedAt + animation.span := by
  apply Nat.le_trans plays.playing.due_le
  exact Nat.add_le_add_left (Nat.mul_le_mul_left _ plays.bound) _

/-- How far the animation is from its end: the time until then, the frames that are missing, and
whether the run still rests. -/
def remaining (animation : Animation) (shown : Nat) (wakesAt : Option Nat) (now : Nat) : Nat :=
  2 * (animation.startedAt + animation.span - wakesAt.getD now) + (animation.count - shown) +
    if now < wakesAt.getD now then 1 else 0

private theorem remaining_frame {shown now : Nat} {wakesAt : Option Nat}
    (due : wakesAt.getD now = now) (more : shown < animation.count) :
    remaining animation (shown + 1) none now < remaining animation shown wakesAt now := by
  rw [remaining, remaining, due, Option.getD_none]
  omega

private theorem remaining_rest {shown now pause : Nat} {wakesAt : Option Nat}
    (due : wakesAt.getD now = now) (some : 0 < pause)
    (bound : now + pause ≤ animation.startedAt + animation.span) :
    remaining animation shown (.some (now + pause)) now <
      remaining animation shown wakesAt now := by
  rw [remaining, remaining, due, Option.getD_some, if_pos (Nat.lt_add_of_pos_right some),
    if_neg (Nat.lt_irrefl _)]
  omega

private theorem remaining_wake {shown now wakesAt : Nat} (ahead : now < wakesAt) :
    remaining animation shown (some wakesAt) wakesAt <
      remaining animation shown (some wakesAt) now := by
  rw [remaining, remaining, Option.getD_some, Option.getD_some, if_neg (Nat.lt_irrefl _),
    if_pos ahead]
  omega

/-- Each time that the run goes on, the animation is over, or nearer to its end. -/
theorem Plays.proceed {shown : Nat} {tasks : List Task} {wakesAt : Option Nat}
    (plays : Plays origin number run animation below shown tasks wakesAt preview)
    (begins : Begins origin number run animation below)
    (unstopped : ∀ shown < animation.count,
      .stop ∉ preview.settings.reactions (origin.calls.size + shown + 1)) :
    Over origin number run animation below (preview.proceed number) ∨
      ∃ moreShown next wakesNext,
        Plays origin number run animation below moreShown next wakesNext
          (preview.proceed number) ∧ (preview.proceed number).settings = preview.settings ∧
          remaining animation moreShown wakesNext (preview.proceed number).now <
            remaining animation shown wakesAt preview.now := by
  have live : (run.onward tasks wakesAt).isLive := begins.live
  have going : (run.onward tasks wakesAt).report = none :=
    (begins.oneLive number run begins.found begins.live).2
  by_cases ready : (run.onward tasks wakesAt).isReady preview.now
  · obtain ⟨due, request, next, steps, stepped⟩ := plays.exists_step begins ready
    have found := plays.carryOn next
    have size : (preview.carryOn number run next).calls.size = origin.calls.size + shown :=
      plays.size_calls
    have settings : (preview.carryOn number run next).settings = preview.settings := rfl
    have now : (preview.carryOn number run next).now = preview.now := rfl
    have calls : (preview.carryOn number run next).calls = preview.calls := rfl
    rw [proceed_of_ready plays.found ready, stepped]
    cases steps with
    | done all due =>
        refine .inl ⟨found, due, ?_⟩
        rw [← all]
        exact plays.calls
    | frame more dueFrame playing =>
        right
        rw [grant]
        generalize preview.carryOn number run next = between at found size settings now calls
        have quiet := unstopped shown more
        rw [← settings, ← size] at quiet
        rw [← runs_call_of_unstopped (.frame animation.folder (shown % animation.frames)) quiet]
          at found
        have nowThen := ((withstands_now 0 between.now).call
          (.frame animation.folder (shown % animation.frames)) rfl).trans now
        have callsThen := calls_call between
          (.frame animation.folder (shown % animation.frames))
        rw [calls, now] at callsThen
        refine ⟨_, _, _, plays.frame more dueFrame playing found nowThen callsThen, ?_, ?_⟩
        · exact ((lasts_settings preview.settings).withstands 0).call _ settings
        · rw [nowThen]
          exact remaining_frame due more
    | rest playing =>
        right
        have rests := plays.rest playing
        refine ⟨_, _, _, rests, rfl, ?_⟩
        have bound := rests.due_le
        have nowThen : ((preview.carryOn number run next).grant number
            (.rest animation.frameMillis)).1.now = preview.now := rfl
        rw [Option.getD_some] at bound
        rw [nowThen]
        exact remaining_rest due begins.paced bound
  · right
    cases wakesAt with
    | none =>
        rw [Run.isReady, going] at ready
        exact absurd rfl ready
    | some wakesAt =>
        have ahead : preview.now < wakesAt := by
          have own : (run.onward tasks (some wakesAt)).wakesAt = some wakesAt := rfl
          rw [Run.isReady, going, own, live] at ready
          simpa using ready
        have wakes : (run.onward tasks (some wakesAt)).wake? = some wakesAt := by
          rw [Run.wake?, going]
          rfl
        have now : (preview.moveTo wakesAt).now = wakesAt := Nat.max_eq_right (Nat.le_of_lt ahead)
        rw [proceed_of_wake plays.found ready wakes]
        refine ⟨shown, tasks, some wakesAt, ⟨plays.found, plays.playing, ?_, plays.bound,
          plays.calls, ?_, ?_⟩, rfl, ?_⟩
        · rintro _ ⟨rfl⟩
          exact Nat.le_of_eq now
        · exact Nat.le_trans plays.since (Nat.le_max_left _ _)
        · exact Nat.le_trans plays.recent (Nat.add_le_add_right (Nat.le_max_left _ _) _)
        · rw [now]
          exact remaining_wake ahead

theorem Plays.exists_over {shown : Nat} {tasks : List Task} {wakesAt : Option Nat}
    (plays : Plays origin number run animation below shown tasks wakesAt preview)
    (begins : Begins origin number run animation below)
    (unstopped : ∀ shown < animation.count,
      .stop ∉ preview.settings.reactions (origin.calls.size + shown + 1)) :
    ∃ steps, Over origin number run animation below (preview.course number steps) := by
  generalize measure : remaining animation shown wakesAt preview.now = left
  induction left using Nat.strong_induction_on generalizing preview shown tasks wakesAt with
  | _ left inductionHypothesis =>
      rcases plays.proceed begins unstopped with
        past | ⟨moreShown, next, wakesNext, later, settings, nearer⟩
      · exact ⟨1, past⟩
      · rw [← settings] at unstopped
        rw [measure] at nearer
        obtain ⟨steps, past⟩ := inductionHypothesis _ nearer later unstopped rfl
        exact ⟨steps + 1, past⟩

theorem Begins.exists_over (begins : Begins origin number run animation below)
    (unstopped : ∀ shown < animation.count,
      .stop ∉ origin.settings.reactions (origin.calls.size + shown + 1)) :
    ∃ steps, Over origin number run animation below (origin.course number steps) := by
  have begun := begins.plays_step ⟨rfl, rfl, rfl, rfl⟩
  have settings : (origin.step number).1.settings = origin.settings :=
    ((lasts_settings origin.settings).withstands number).step rfl
  rw [← settings] at unstopped
  obtain ⟨steps, past⟩ := begun.exists_over begins unstopped
  refine ⟨steps + 1, ?_⟩
  rw [course, proceed_of_ready begins.found begins.ready]
  exact past

/-- On virtual time: at some moment the animation is over, or so many frames of it are shown, or the
run was stopped. -/
theorem Begins.follow (begins : Begins origin number run animation below) {later : List Act}
    (punctual : Punctual number later origin) :
    (∃ first second, moments later origin = first ++ second ∧
        Over origin number run animation below (origin.follow first)) ∨
      (∃ shown ≤ animation.count,
        (origin.follow later).calls.toList = origin.calls.toList ++ animation.calls shown ∧
          (origin.follow later).isRunLive number ∧
            animation.startedAt + animation.frameMillis * shown ≤
                (origin.follow later).now + animation.frameMillis ∧
              (origin.follow later).now ≤
                animation.startedAt + animation.frameMillis * shown) ∨
        (origin.follow later).CutOff number := by
  have start : Underway origin number run animation below origin :=
    .begins ⟨rfl, rfl, rfl, rfl⟩
  have outcome := start.follow begins begins.oneLive (isMoment_moments later origin)
    punctual.moments
  rw [follow_moments] at outcome
  rcases outcome with past | underway | cutOff
  · exact .inl past
  · right
    left
    obtain ⟨current, found, live, _⟩ := underway.found begins
    have liveNow : (origin.follow later).isRunLive number := by
      rw [isRunLive, found, Option.map_some, Option.getD_some]
      exact live
    cases underway with
    | begins unmoved =>
        refine ⟨0, Nat.zero_le _, ?_, liveNow, ?_, ?_⟩
        · rw [unmoved.calls]
          exact (List.append_nil _).symm
        · rw [unmoved.now, begins.startedAt, Nat.mul_zero]
          exact Nat.le_add_right _ _
        · rw [unmoved.now, begins.startedAt, Nat.mul_zero]
          exact Nat.le_refl _
    | @plays shown _ _ plays =>
        exact ⟨shown, plays.bound, plays.calls, liveNow, plays.recent, plays.now_le⟩
  · exact .inr (.inr cutOff)

/-- What a run does with an animation, in the terms of its statement. -/
theorem begins_of_tasks {id : Option String} {folder : String} {playFor : UInt64} {next : Chain}
    {rest : List Task} (oneLive : origin.OneLive) (found : origin.runs[number]? = some run)
    (live : run.isLive) (ready : run.isReady origin.now)
    (tasks : run.machine.tasks = .chain (.link id (.playAnimation folder playFor) next) :: rest)
    (someFrames : 0 < origin.settings.frames folder)
    (paced : 0 < Animation.frameMillis
      ⟨folder, origin.settings.frames folder, playFor.toNat, origin.now, 0⟩) :
    Begins origin number run
      ⟨folder, origin.settings.frames folder, playFor.toNat, origin.now, 0⟩
      (.chain next :: rest) := by
  refine ⟨oneLive, found, live, ready, ?_, rfl, rfl, paced⟩
  intro pins
  have frames : origin.settings.frames folder ≠ 0 := Nat.ne_of_gt someFrames
  simp [Machine.step, tasks, Machine.perform, Machine.execute, scene, live, frames, Machine.push,
    Run.onward]

end

/-- On virtual time an animation shows its frames at equal intervals from the instant at which it
begins, while nothing else is called, unless the run is stopped. Left to itself, the run gets past
it, with the rest after the last frame. -/
theorem animation_paced {origin : Preview} {number : Nat} {run : Run} {id : Option String}
    {folder : String} {playFor : UInt64} {next : Chain} {rest : List Task}
    (oneLive : origin.OneLive) (found : origin.runs[number]? = some run) (live : run.isLive)
    (ready : run.isReady origin.now)
    (tasks : run.machine.tasks = .chain (.link id (.playAnimation folder playFor) next) :: rest)
    (someFrames : 1 ≤ origin.settings.frames folder)
    (counted : origin.settings.frames folder < wordLimit)
    (share : 0 < playFor.toNat * 1000000 / origin.settings.frames folder) :
    let frames := origin.settings.frames folder
    let pace := (playFor.toNat * 1000000 / frames) ⌈/⌉ 1000000
    let count := playFor.toNat ⌈/⌉ pace
    let calls := timetable origin.now pace frames folder
    let past (preview : Preview) :=
      preview.runs[number]? = some (run.onward (.chain next :: rest) none) ∧
        preview.now = origin.now + pace * count ∧
          preview.calls.toList = origin.calls.toList ++ calls count
    (∀ later, Punctual number later origin →
      (∃ first second, moments later origin = first ++ second ∧ past (origin.follow first)) ∨
        (∃ shown ≤ count,
          (origin.follow later).calls.toList = origin.calls.toList ++ calls shown ∧
            (origin.follow later).isRunLive number ∧
              origin.now + pace * shown ≤ (origin.follow later).now + pace ∧
                (origin.follow later).now ≤ origin.now + pace * shown) ∨
          (origin.follow later).CutOff number) ∧
      ((∀ shown < count, .stop ∉ origin.settings.reactions (origin.calls.size + shown + 1)) →
        ∃ steps, past (origin.course number steps)) ∧
      playFor.toNat ≤ pace * count ∧ pace * count < playFor.toNat + pace ∧
      (∀ shown, shown % frames < frames) ∧
      (frames ≤ 1000000 → count ≤ frames ∧ ((calls count).map Prod.snd).Nodup) := by
  intro frames pace count calls past
  obtain ⟨animation, held⟩ : ∃ animation : Animation,
      animation = ⟨folder, frames, playFor.toNat, origin.now, 0⟩ := ⟨_, rfl⟩
  have startedAt : animation.startedAt = origin.now := by rw [held]
  have samePlayFor : animation.playFor = playFor.toNat := by rw [held]
  have sameFrames : animation.frames = frames := by rw [held]
  have sameFolder : animation.folder = folder := by rw [held]
  have within : animation.frames < wordLimit := by
    rw [sameFrames]
    exact counted
  have paced : 0 < animation.frameMillis := by
    rw [Animation.frameMillis_pos_iff, Animation.frameNanos,
      Nat.min_eq_left (Nat.le_sub_one_of_lt within), samePlayFor, sameFrames]
    exact share
  have samePace : animation.frameMillis = pace := by
    rw [Animation.frameMillis_eq within, samePlayFor, sameFrames]
  have sameCount : animation.count = count := by
    rw [Animation.count, samePace, samePlayFor]
  have sameCalls (shown : Nat) : animation.calls shown = calls shown := by
    rw [Animation.calls, startedAt, samePace, sameFrames, sameFolder]
  have sameSpan : animation.span = pace * count := by
    rw [Animation.span, samePace, sameCount]
  have begins : Begins origin number run animation (.chain next :: rest) := by
    rw [held] at paced ⊢
    exact begins_of_tasks oneLive found live ready tasks someFrames paced
  have past_of {preview : Preview}
      (done : Over origin number run animation (.chain next :: rest) preview) : past preview := by
    refine ⟨done.found, ?_, ?_⟩
    · rw [done.now, startedAt, sameSpan]
    · rw [done.calls, sameCount, sameCalls]
  refine ⟨?_, ?_, ?_, ?_, ?_, ?_⟩
  · intro later punctual
    have outcome := begins.follow punctual
    simp only [samePace, sameCount, sameCalls, startedAt] at outcome
    rcases outcome with ⟨first, second, split, done⟩ | rest
    · exact .inl ⟨first, second, split, past_of done⟩
    · exact .inr rest
  · intro unstopped
    rw [← sameCount] at unstopped
    obtain ⟨steps, done⟩ := begins.exists_over unstopped
    exact ⟨steps, past_of done⟩
  · rw [← sameSpan, ← samePlayFor]
    exact Animation.playFor_le_span paced
  · rw [← sameSpan, ← samePlayFor, ← samePace]
    exact Animation.span_lt paced
  · intro shown
    exact Nat.mod_lt shown someFrames
  · intro few
    have enough : count ≤ frames := by
      rw [← sameCount, ← sameFrames]
      rw [← sameFrames] at few
      exact Animation.count_le_frames paced (sameFrames ▸ someFrames) few
    exact ⟨enough, nodup_timetable origin.now pace folder enough⟩

def spinning : Program :=
  .ofActions <| .link none (.playAnimation "spin" 100) .nil

theorem animation_paced_spinning :
    let origin := (start { (default : PreviewSettings) with frames := fun _ => 3 } .low).follow
      [.run spinning]
    origin.OneLive ∧ ∃ steps, (origin.course 0 steps).now = 102 ∧
      (origin.course 0 steps).calls.toList = origin.calls.toList ++
        [(0, .frame "spin" 0), (34, .frame "spin" 1), (68, .frame "spin" 2)] := by
  intro origin
  have oneLive : origin.OneLive := oneLive_follow _ _ [.run spinning]
  have found : origin.runs[0]? =
      some ⟨.start spinning.actions (origin.settings.dice 0), 0, none, none, none⟩ := rfl
  obtain ⟨_, reaches, _⟩ := animation_paced oneLive found rfl rfl rfl (by decide) (by decide)
    (by decide)
  obtain ⟨steps, _, now, calls⟩ := reaches fun _ _ => List.not_mem_nil
  have frames : origin.settings.frames "spin" = 3 := rfl
  have pace : UInt64.toNat 100 * 1000000 / 3 ⌈/⌉ 1000000 = 34 := by decide +kernel
  have count : UInt64.toNat 100 ⌈/⌉ 34 = 3 := by decide +kernel
  rw [frames, pace, count] at now calls
  exact ⟨oneLive, steps, now, calls⟩

end Preview

end Marquee
