import Mathlib.Data.List.MinMax
import Marquee.Proofs.Run.Passing

/-!
# Runs are isolated

The log of a preview falls into segments, one for each program that was started, in that order. Each
is the log of a fresh preview that runs only this program, shifted to the instant of the start: the
panel is made ready first, and nothing of an earlier run comes after. What an earlier run leaves
behind are the pins.
-/

namespace Marquee

namespace Preview

/-- The preview after the run that is going on was stopped, and the panel had time to settle. -/
def settled (preview : Preview) : Preview :=
  if preview.isRunning then preview.stop.sleep preview.settings.settle else preview

theorem run_eq_install (preview : Preview) (program : Program) :
    preview.run program = preview.settled.install program.actions := by
  rw [run, settled]
  split <;> rfl

theorem OneLive.settled {preview : Preview} (oneLive : preview.OneLive) :
    preview.settled.Calm ∧ preview.settled.calls = preview.calls ∧
      preview.settled.settings = preview.settings := by
  rw [Preview.settled]
  split
  · obtain ⟨calm, calls, _⟩ := (keeps_still preview.calls preview.stop.pins).sleep
      preview.settings.settle ⟨oneLive.calm_stop, calls_stop preview, rfl⟩
    have settings := (lasts_settings preview.settings).act .stop rfl
    exact ⟨calm, calls, (lasts_settings preview.settings).keeps.sleep _ settings⟩
  · next idle => exact ⟨oneLive.calm_of_not_isRunning idle, rfl, rfl⟩

/-- The program as the only run of a fresh preview. The pins are as they are at this moment; the
dice, and what happens outside during calls, are those from here on. -/
def alone (moment : Preview) (program : Program) : Preview :=
  (start (moment.settings.onward moment.runs.size moment.calls.size) moment.pins).run program

/-- As many rounds as the runs so far can take up once they are stopped: one for each task that a
run has left, and one for its end. -/
def burden (preview : Preview) : Nat :=
  (preview.runs.toList.map fun run => run.machine.tasks.length + 1).foldr max 0

theorem Calm.withers {preview : Preview} (calm : preview.Calm) {number : Nat}
    (inside : number < preview.runs.size) : preview.Withers number preview.burden := by
  refine ⟨preview.runs[number], Array.getElem?_eq_getElem inside, ?_, ?_⟩
  · exact Bool.eq_false_iff.mpr (calm number _ (Array.getElem?_eq_getElem inside))
  · intro _
    apply Nat.lt_of_succ_le
    refine List.le_max_of_le' 0 (List.mem_map_of_mem ?_) (Nat.le_refl _)
    exact Array.getElem_mem_toList inside

/-- The runs of a preview wither, and the other has none yet. -/
structure Awaits (moment : Preview) (left : Nat) (whole lone : Preview) : Prop
    extends LooksLike moment whole lone where
  size : whole.runs.size = moment.runs.size
  fresh : lone.runs = #[]
  noCurrent : lone.current = none
  others : ∀ number < moment.runs.size, whole.Withers number left

namespace Awaits

variable {moment whole lone : Preview} {left : Nat}

theorem stop (awaits : Awaits moment left whole lone) :
    Awaits moment left whole.stop lone.stop := by
  have same : lone.stop = lone := by
    rw [Preview.stop, awaits.noCurrent]
  have others := fun number before => (awaits.others number before).stop
  rw [same]
  rw [Preview.stop] at others ⊢
  split
  · next number current =>
      rw [current] at others
      obtain ⟨looks, size, fresh, noCurrent, _⟩ := awaits
      exact ⟨⟨looks.settings, looks.now, looks.pins, looks.calls⟩, Array.size_modify.trans size,
        fresh, noCurrent, others⟩
  · exact awaits

theorem call (awaits : Awaits moment left whole lone) (panelCall : PanelCall) :
    Awaits moment left (whole.call panelCall) (lone.call panelCall) := by
  have react (reactions : List Reaction) {whole lone : Preview}
      (awaits : Awaits moment left whole lone) :
      Awaits moment left (reactions.foldl Preview.react whole)
        (reactions.foldl Preview.react lone) := by
    induction reactions generalizing whole lone with
    | nil => exact awaits
    | cons reaction reactions inductionHypothesis =>
        apply inductionHypothesis
        cases reaction with
        | stop => exact awaits.stop
        | setPin pin high =>
            exact { awaits with toLooksLike := awaits.toLooksLike.setPin pin high }
  have recorded : Awaits moment left (whole.record panelCall) (lone.record panelCall) :=
    { awaits with toLooksLike := awaits.toLooksLike.record panelCall }
  rw [call_eq, call_eq, awaits.reactions]
  exact react _ recorded

theorem install (awaits : Awaits moment left whole lone) (statements : Chain) :
    Beside moment left (whole.install statements) (lone.install statements) := by
  have color : lone.settings.color = whole.settings.color := by
    rw [awaits.settings]
    rfl
  have ready := (awaits.call (.color whole.settings.color)).call .clear
  rw [Preview.install, Preview.install, color]
  generalize (whole.call (.color whole.settings.color)).call .clear = wholeReady,
    (lone.call (.color whole.settings.color)).call .clear = loneReady at ready
  obtain ⟨looks, size, fresh, _, others⟩ := ready
  have number : loneReady.runs.size = 0 := by
    rw [fresh]
    rfl
  have dice : wholeReady.settings.dice wholeReady.runs.size =
      loneReady.settings.dice loneReady.runs.size := by
    rw [looks.settings, number, size]
    rfl
  refine ⟨⟨looks.settings, looks.now, looks.pins, looks.calls⟩, ?_, congrArg some size,
    congrArg some number, ?_, ?_⟩
  · rw [Array.size_push, size]
  · refine ⟨⟨.start statements (loneReady.settings.dice loneReady.runs.size), loneReady.now,
      none, none, none⟩, ?_, ?_⟩
    · rw [fresh]
      rfl
    · rw [Array.getElem?_push, if_pos size.symm, dice, looks.now]
      rfl
  · intro earlier before
    obtain ⟨run, found, withers⟩ := others earlier before
    refine ⟨run, ?_, withers⟩
    rw [Array.getElem?_push, size, if_neg (Nat.ne_of_lt before)]
    exact found

end Awaits

theorem Calm.beside_alone {moment : Preview} (calm : moment.Calm) (program : Program) :
    Beside moment moment.burden (moment.install program.actions) (moment.alone program) := by
  have noCalls : moment.calls = moment.calls ++ laterCalls moment.now #[] := by
    rw [laterCalls, Array.map_empty, Array.append_empty]
  have awaits : Awaits moment moment.burden moment
      (start (moment.settings.onward moment.runs.size moment.calls.size) moment.pins) :=
    ⟨⟨rfl, rfl, rfl, noCalls⟩, rfl, rfl, rfl, fun number inside => calm.withers inside⟩
  exact awaits.install program.actions

/-- What the lone preview of a run does while something happens to the preview as a whole: the same,
as far as it is about the run. Only a run that does not rest as long as patience lasts can have had
fewer rounds, by those that the runs before it took up. While the end of another run is waited for,
the run goes on. -/
inductive Echo (moment lone : Preview) : Act → Preview → Prop where
  | step : Echo moment lone (.step moment.runs.size) (lone.step 0).1
  | stepOther {number : Nat} (other : number ≠ moment.runs.size) :
    Echo moment lone (.step number) lone
  | moveTo (instant : Nat) :
    Echo moment lone (.moveTo instant) (lone.moveTo (instant - moment.now))
  | sleep (milliseconds : Nat) :
    Echo moment lone (.sleep milliseconds) (lone.sleep milliseconds)
  | sleepRestless {milliseconds rounds : Nat} (bound : rounds ≤ patience)
    (enough : patience ≤ rounds + moment.burden)
    (restless : ¬ (passUntil (lone.now + milliseconds) rounds lone).AtRest) :
    Echo moment lone (.sleep milliseconds) (passUntil (lone.now + milliseconds) rounds lone)
  | finish : Echo moment lone (.finish moment.runs.size) (lone.finish 0)
  | finishRestless {rounds : Nat} (bound : rounds ≤ patience)
    (enough : patience ≤ rounds + moment.burden)
    (restless : (passToEnd 0 rounds lone).report? 0 = none) :
    Echo moment lone (.finish moment.runs.size) (passToEnd 0 rounds lone)
  | finishBefore {number rounds : Nat} (before : number < moment.runs.size)
    (bound : rounds ≤ moment.burden) :
    Echo moment lone (.finish number) (passUntil lone.now rounds lone)
  | finishNever {number rounds : Nat} (never : moment.runs.size < number)
    (bound : rounds ≤ patience) (enough : patience ≤ rounds + moment.burden) :
    Echo moment lone (.finish number) (passToEnd 1 rounds lone)
  | setPin (pin : UInt8) (high : Bool) :
    Echo moment lone (.setPin pin high) (lone.setPin pin high)
  | togglePin (pin : UInt8) : Echo moment lone (.togglePin pin) (lone.togglePin pin)
  | stop : Echo moment lone .stop lone.stop
  | stopRun : Echo moment lone (.stopRun moment.runs.size) (lone.stopRun 0)
  | stopOther {number : Nat} (other : number ≠ moment.runs.size) :
    Echo moment lone (.stopRun number) lone

/-- What the lone preview of a run does while all this happens to the preview as a whole. After each
act the two stand beside each other. -/
inductive Shadowed (moment : Preview) : Preview → Preview → List Act → Preview → Prop where
  | nil {whole lone : Preview} : Shadowed moment whole lone [] lone
  | cons {whole lone next after : Preview} {act : Act} {acts : List Act}
    (echo : Echo moment lone act next) (beside : Beside moment moment.burden (whole.act act) next)
    (rest : Shadowed moment (whole.act act) next acts after) :
    Shadowed moment whole lone (act :: acts) after

namespace Beside

variable {moment whole lone : Preview} {left : Nat}

theorem togglePin (beside : Beside moment left whole lone) (pin : UInt8) :
    Beside moment left (whole.togglePin pin) (lone.togglePin pin) := by
  have same : whole.togglePin pin = whole.setPin pin !lone.pins.isHigh pin := by
    rw [← beside.pins]
    rfl
  rw [same]
  exact beside.setPin pin _

theorem finish (beside : Beside moment moment.burden whole lone) (number : Nat) :
    ∃ next, Echo moment lone (.finish number) next ∧
      Beside moment moment.burden (whole.finish number) next := by
  rcases Nat.lt_trichotomy number moment.runs.size with before | rfl | never
  · obtain ⟨rounds, bound, after⟩ := beside.passToEndBefore before patience
    exact ⟨_, .finishBefore before bound, after⟩
  · obtain ⟨rounds, bound, enough, after⟩ :=
      beside.passToEnd (fun beside => beside.report?) patience
    by_cases ended : ((Preview.passToEnd 0 rounds lone).report? 0).isSome
    · have same : lone.finish 0 = Preview.passToEnd 0 rounds lone :=
        passToEnd_of_isSome ended bound
      rw [← same] at after
      exact ⟨_, .finish, after⟩
    · have restless := Option.not_isSome_iff_eq_none.mp ended
      exact ⟨_, .finishRestless bound enough restless, after⟩
  · have together {left : Nat} {whole lone : Preview} (beside : Beside moment left whole lone) :
        whole.report? number = lone.report? 1 := by
      obtain ⟨run, loneRuns, _⟩ := beside.own
      have absent : whole.runs[number]? = none := by
        rw [Array.getElem?_eq_none_iff, beside.size]
        exact never
      rw [Preview.report?, Preview.report?, absent, loneRuns]
      rfl
    obtain ⟨rounds, bound, enough, after⟩ := beside.passToEnd together patience
    exact ⟨_, .finishNever never bound enough, after⟩

/-- Whatever happens to the preview but a start, the run goes on beside it. -/
theorem act (beside : Beside moment moment.burden whole lone) {act : Act}
    (noRun : ∀ program, act ≠ .run program) :
    ∃ next, Echo moment lone act next ∧ Beside moment moment.burden (whole.act act) next := by
  cases act with
  | step number =>
      by_cases own : number = moment.runs.size
      · subst own
        exact ⟨_, .step, beside.step.1⟩
      · exact ⟨_, .stepOther own, beside.stepOther own⟩
  | moveTo instant => exact ⟨_, .moveTo instant, beside.moveTo instant⟩
  | sleep milliseconds =>
      rcases beside.sleep milliseconds with after | ⟨rounds, bound, enough, restless, after⟩
      · exact ⟨_, .sleep milliseconds, after⟩
      · exact ⟨_, .sleepRestless bound enough restless, after⟩
  | finish number => exact beside.finish number
  | run program => exact absurd rfl (noRun program)
  | setPin pin high => exact ⟨_, .setPin pin high, beside.setPin pin high⟩
  | togglePin pin => exact ⟨_, .togglePin pin, beside.togglePin pin⟩
  | stop => exact ⟨_, .stop, beside.stop⟩
  | stopRun number =>
      by_cases own : number = moment.runs.size
      · subst own
        exact ⟨_, .stopRun, beside.stopRun⟩
      · exact ⟨_, .stopOther own, beside.stopOther own⟩

theorem follow (beside : Beside moment moment.burden whole lone) {acts : List Act}
    (noRun : ∀ program, .run program ∉ acts) : ∃ after, Shadowed moment whole lone acts after := by
  induction acts generalizing whole lone with
  | nil => exact ⟨lone, .nil⟩
  | cons act acts inductionHypothesis =>
      have first : ∀ program, act ≠ .run program := by
        rintro program rfl
        exact noRun program List.mem_cons_self
      have others : ∀ program, .run program ∉ acts :=
        fun program member => noRun program (List.mem_cons_of_mem _ member)
      obtain ⟨next, echo, nextBeside⟩ := beside.act first
      obtain ⟨after, rest⟩ := inductionHypothesis nextBeside others
      exact ⟨after, .cons echo nextBeside rest⟩

end Beside

theorem Shadowed.beside {moment whole lone after : Preview} {acts : List Act}
    (shadowed : Shadowed moment whole lone acts after)
    (beside : Beside moment moment.burden whole lone) :
    Beside moment moment.burden (whole.follow acts) after := by
  induction shadowed with
  | nil => exact beside
  | cons _ nextBeside _ inductionHypothesis => exact inductionHypothesis nextBeside

end Preview

/-! ## Segments -/

/-- The program that is started, if one is. -/
def Act.program? : Act → Option Program
  | .run program => some program
  | _ => none

namespace Preview

/-- The programs that were started, each with the calls of its segment: those that it makes as the
only run of a fresh preview, to which happens what happens to this one until the next start. -/
inductive Segmented (settings : PreviewSettings) (pins : PinBank) :
    List Act → List (Program × List (Nat × PanelCall)) → Prop where
  | idle {acts : List Act} (noRun : ∀ program, .run program ∉ acts) :
    Segmented settings pins acts []
  | started {before later : List Act} {segments : List (Program × List (Nat × PanelCall))}
    {moment lone : Preview} {program : Program} (earlier : Segmented settings pins before segments)
    (settles : moment = ((start settings pins).follow before).settled)
    (shadowed : Shadowed moment (moment.install program.actions) (moment.alone program) later
      lone) :
    Segmented settings pins (before ++ .run program :: later)
      (segments ++ [(program, (laterCalls moment.now lone.calls).toList)])

section

variable {settings : PreviewSettings} {pins : PinBank}

private theorem exists_last_run (acts : List Act) :
    (∀ program, .run program ∉ acts) ∨
      ∃ before program later, acts = before ++ .run program :: later ∧
        ∀ other, .run other ∉ later := by
  induction acts with
  | nil => exact Or.inl fun program => List.not_mem_nil
  | cons act acts inductionHypothesis =>
      rcases inductionHypothesis with noRun | ⟨before, program, later, rfl, last⟩
      · by_cases starts : ∃ program, act = .run program
        · obtain ⟨program, rfl⟩ := starts
          exact Or.inr ⟨[], program, acts, rfl, noRun⟩
        · left
          intro program member
          rcases List.mem_cons.mp member with rfl | later
          · exact starts ⟨program, rfl⟩
          · exact noRun program later
      · exact Or.inr ⟨act :: before, program, later, rfl, last⟩

private theorem exists_segmented (settings : PreviewSettings) (pins : PinBank) (acts : List Act) :
    ∃ segments, Segmented settings pins acts segments := by
  rcases exists_last_run acts with noRun | ⟨before, program, later, split, last⟩
  · exact ⟨[], .idle noRun⟩
  · have shorter : before.length < acts.length := by
      rw [split, List.length_append, List.length_cons]
      omega
    obtain ⟨segments, earlier⟩ := exists_segmented settings pins before
    have calm := (oneLive_follow settings pins before).settled.1
    obtain ⟨lone, shadowed⟩ := (calm.beside_alone program).follow last
    rw [split]
    exact ⟨_, .started earlier rfl shadowed⟩
  termination_by acts.length

private theorem install_follow {before later : List Act} {moment : Preview} (program : Program)
    (settles : moment = ((start settings pins).follow before).settled) :
    (start settings pins).follow (before ++ .run program :: later) =
      (moment.install program.actions).follow later := by
  rw [follow_append, settles, ← run_eq_install]
  rfl

/-- Until the next start, the preview stands beside the lone one, and the log of before is kept. -/
theorem Shadowed.besides {before later : List Act} {moment lone : Preview} {program : Program}
    (settles : moment = ((start settings pins).follow before).settled)
    (shadowed : Shadowed moment (moment.install program.actions) (moment.alone program) later
      lone) :
    ((start settings pins).follow (before ++ .run program :: later)).calls.toList =
      ((start settings pins).follow before).calls.toList ++
        (laterCalls moment.now lone.calls).toList := by
  obtain ⟨calm, calls, _⟩ := (oneLive_follow settings pins before).settled
  rw [← settles] at calm calls
  have beside := shadowed.beside (calm.beside_alone program)
  rw [install_follow program settles, beside.calls, Array.toList_append, calls]

theorem Segmented.calls {acts : List Act} {segments : List (Program × List (Nat × PanelCall))}
    (segmented : Segmented settings pins acts segments) :
    ((start settings pins).follow acts).calls.toList = segments.flatMap Prod.snd := by
  induction segmented with
  | idle noRun =>
      have calm : (start settings pins).Calm := by
        intro number run found
        cases found
      rw [(calm.follow noRun).1]
      rfl
  | started earlier settles shadowed inductionHypothesis =>
      rw [shadowed.besides settles, inductionHypothesis, List.flatMap_append,
        List.flatMap_singleton]

theorem Shadowed.program?_eq_none {moment whole lone after : Preview} {acts : List Act}
    (shadowed : Shadowed moment whole lone acts after) : ∀ act ∈ acts, act.program? = none := by
  induction shadowed with
  | nil =>
      intro act member
      cases member
  | cons echo _ _ inductionHypothesis =>
      refine List.forall_mem_cons.mpr ⟨?_, inductionHypothesis⟩
      cases echo <;> rfl

theorem Segmented.programs {acts : List Act} {segments : List (Program × List (Nat × PanelCall))}
    (segmented : Segmented settings pins acts segments) :
    segments.map Prod.fst = acts.filterMap Act.program? := by
  induction segmented with
  | idle noRun =>
      refine (List.filterMap_eq_nil_iff.mpr ?_).symm
      intro act member
      cases act with
      | run program => exact absurd member (noRun program)
      | _ => rfl
  | started earlier settles shadowed inductionHypothesis =>
      rw [List.map_append, inductionHypothesis, List.filterMap_append, List.filterMap_cons,
        List.filterMap_eq_nil_iff.mpr shadowed.program?_eq_none]
      rfl

theorem calls_call (preview : Preview) (panelCall : PanelCall) :
    (preview.call panelCall).calls = preview.calls.push (preview.now, panelCall) := by
  rw [call_eq, calls_foldl_react]
  rfl

theorem calls_install (preview : Preview) (statements : Chain) :
    (preview.install statements).calls.toList =
      preview.calls.toList ++
        [(preview.now, .color preview.settings.color), (preview.now, .clear)] := by
  have now : (preview.call (.color preview.settings.color)).now = preview.now :=
    (withstands_now 0 preview.now).call _ rfl
  rw [install, calls_call, calls_call, now, Array.toList_push, Array.toList_push, List.append_assoc]
  rfl

theorem Shadowed.resets {before later : List Act} {moment lone : Preview} {program : Program}
    (settles : moment = ((start settings pins).follow before).settled)
    (shadowed : Shadowed moment (moment.install program.actions) (moment.alone program) later
      lone) :
    ∃ rest, (laterCalls moment.now lone.calls).toList =
      (moment.now, .color settings.color) :: (moment.now, .clear) :: rest := by
  obtain ⟨calm, _, same⟩ := (oneLive_follow settings pins before).settled
  rw [← settles] at calm same
  have given : moment.settings = settings :=
    same.trans ((lasts_settings settings).follow before rfl)
  have beside := shadowed.beside (calm.beside_alone program)
  have grown := (lasts_calls (moment.install program.actions).calls.toList).follow later
    (List.prefix_refl _)
  rw [beside.calls, calls_install, Array.toList_append, List.prefix_append_right_inj,
    given] at grown
  obtain ⟨rest, split⟩ := grown
  exact ⟨rest, split.symm⟩

/-- A segment begins with the panel being made ready. -/
theorem Segmented.resets {acts : List Act} {segments : List (Program × List (Nat × PanelCall))}
    (segmented : Segmented settings pins acts segments) :
    ∀ segment ∈ segments, ∃ since rest,
      segment.2 = (since, .color settings.color) :: (since, .clear) :: rest := by
  induction segmented with
  | idle =>
      intro segment member
      cases member
  | started earlier settles shadowed inductionHypothesis =>
      refine List.forall_mem_append.mpr ⟨inductionHypothesis, List.forall_mem_singleton.mpr ?_⟩
      exact ⟨_, shadowed.resets settles⟩

/-- The log is made of one segment for each program that was started, in this order. A segment
begins with the panel being made ready, and is what the program does as the only run of a fresh
preview with the pins of that moment. -/
theorem isolated (settings : PreviewSettings) (pins : PinBank) (acts : List Act) :
    ∃ segments, Segmented settings pins acts segments ∧
      segments.map Prod.fst = acts.filterMap Act.program? ∧
      ((start settings pins).follow acts).calls.toList = segments.flatMap Prod.snd ∧
      ∀ segment ∈ segments, ∃ since rest,
        segment.2 = (since, .color settings.color) :: (since, .clear) :: rest := by
  obtain ⟨segments, segmented⟩ := exists_segmented settings pins acts
  exact ⟨segments, segmented, segmented.programs, segmented.calls, segmented.resets⟩

end

end Preview

end Marquee
