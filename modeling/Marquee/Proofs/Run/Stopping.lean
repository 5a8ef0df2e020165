import Marquee.Proofs.Run.Ending
import Marquee.Proofs.Run.Foresight

/-!
# A stopped run is cut off

A run can be stopped between any two steps, or during a call of the panel that it makes itself. What
it has done then is what it does without being stopped up to that point, and nothing is added.
-/

namespace Marquee

namespace Preview

section

variable {preview : Preview} {number : Nat}

private theorem stop_of_current (current : preview.current = some number) :
    preview.stop = preview.stopRun number := by
  rw [stop, current]

private theorem react_stop (preview : Preview) (reaction : Reaction) :
    preview.stop.react reaction = (preview.react reaction).stop := by
  cases reaction with
  | stop => rfl
  | setPin pin high =>
      obtain ⟨settings, now, pins, calls, runs, current⟩ := preview
      cases current <;> rfl

private theorem foldl_react_stop (preview : Preview) (reactions : List Reaction) :
    reactions.foldl react preview.stop = (reactions.foldl react preview).stop := by
  induction reactions generalizing preview with
  | nil => rfl
  | cons reaction reactions inductionHypothesis =>
      rw [List.foldl_cons, List.foldl_cons, react_stop]
      exact inductionHypothesis (preview.react reaction)

variable {first rest : List Reaction} {call : Nat}

/-- A stop during a call comes to the same as one right after it. -/
theorem call_reactTo_stop (next : call = preview.calls.size + 1)
    (reacts : preview.settings.reactions call = first ++ rest) (panelCall : PanelCall) :
    (preview.reactTo call (first ++ .stop :: rest)).call panelCall =
      (preview.call panelCall).stop.reactTo call (first ++ .stop :: rest) := by
  subst next
  have stops :
      (preview.reactTo (preview.calls.size + 1) (first ++ .stop :: rest)).settings.reactions
        (preview.calls.size + 1) = first ++ .stop :: rest := if_pos rfl
  have order : (first ++ .stop :: rest).foldl react (preview.record panelCall) =
      ((first ++ rest).foldl react (preview.record panelCall)).stop := by
    rw [List.foldl_append, List.foldl_cons, List.foldl_append]
    exact foldl_react_stop _ rest
  rw [call_eq preview, reacts, ← order, ← foldl_react_reactTo]
  exact (call_eq _ panelCall).trans (congrArg (List.foldl react _) stops)

private theorem grant_reactTo_stop {request : Request} (next : call = preview.calls.size + 1)
    (reacts : preview.settings.reactions call = first ++ rest)
    (calls : (preview.grant number request).1.calls.size = call) :
    ((preview.reactTo call (first ++ .stop :: rest)).grant number request).1 =
      (preview.grant number request).1.stop.reactTo call (first ++ .stop :: rest) := by
  have silent : preview.calls.size ≠ call := by omega
  cases request with
  | nothing => exact absurd calls silent
  | call panelCall => exact call_reactTo_stop next reacts panelCall
  | drive pin high =>
      have driven : call = (preview.setPin pin high).calls.size + 1 := next
      exact call_reactTo_stop driven reacts (.indicator pin high)
  | rest milliseconds => exact absurd calls silent
  | yield => exact absurd calls silent

private theorem step_reactTo_stop (next : call = preview.calls.size + 1)
    (reacts : preview.settings.reactions call = first ++ rest)
    (calls : (preview.step number).1.calls.size = call) :
    ((preview.reactTo call (first ++ .stop :: rest)).step number).1 =
      (preview.step number).1.stop.reactTo call (first ++ .stop :: rest) := by
  have silent : preview.calls.size ≠ call := by omega
  cases found : preview.runs[number]? with
  | none =>
      rw [step_of_none found] at calls
      exact absurd calls silent
  | some run =>
      by_cases ready : run.isReady preview.now
      · cases takes : run.machine.step (preview.scene run) with
        | none =>
            rw [step_of_end found ready takes] at calls
            exact absurd calls silent
        | some taken =>
            obtain ⟨request, machine⟩ := taken
            rw [step_of_request found ready takes] at calls ⊢
            have otherFound : (preview.reactTo call (first ++ .stop :: rest)).runs[number]? =
                some run := found
            rw [step_of_request otherFound ready takes]
            have resumed : call = (preview.modifyRun number fun run =>
                { run with machine, wakesAt := none }).calls.size + 1 := next
            exact grant_reactTo_stop resumed reacts calls
      · rw [step_of_unready found ready] at calls
        exact absurd calls silent

end

/-- A point at which a run is stopped, in two previews: in the one it is not stopped there, and in
the other it is. -/
inductive StoppedAt (settings : PreviewSettings) (pins : PinBank) (number : Nat) :
    Preview → Preview → Prop where
  /-- The run is stopped between two acts. -/
  | between (acts : List Act) :
    StoppedAt settings pins number ((start settings pins).follow acts)
      (((start settings pins).follow acts).stopRun number)
  /-- The run is stopped during a call of the panel, somewhere among what else happens then. -/
  | inside (acts : List Act) (first rest : List Reaction) {ordinal : Nat}
    (next : ordinal = ((start settings pins).follow acts).calls.size + 1)
    (calls : ((start settings pins).follow (acts ++ [.step number])).calls.size = ordinal)
    (reacts : settings.reactions ordinal = first ++ rest) :
    StoppedAt settings pins number ((start settings pins).follow (acts ++ [.step number]))
      ((start (settings.reactTo ordinal (first ++ .stop :: rest)) pins).follow
        (acts ++ [.step number]))

section

variable {settings : PreviewSettings} {pins : PinBank} {number : Nat}
  {unstopped stopped : Preview} {run : Run}

theorem StoppedAt.exists_follow (cut : StoppedAt settings pins number unstopped stopped) :
    ∃ acts, unstopped = (start settings pins).follow acts := by
  cases cut with
  | between acts => exact ⟨acts, rfl⟩
  | inside acts => exact ⟨acts ++ [.step number], rfl⟩

/-- Both ways of stopping a live run come to the same, but for what is given beforehand. -/
theorem StoppedAt.eq_stopRun (cut : StoppedAt settings pins number unstopped stopped)
    (found : unstopped.runs[number]? = some run) (live : run.isLive) :
    ∃ others, stopped = { unstopped.stopRun number with settings := others } := by
  cases cut with
  | between acts => exact ⟨_, rfl⟩
  | @inside acts first rest ordinal next calls reacts =>
      have oneLive := oneLive_follow settings pins (acts ++ [.step number])
      obtain ⟨current, _⟩ := oneLive number run found live
      have given : ((start settings pins).follow acts).settings = settings :=
        (lasts_settings settings).follow acts rfl
      have before : (start (settings.reactTo ordinal (first ++ .stop :: rest)) pins).follow acts =
          ((start settings pins).follow acts).reactTo ordinal (first ++ .stop :: rest) :=
        (unaware_follow acts).same (start settings pins) (next ▸ Nat.lt_succ_self _)
      rw [← given] at reacts
      rw [follow_snoc] at calls current
      rw [follow_snoc, follow_snoc, before]
      have stops := step_reactTo_stop next reacts calls
      have same : (((start settings pins).follow acts).step number).1.stop =
          (((start settings pins).follow acts).step number).1.stopRun number :=
        stop_of_current current
      rw [same] at stops
      exact ⟨_, stops⟩

end

end Preview

/-- What an act from outside makes of the pins. -/
def Act.onPins (pins : PinBank) : Act → PinBank
  | .setPin pin high => pins.set pin high
  | .togglePin pin => pins.toggle pin
  | _ => pins

namespace Preview

section

variable {preview : Preview} {number : Nat}

/-- All that a run still does is to end, with this report, after fewer rounds than `left`: its steps
call nothing, set no pin and begin no statement, and time does not pass before its end. -/
structure OnlyEnds (preview : Preview) (number : Nat) (report : RunReport) (left : Nat) : Prop where
  calls : (preview.step number).1.calls = preview.calls
  pins : (preview.step number).1.pins = preview.pins
  now : (preview.step number).1.now = preview.now
  executed : (preview.runs[number]?.map fun run => run.machine.executed) = some report.executed
  ready : (preview.report? number).isSome ∨ number ∈ preview.readyRuns
  waits : ∀ rounds, (preview.passToEnd number rounds).now = preview.now
  ends : ∀ rounds, left ≤ rounds → (preview.passToEnd number rounds).report? number = some report

private theorem step_silent {run : Run} (found : preview.runs[number]? = some run)
    (stopped : run.isLive = false) :
    (preview.step number).1.calls = preview.calls ∧ (preview.step number).1.pins = preview.pins ∧
      (preview.step number).1.now = preview.now := by
  rw [step_stopped found stopped]
  split <;> exact ⟨rfl, rfl, rfl⟩

theorem Leaves.onlyEnds {origin : Run} {instant left : Nat}
    (leaves : preview.Leaves number origin instant left) :
    preview.OnlyEnds number ⟨origin.machine.executed, instant - origin.startedAt, true⟩ left := by
  have ⟨run, found, ending⟩ := leaves
  obtain ⟨calls, pins, now⟩ := step_silent found ending.not_isLive
  refine ⟨calls, pins, now, ?_, ?_, ?_, ?_⟩
  · rw [found, Option.map_some, ending.executed]
  · by_cases ended : (preview.report? number).isSome
    · exact Or.inl ended
    · exact Or.inr (leaves.ready ended)
  · intro rounds
    exact (leaves.passToEnd rounds).1
  · intro rounds
    exact (leaves.passToEnd rounds).2

/-- While no run is live, nothing is called, and the pins change only from outside. -/
theorem keeps_still (calls : Array (Nat × PanelCall)) (pins : PinBank) :
    Keeps fun preview => preview.Calm ∧ preview.calls = calls ∧ preview.pins = pins := by
  refine ⟨⟨?_⟩, fun _ still => still⟩
  rintro preview number ⟨calm, sameCalls, samePins⟩
  refine ⟨keeps_calm.step number calm, ?_⟩
  cases found : preview.runs[number]? with
  | none =>
      rw [step_of_none found]
      exact ⟨sameCalls, samePins⟩
  | some run =>
      have stopped := Bool.eq_false_iff.mpr (calm number run found)
      obtain ⟨noCall, noPin, _⟩ := step_silent found stopped
      exact ⟨noCall.trans sameCalls, noPin.trans samePins⟩

theorem Calm.act (calm : preview.Calm) {act : Act} (noRun : ∀ program, act ≠ .run program) :
    (preview.act act).Calm ∧ (preview.act act).calls = preview.calls ∧
      (preview.act act).pins = act.onPins preview.pins := by
  have still : preview.Calm ∧ preview.calls = preview.calls ∧ preview.pins = preview.pins :=
    ⟨calm, rfl, rfl⟩
  cases act with
  | step number => exact (keeps_still preview.calls preview.pins).step number still
  | moveTo _ => exact still
  | sleep milliseconds => exact (keeps_still preview.calls preview.pins).sleep milliseconds still
  | finish number => exact (keeps_still preview.calls preview.pins).finish number still
  | run program => exact absurd rfl (noRun program)
  | setPin _ _ => exact ⟨calm, rfl, rfl⟩
  | togglePin _ => exact ⟨calm, rfl, rfl⟩
  | stop =>
      refine ⟨calm.stop, calls_stop preview, ?_⟩
      rw [Preview.act, Preview.stop]
      split <;> rfl
  | stopRun number => exact ⟨calm.modifyRun number (Run.fading_stop _), rfl, rfl⟩

theorem Calm.follow (calm : preview.Calm) {acts : List Act}
    (noRun : ∀ program, .run program ∉ acts) :
    (preview.follow acts).calls = preview.calls ∧
      (preview.follow acts).pins = acts.foldl Act.onPins preview.pins := by
  induction acts generalizing preview with
  | nil => exact ⟨rfl, rfl⟩
  | cons act acts inductionHypothesis =>
      have first : ∀ program, act ≠ .run program := by
        rintro program rfl
        exact noRun program List.mem_cons_self
      have others : ∀ program, .run program ∉ acts :=
        fun program member => noRun program (List.mem_cons_of_mem _ member)
      obtain ⟨stillCalm, sameCalls, pinsAfter⟩ := calm.act first
      obtain ⟨calls, pins⟩ := inductionHypothesis stillCalm others
      rw [sameCalls] at calls
      rw [pinsAfter] at pins
      exact ⟨calls, pins⟩

end

variable {settings : PreviewSettings} {pins : PinBank} {number : Nat}
  {unstopped stopped : Preview} {run : Run}

/-- A stopped run is cut off exactly where it is stopped. Up to that point it has done what it does
without being stopped, whatever comes after; and whatever comes after, it only ends, as a cancelled
run that has been going on until then. -/
theorem StoppedAt.cut_off (cut : StoppedAt settings pins number unstopped stopped)
    (found : unstopped.runs[number]? = some run) (live : run.isLive) :
    stopped.calls = unstopped.calls ∧ stopped.pins = unstopped.pins ∧
      stopped.now = unstopped.now ∧
      (∀ more, stopped.calls.toList <+: (unstopped.follow more).calls.toList) ∧
      ∀ later,
        (stopped.follow later).OnlyEnds number
          ⟨run.machine.executed, unstopped.now - run.startedAt, true⟩
          (run.machine.tasks.length + 1) ∧
        ((∀ program, .run program ∉ later) →
          (stopped.follow later).calls = unstopped.calls ∧
          (stopped.follow later).pins = later.foldl Act.onPins unstopped.pins) := by
  obtain ⟨others, rfl⟩ := cut.eq_stopRun found live
  obtain ⟨acts, reached⟩ := cut.exists_follow
  have oneLive : unstopped.OneLive := reached ▸ oneLive_follow settings pins acts
  obtain ⟨current, going⟩ := oneLive number run found live
  refine ⟨rfl, rfl, rfl, ?_, ?_⟩
  · intro more
    exact (lasts_calls unstopped.calls.toList).follow more (List.prefix_refl _)
  · intro later
    have leaves : ({ unstopped.stopRun number with settings := others } : Preview).Leaves number run
        unstopped.now (run.machine.tasks.length + 1) := leaves_stopRun found live going
    have calm : ({ unstopped.stopRun number with settings := others } : Preview).Calm :=
      oneLive.calm_stopRun current
    exact ⟨(leaves.follow later).onlyEnds, fun noRun => calm.follow noRun⟩

/-- A program that shows an image every second. -/
def ticking : Program :=
  .ofActions <| .link none (.forever <|
    .link none (.displayImage "tick") <| .link none (.wait (.number 1000)) .nil) .nil

/-- Stopped during the call for its first image, the program shows no other. -/
theorem cut_off_ticking :
    ∃ (unstopped stopped : Preview) (run : Run),
      StoppedAt default .low 0 unstopped stopped ∧ unstopped.runs[0]? = some run ∧ run.isLive ∧
        stopped.calls = #[(0, .color "#FFFFFF"), (0, .clear), (7, .image "tick")] ∧
        ∀ later, (stopped.follow later).OnlyEnds 0 ⟨2, 7, true⟩ 5 := by
  have cut : StoppedAt default .low 0
      ((start default .low).follow [.run ticking, .moveTo 7, .step 0, .step 0, .step 0]) _ :=
    .inside [.run ticking, .moveTo 7, .step 0, .step 0] [] [] rfl rfl rfl
  obtain ⟨calls, _, _, _, cutOff⟩ := cut.cut_off rfl rfl
  exact ⟨_, _, _, cut, rfl, rfl, calls, fun later => (cutOff later).1⟩

end Preview

end Marquee
