import Marquee.Proofs.Run.Live

/-!
# Nothing is known of calls to come

What happens outside during a call of the panel is given beforehand, but it has no effect before
that call is made: two previews that differ only in it go the same way up to the call.
-/

namespace Marquee

/-- The settings, but other things happen outside during one call of the panel. -/
def PreviewSettings.reactTo (settings : PreviewSettings) (call : Nat)
    (reactions : List Reaction) : PreviewSettings :=
  { settings with
    reactions := fun number => if number = call then reactions else settings.reactions number }

namespace Preview

/-- The preview, but other things happen outside during one call of the panel. -/
def reactTo (preview : Preview) (call : Nat) (reactions : List Reaction) : Preview :=
  { preview with settings := preview.settings.reactTo call reactions }

section

variable {preview : Preview} {number limit : Nat} {reactions : List Reaction}

theorem step_of_none (absent : preview.runs[number]? = none) :
    preview.step number = (preview, false) := by
  rw [step, absent]

theorem step_of_unready {run : Run} (found : preview.runs[number]? = some run)
    (unready : ¬ run.isReady preview.now) : preview.step number = (preview, false) := by
  rw [step, found]
  exact if_neg unready

theorem step_of_end {run : Run} (found : preview.runs[number]? = some run)
    (ready : run.isReady preview.now) (done : run.machine.step (preview.scene run) = none) :
    preview.step number =
      (preview.modifyRun number fun run => run.finish preview.now, false) := by
  rw [step, found]
  dsimp only
  rw [if_pos ready, done]

theorem step_of_request {run : Run} {request : Request} {machine : Machine}
    (found : preview.runs[number]? = some run) (ready : run.isReady preview.now)
    (takes : run.machine.step (preview.scene run) = some (request, machine)) :
    preview.step number =
      (preview.modifyRun number fun run => { run with machine, wakesAt := none }).grant number
        request := by
  rw [step, found]
  dsimp only
  rw [if_pos ready, takes]

private theorem react_reactTo (preview : Preview) (reaction : Reaction) :
    (preview.reactTo limit reactions).react reaction =
      (preview.react reaction).reactTo limit reactions := by
  cases reaction with
  | setPin pin high => rfl
  | stop =>
      obtain ⟨settings, now, pins, calls, runs, current⟩ := preview
      cases current <;> rfl

theorem foldl_react_reactTo (preview : Preview) (happening : List Reaction) :
    happening.foldl react (preview.reactTo limit reactions) =
      (happening.foldl react preview).reactTo limit reactions := by
  induction happening generalizing preview with
  | nil => rfl
  | cons reaction happening inductionHypothesis =>
      rw [List.foldl_cons, List.foldl_cons, react_reactTo]
      exact inductionHypothesis (preview.react reaction)

theorem calls_stop (preview : Preview) : preview.stop.calls = preview.calls := by
  rw [stop]
  split <;> rfl

theorem calls_foldl_react (preview : Preview) (happening : List Reaction) :
    (happening.foldl react preview).calls = preview.calls := by
  induction happening generalizing preview with
  | nil => rfl
  | cons reaction happening inductionHypothesis =>
      rw [List.foldl_cons, inductionHypothesis]
      cases reaction with
      | stop => exact calls_stop preview
      | setPin pin high => rfl

theorem size_calls_call (preview : Preview) (panelCall : PanelCall) :
    (preview.call panelCall).calls.size = preview.calls.size + 1 := by
  rw [call_eq, calls_foldl_react]
  exact Array.size_push _

private theorem call_reactTo (panelCall : PanelCall)
    (later : (preview.call panelCall).calls.size < limit) :
    (preview.reactTo limit reactions).call panelCall =
      (preview.call panelCall).reactTo limit reactions := by
  rw [size_calls_call] at later
  have same : (preview.reactTo limit reactions).settings.reactions (preview.calls.size + 1) =
      preview.settings.reactions (preview.calls.size + 1) := if_neg (Nat.ne_of_lt later)
  rw [call_eq, call_eq, ← foldl_react_reactTo, ← same]
  rfl

private theorem grant_reactTo (request : Request)
    (later : (preview.grant number request).1.calls.size < limit) :
    (preview.reactTo limit reactions).grant number request =
      ((preview.grant number request).1.reactTo limit reactions,
        (preview.grant number request).2) := by
  cases request with
  | nothing => rfl
  | call panelCall => exact congrArg (·, true) (call_reactTo panelCall later)
  | drive pin high => exact congrArg (·, true) (call_reactTo (.indicator pin high) later)
  | rest milliseconds => rfl
  | yield => rfl

private theorem step_reactTo (later : (preview.step number).1.calls.size < limit) :
    (preview.reactTo limit reactions).step number =
      ((preview.step number).1.reactTo limit reactions, (preview.step number).2) := by
  cases found : preview.runs[number]? with
  | none =>
      have otherFound : (preview.reactTo limit reactions).runs[number]? = none := found
      rw [step_of_none found, step_of_none otherFound]
  | some run =>
      have otherFound : (preview.reactTo limit reactions).runs[number]? = some run := found
      by_cases ready : run.isReady preview.now
      · cases takes : run.machine.step (preview.scene run) with
        | none =>
            rw [step_of_end found ready takes, step_of_end otherFound ready takes]
            rfl
        | some taken =>
            obtain ⟨request, machine⟩ := taken
            rw [step_of_request found ready takes] at later ⊢
            rw [step_of_request otherFound ready takes]
            exact grant_reactTo request later
      · rw [step_of_unready found ready, step_of_unready otherFound ready]

end

/-- A process does not know what happens during a call before the call is made. -/
structure Unaware (limit : Nat) (reactions : List Reaction) (process : Preview → Preview) :
    Prop where
  grows : ∀ preview : Preview, preview.calls.size ≤ (process preview).calls.size
  same : ∀ preview : Preview, (process preview).calls.size < limit →
    process (preview.reactTo limit reactions) = (process preview).reactTo limit reactions

section

variable {limit : Nat} {reactions : List Reaction}

theorem Unaware.comp {first second : Preview → Preview} (later : Unaware limit reactions second)
    (earlier : Unaware limit reactions first) :
    Unaware limit reactions fun preview => second (first preview) where
  grows preview := Nat.le_trans (earlier.grows preview) (later.grows (first preview))
  same preview before := by
    have between := Nat.lt_of_le_of_lt (later.grows (first preview)) before
    rw [earlier.same preview between]
    exact later.same (first preview) before

private theorem unaware_id : Unaware limit reactions fun preview => preview :=
  ⟨fun _ => Nat.le_refl _, fun _ _ => rfl⟩

/-- What is not different with other reactions can decide about the process. -/
theorem Unaware.choose {choices : Type} (choice : Preview → choices)
    (processes : choices → Preview → Preview)
    (blind : ∀ preview : Preview, choice (preview.reactTo limit reactions) = choice preview)
    (all : ∀ chosen, Unaware limit reactions (processes chosen)) :
    Unaware limit reactions fun preview => processes (choice preview) preview where
  grows preview := (all (choice preview)).grows preview
  same preview later := by
    rw [blind preview]
    exact (all (choice preview)).same preview later

theorem Unaware.ite (condition : Preview → Bool) {first second : Preview → Preview}
    (blind : ∀ preview : Preview, condition (preview.reactTo limit reactions) = condition preview)
    (positive : Unaware limit reactions first) (negative : Unaware limit reactions second) :
    Unaware limit reactions fun preview =>
      if condition preview then first preview else second preview := by
  refine Unaware.choose condition
    (fun chosen preview => if chosen then first preview else second preview) blind ?_
  intro chosen
  cases chosen with
  | true => exact positive
  | false => exact negative

private theorem unaware_step (number : Nat) :
    Unaware limit reactions fun preview => (preview.step number).1 where
  grows preview := size_calls_act preview (.step number)
  same _ later := congrArg Prod.fst (step_reactTo later)

private theorem unaware_moveTo (instant : Nat) :
    Unaware limit reactions fun preview => preview.moveTo instant :=
  ⟨fun _ => Nat.le_refl _, fun _ _ => rfl⟩

theorem turn_succ (preview : Preview) (number steps : Nat) :
    turn number (steps + 1) preview =
      if (preview.step number).2 then turn number steps (preview.step number).1
      else (preview.step number).1 := by
  rw [turn]
  split
  · next after stepped => rw [stepped, if_pos rfl]
  · next after stepped =>
      rw [stepped]
      rfl

private theorem unaware_turn (number steps : Nat) :
    Unaware limit reactions (turn number steps) := by
  induction steps with
  | zero => exact unaware_id
  | succ steps inductionHypothesis =>
      refine ⟨?_, ?_⟩
      · intro preview
        have stepped := size_calls_act preview (.step number)
        rw [turn_succ]
        split
        · exact Nat.le_trans stepped (inductionHypothesis.grows _)
        · exact stepped
      · intro preview later
        rw [turn_succ] at later
        rw [turn_succ, turn_succ]
        split at later
        · next goesOn =>
            have before := Nat.lt_of_le_of_lt (inductionHypothesis.grows _) later
            rw [step_reactTo before, if_pos goesOn, if_pos goesOn]
            exact inductionHypothesis.same _ later
        · next ends => rw [step_reactTo later, if_neg ends, if_neg ends]

private theorem unaware_turns (steps : Nat) (numbers : List Nat) :
    Unaware limit reactions fun preview =>
      numbers.foldl (fun preview number => preview.turn number steps) preview := by
  induction numbers with
  | nil => exact unaware_id
  | cons number numbers inductionHypothesis =>
      exact inductionHypothesis.comp (unaware_turn number steps)

private theorem unaware_round (steps : Nat) : Unaware limit reactions (round steps) :=
  Unaware.choose readyRuns _ (fun _ => rfl) (unaware_turns steps)

private theorem unaware_awake {onWake : Nat → Preview → Preview} {otherwise : Preview → Preview}
    (waking : ∀ wakesAt, Unaware limit reactions (onWake wakesAt))
    (resting : Unaware limit reactions otherwise) (wake : Option Nat) :
    Unaware limit reactions fun preview =>
      match wake with
      | some wakesAt => onWake wakesAt preview
      | none => otherwise preview := by
  cases wake with
  | none => exact resting
  | some wakesAt => exact waking wakesAt

private theorem unaware_passUntil (instant rounds : Nat) :
    Unaware limit reactions (passUntil instant rounds) := by
  induction rounds with
  | zero => exact unaware_moveTo instant
  | succ rounds inductionHypothesis =>
      have moving (wakesAt : Nat) : Unaware limit reactions fun preview =>
          if wakesAt < instant then passUntil instant rounds (preview.moveTo wakesAt)
          else preview.moveTo instant := by
        by_cases early : wakesAt < instant
        · simp only [early, if_true]
          exact inductionHypothesis.comp (unaware_moveTo wakesAt)
        · simp only [early, if_false]
          exact unaware_moveTo instant
      have waking := inductionHypothesis.comp (unaware_round patience)
      have waiting := Unaware.choose nextWake? _ (fun _ => rfl)
        (unaware_awake moving (unaware_moveTo instant))
      exact Unaware.ite (fun preview => preview.readyRuns.isEmpty) (fun _ => rfl) waiting waking

private theorem unaware_sleep (milliseconds : Nat) :
    Unaware limit reactions fun preview => preview.sleep milliseconds := by
  by_cases zero : milliseconds = 0
  · subst zero
    exact unaware_id
  · have sleeps : (fun preview : Preview => preview.sleep milliseconds) =
        fun preview => passUntil (preview.now + milliseconds) patience preview := by
      funext preview
      exact if_neg zero
    have passing (start : Nat) :
        Unaware limit reactions (passUntil (start + milliseconds) patience) :=
      unaware_passUntil (start + milliseconds) patience
    rw [sleeps]
    exact Unaware.choose now _ (fun _ => rfl) passing

private theorem unaware_passToEnd (number rounds : Nat) :
    Unaware limit reactions (passToEnd number rounds) := by
  induction rounds with
  | zero => exact unaware_id
  | succ rounds inductionHypothesis =>
      have moving (wakesAt : Nat) := inductionHypothesis.comp (unaware_moveTo wakesAt)
      have waking := inductionHypothesis.comp (unaware_round patience)
      have waiting := Unaware.choose nextWake? _ (fun _ => rfl) (unaware_awake moving unaware_id)
      have going := Unaware.ite (fun preview => preview.readyRuns.isEmpty) (fun _ => rfl)
        waiting waking
      exact Unaware.ite (fun preview => (preview.report? number).isSome) (fun _ => rfl)
        unaware_id going

private theorem unaware_call (panelCall : PanelCall) :
    Unaware limit reactions fun preview => preview.call panelCall where
  grows preview := by
    rw [size_calls_call]
    exact Nat.le_succ _
  same _ later := call_reactTo panelCall later

private theorem unaware_install (statements : Chain) :
    Unaware limit reactions fun preview => preview.install statements := by
  have coloring (color : String) :
      Unaware limit reactions fun preview => preview.call (.color color) :=
    unaware_call (.color color)
  have colored := Unaware.choose (fun preview => preview.settings.color) _ (fun _ => rfl) coloring
  have ready := (unaware_call .clear).comp colored
  have pushed : Unaware limit reactions fun preview =>
      { preview with
        runs := preview.runs.push ⟨Machine.start statements
          (preview.settings.dice preview.runs.size), preview.now, none, none, none⟩
        current := some preview.runs.size } := ⟨fun _ => Nat.le_refl _, fun _ _ => rfl⟩
  exact pushed.comp ready

private theorem unaware_stop : Unaware limit reactions stop where
  grows preview := Nat.le_of_eq (congrArg Array.size (calls_stop preview).symm)
  same preview _ := react_reactTo preview .stop

private theorem unaware_act (act : Act) :
    Unaware limit reactions fun preview => preview.act act := by
  cases act with
  | step number => exact unaware_step number
  | moveTo instant => exact unaware_moveTo instant
  | sleep milliseconds => exact unaware_sleep milliseconds
  | finish number => exact unaware_passToEnd number patience
  | run program =>
      have stopped (settle : Nat) : Unaware limit reactions fun preview =>
          (preview.stop.sleep settle).install program.actions :=
        (unaware_install program.actions).comp ((unaware_sleep settle).comp unaware_stop)
      have settled := Unaware.choose (fun preview => preview.settings.settle) _ (fun _ => rfl)
        stopped
      exact Unaware.ite isRunning (fun _ => rfl) settled (unaware_install program.actions)
  | setPin pin high => exact ⟨fun _ => Nat.le_refl _, fun _ _ => rfl⟩
  | togglePin pin => exact ⟨fun _ => Nat.le_refl _, fun _ _ => rfl⟩
  | stop => exact unaware_stop
  | stopRun number => exact ⟨fun _ => Nat.le_refl _, fun _ _ => rfl⟩

theorem unaware_follow (acts : List Act) :
    Unaware limit reactions fun preview => preview.follow acts := by
  induction acts with
  | nil => exact unaware_id
  | cons act acts inductionHypothesis => exact inductionHypothesis.comp (unaware_act act)

end

end Preview

end Marquee
