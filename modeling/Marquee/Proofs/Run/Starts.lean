import Marquee.Proofs.Run.Stopping

/-!
# Starts that overlap

A start that finds a run going on stops it, and pauses before it installs its own. Anything can
happen in the pause, other starts included, and the start goes on without looking again. Started one
after another, no two runs are ever live. But what another start has installed in the pause is left
running beside the new run, out of reach of the preview.
-/

namespace Marquee

/-- A preview, and the starts that pause, each with its program and the instant at which it may go
on. -/
structure Stage where
  preview : Preview
  pauses : List (Program × Nat)

/-- Something that happens while starts may be under way. -/
inductive Move where
  /-- Something that is not about a start. -/
  | act (act : Act) (noRun : ∀ program, act ≠ .run program)
  /-- A start begins. Unless it has to pause, it is over at once. -/
  | enter (program : Program)
  /-- One of the starts that pause goes on. -/
  | resume (index : Nat)

namespace Stage

def fresh (settings : PreviewSettings) (pins : PinBank) : Stage :=
  ⟨.start settings pins, []⟩

def move (stage : Stage) : Move → Stage
  | .act act _ => { stage with preview := stage.preview.act act }
  | .enter program =>
    if stage.preview.isRunning then
      ⟨stage.preview.stop,
        stage.pauses ++ [(program, stage.preview.now + stage.preview.settings.settle)]⟩
    else { stage with preview := stage.preview.install program.actions }
  | .resume index =>
    match stage.pauses[index]? with
    | none => stage
    | some (program, instant) =>
      if instant ≤ stage.preview.now then
        ⟨stage.preview.install program.actions, stage.pauses.eraseIdx index⟩
      else stage

/-- The stage after all these moves, one after the other. -/
def follow (stage : Stage) (moves : List Move) : Stage :=
  moves.foldl move stage

end Stage

namespace Preview

private theorem exists_of_isRunning {preview : Preview} (running : preview.isRunning) :
    ∃ number run, preview.current = some number ∧ preview.runs[number]? = some run ∧
      run.isLive := by
  rw [isRunning, status] at running
  split at running
  · cases running
  · next run found =>
      obtain ⟨number, current, listed⟩ := Option.bind_eq_some_iff.mp found
      refine ⟨number, run, current, listed, ?_⟩
      split at running
      · next live => exact live
      · cases running

theorem Calm.not_isRunning {preview : Preview} (calm : preview.Calm) : ¬ preview.isRunning := by
  intro running
  obtain ⟨number, run, _, found, live⟩ := exists_of_isRunning running
  exact calm number run found live

private theorem le_now_passUntil (preview : Preview) (instant rounds : Nat) :
    instant ≤ (passUntil instant rounds preview).now := by
  have moved (preview : Preview) : instant ≤ (preview.moveTo instant).now :=
    Nat.le_max_right _ _
  induction rounds generalizing preview with
  | zero => exact moved preview
  | succ rounds inductionHypothesis =>
      rw [passUntil]
      split
      · split
        · split
          · exact inductionHypothesis _
          · exact moved preview
        · exact moved preview
      · exact inductionHypothesis _

private theorem le_now_sleep (preview : Preview) (milliseconds : Nat) :
    preview.now + milliseconds ≤ (preview.sleep milliseconds).now := by
  rw [sleep]
  split
  · next none => exact Nat.le_of_eq (congrArg (preview.now + ·) none)
  · exact le_now_passUntil _ _ _

end Preview

namespace Stage

open Preview

/-- A start whose pause is slept through at once is a start as a whole. -/
theorem follow_start {preview : Preview} (running : preview.isRunning) (program : Program) :
    (Stage.mk preview []).follow
        [.enter program, .act (.sleep preview.settings.settle) nofun, .resume 0] =
      ⟨preview.run program, []⟩ := by
  have settings : preview.stop.settings = preview.settings :=
    (lasts_settings preview.settings).act .stop rfl
  have now : preview.stop.now = preview.now := (withstands_now 0 preview.now).stop rfl
  have entered : (Stage.mk preview []).move (.enter program) =
      ⟨preview.stop, [(program, preview.now + preview.settings.settle)]⟩ := if_pos running
  have due : preview.now + preview.settings.settle ≤
      (preview.stop.sleep preview.settings.settle).now := by
    rw [← now]
    exact le_now_sleep preview.stop preview.settings.settle
  rw [follow, List.foldl_cons, entered, Preview.run, if_pos running]
  exact if_pos due

theorem follow_start_idle {preview : Preview} (idle : ¬ preview.isRunning) (program : Program) :
    (Stage.mk preview []).follow [.enter program] = ⟨preview.run program, []⟩ := by
  rw [follow, List.foldl_cons, List.foldl_nil, move, if_neg idle, Preview.run, if_neg idle]

/-- A start goes on only while no run is live. -/
def Heeds (stage : Stage) : Move → Prop
  | .resume _ => stage.pauses = [] ∨ ¬ stage.preview.isRunning
  | _ => True

/-- No start begins while another one pauses. -/
def InOrder (stage : Stage) : Move → Prop
  | .enter _ => stage.pauses = []
  | _ => True

/-- A condition holds of all these moves, each at its time. -/
def Always (condition : Stage → Move → Prop) : Stage → List Move → Prop
  | _, [] => True
  | stage, move :: moves => condition stage move ∧ Always condition (stage.move move) moves

variable {stage : Stage}

private theorem oneLive_move (oneLive : stage.preview.OneLive) {move : Move}
    (heeds : stage.Heeds move) :
    (stage.move move).preview.OneLive := by
  cases move with
  | act act noRun => exact oneLive.act act
  | enter program =>
      rw [Stage.move]
      split
      · exact oneLive.stop
      · next idle => exact (oneLive.calm_of_not_isRunning idle).oneLive_install program.actions
  | resume index =>
      rw [Stage.move]
      split
      · exact oneLive
      · next program instant found =>
          split
          · rcases heeds with none | idle
            · rw [none] at found
              cases found
            · exact (oneLive.calm_of_not_isRunning idle).oneLive_install program.actions
          · exact oneLive

private theorem oneLive_follow (oneLive : stage.preview.OneLive) {moves : List Move}
    (heeded : Always Heeds stage moves) : (stage.follow moves).preview.OneLive := by
  induction moves generalizing stage with
  | nil => exact oneLive
  | cons move moves inductionHypothesis =>
      exact inductionHypothesis (oneLive_move oneLive heeded.1) heeded.2

/-- While starts come one after another: a start that pauses has no other one beside it, and no run
is live then. -/
structure Orderly (stage : Stage) : Prop where
  oneLive : stage.preview.OneLive
  alone : stage.pauses.length ≤ 1
  calm : stage.pauses ≠ [] → stage.preview.Calm

theorem Orderly.heeds (orderly : stage.Orderly) (move : Move) : stage.Heeds move := by
  cases move with
  | resume index =>
      by_cases none : stage.pauses = []
      · exact .inl none
      · exact .inr (orderly.calm none).not_isRunning
  | _ => trivial

theorem Orderly.move (orderly : stage.Orderly) {move : Move} (inOrder : stage.InOrder move) :
    (stage.move move).Orderly := by
  have oneLive := oneLive_move orderly.oneLive (orderly.heeds move)
  cases move with
  | act act noRun =>
      exact ⟨oneLive, orderly.alone, fun pausing => ((orderly.calm pausing).act noRun).1⟩
  | enter program =>
      have none : stage.pauses = [] := inOrder
      rw [Stage.move] at oneLive ⊢
      split
      · refine ⟨orderly.oneLive.stop, ?_, fun _ => orderly.oneLive.calm_stop⟩
        rw [none]
        exact Nat.le_refl 1
      · next idle =>
          rw [if_neg idle] at oneLive
          exact ⟨oneLive, orderly.alone, fun pausing => absurd none pausing⟩
  | resume index =>
      rw [Stage.move] at oneLive ⊢
      split
      · exact orderly
      · next program instant found =>
          rw [found] at oneLive
          dsimp only at oneLive
          split
          · next due =>
              rw [if_pos due] at oneLive
              -- The start that goes on was the only one that paused.
              have erased : stage.pauses.eraseIdx index = [] := by
                have alone := orderly.alone
                have inside := (List.getElem?_eq_some_iff.mp found).1
                rw [← List.length_eq_zero_iff, List.length_eraseIdx_of_lt inside]
                omega
              rw [erased]
              exact ⟨oneLive, Nat.zero_le 1, fun pausing => absurd rfl pausing⟩
          · exact orderly

theorem Orderly.follow (orderly : stage.Orderly) {moves : List Move}
    (inOrder : Always InOrder stage moves) : (stage.follow moves).Orderly := by
  induction moves generalizing stage with
  | nil => exact orderly
  | cons move moves inductionHypothesis =>
      exact inductionHypothesis (orderly.move inOrder.1) inOrder.2

private theorem orderly_fresh (settings : PreviewSettings) (pins : PinBank) :
    (fresh settings pins).Orderly := by
  refine ⟨?_, Nat.zero_le 1, fun pausing => absurd rfl pausing⟩
  intro number run found
  cases found

/-- Whatever happens in the pauses, no two runs are live as long as no start goes on beside a live
run. -/
theorem oneLive_of_heeds (settings : PreviewSettings) (pins : PinBank) {moves : List Move}
    (heeded : Always Heeds (fresh settings pins) moves) :
    ((fresh settings pins).follow moves).preview.OneLive :=
  oneLive_follow (orderly_fresh settings pins).oneLive heeded

/-- A start, and another one that is stopped while it pauses, but goes on all the same. -/
theorem oneLive_of_heeds_ticking :
    let moves := [.enter ticking, .enter ticking, .act .stop nofun, .act (.moveTo 100) nofun,
      .resume 0]
    Always Heeds (fresh default .low) moves ∧
      ((fresh default .low).follow moves).preview.OneLive ∧
      ((fresh default .low).follow moves).preview.isRunLive 1 := by
  intro moves
  have heeded : Always Heeds (fresh default .low) moves :=
    ⟨trivial, trivial, trivial, trivial, .inr (by decide), trivial⟩
  exact ⟨heeded, oneLive_of_heeds default .low heeded, rfl⟩

/-- Starts that come one after another never leave two runs live, and in their pauses none is. -/
theorem orderly_of_inOrder (settings : PreviewSettings) (pins : PinBank) {moves : List Move}
    (inOrder : Always InOrder (fresh settings pins) moves) :
    ((fresh settings pins).follow moves).Orderly :=
  (orderly_fresh settings pins).follow inOrder

end Stage

namespace Preview

theorem runs_foldl_react {reactions : List Reaction} (quiet : .stop ∉ reactions)
    (preview : Preview) : (reactions.foldl react preview).runs = preview.runs := by
  induction reactions generalizing preview with
  | nil => rfl
  | cons reaction reactions inductionHypothesis =>
      have others := inductionHypothesis fun member => quiet (List.mem_cons_of_mem _ member)
      cases reaction with
      | stop => exact absurd List.mem_cons_self quiet
      | setPin pin high => exact others (preview.setPin pin high)

/-- Unless the run that is going on is stopped in the meantime, it stays live beside a new one. -/
theorem not_oneLive_install {preview : Preview}
    (quiet : ∀ call, .stop ∉ preview.settings.reactions call) (running : preview.isRunning)
    (statements : Chain) : ¬ (preview.install statements).OneLive := by
  have runs_call (preview : Preview) (quiet : ∀ call, .stop ∉ preview.settings.reactions call)
      (panelCall : PanelCall) : (preview.call panelCall).runs = preview.runs := by
    rw [call_eq]
    exact runs_foldl_react (quiet _) _
  have settings : (preview.call (.color preview.settings.color)).settings = preview.settings :=
    ((lasts_settings preview.settings).withstands 0).call _ rfl
  have stillQuiet : ∀ call, .stop ∉
      (preview.call (.color preview.settings.color)).settings.reactions call := by
    rw [settings]
    exact quiet
  have runs : ((preview.call (.color preview.settings.color)).call .clear).runs = preview.runs := by
    rw [runs_call _ stillQuiet, runs_call _ quiet]
  obtain ⟨number, run, _, found, live⟩ := exists_of_isRunning running
  have inside := (Array.getElem?_eq_some_iff.mp found).1
  -- The run is found where it was, while the current one is a new one at the end.
  intro oneLive
  have still : (preview.install statements).runs[number]? = some run := by
    rw [install, Array.getElem?_push, runs, if_neg (Nat.ne_of_lt inside), found]
  have current := (oneLive number run still live).1
  rw [install, runs] at current
  exact Nat.ne_of_gt inside (Option.some.inj current)

end Preview

namespace Stage

open Preview

/-- A start that goes on beside a live run leaves two live. -/
theorem not_oneLive_resume {stage : Stage} {index : Nat} {program : Program} {instant : Nat}
    (quiet : ∀ call, .stop ∉ stage.preview.settings.reactions call)
    (pausing : stage.pauses[index]? = some (program, instant))
    (due : instant ≤ stage.preview.now) (running : stage.preview.isRunning) :
    ¬ (stage.move (.resume index)).preview.OneLive := by
  rw [move, pausing]
  dsimp only
  rw [if_pos due]
  exact not_oneLive_install quiet running program.actions

/-- Three starts, of which the last is over while the one before it pauses. -/
def overlapping : List Move :=
  [.enter ticking, .enter ticking, .enter ticking, .act (.moveTo 100) nofun, .resume 0]

/-- Two runs are live after them. The preview knows one of the two only, and when it is stopped, and
says so, the other one goes on to call the panel. -/
theorem two_live_overlapping :
    let preview := ((fresh default .low).follow overlapping).preview
    preview.isRunLive 1 ∧ preview.isRunLive 2 ∧ preview.current = some 2 ∧
      ¬ preview.stop.isRunning ∧ preview.stop.isRunLive 1 ∧
        (preview.stop.follow [.step 1, .step 1, .step 1]).calls =
          preview.stop.calls.push (100, .image "tick") :=
  ⟨rfl, rfl, rfl, Bool.false_ne_true, rfl, rfl⟩

end Stage

end Marquee
