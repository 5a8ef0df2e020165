import Marquee.Proofs.Run.Starts

/-!
# Silence after a stop

After a stop nothing is called until the next start begins, whether the stop is made between two
acts or while a run calls the panel. A stop that is made while a start is under way is not kept:
it is about the run before, and the start leaves its own run going all the same.
-/

namespace Marquee

namespace Preview

variable {preview : Preview} {number : Nat}

theorem OneLive.calm_foldl_react (oneLive : preview.OneLive) {reactions : List Reaction}
    (stops : .stop ∈ reactions) : (reactions.foldl react preview).Calm := by
  induction reactions generalizing preview with
  | nil => cases stops
  | cons reaction reactions inductionHypothesis =>
      rcases List.mem_cons.mp stops with rfl | later
      · exact (withstands_calm 0).react reactions oneLive.calm_stop
      · exact inductionHypothesis ((withstands_oneLive 0).react [reaction] oneLive) later

theorem OneLive.calm_call (oneLive : preview.OneLive) (panelCall : PanelCall)
    (stops : .stop ∈ preview.settings.reactions (preview.calls.size + 1)) :
    (preview.call panelCall).Calm := by
  have recorded := (withstands_oneLive 0).record panelCall oneLive
  rw [call_eq]
  exact recorded.calm_foldl_react stops

theorem OneLive.calm_grant (oneLive : preview.OneLive) {request : Request}
    (called : (preview.grant number request).1.calls.size ≠ preview.calls.size)
    (stops : .stop ∈ preview.settings.reactions (preview.calls.size + 1)) :
    (preview.grant number request).1.Calm := by
  cases request with
  | call panelCall => exact oneLive.calm_call panelCall stops
  | drive pin high =>
      have driven : (preview.setPin pin high).OneLive :=
        (withstands_oneLive 0).setPin pin high oneLive
      exact driven.calm_call (.indicator pin high) stops
  | nothing => exact absurd rfl called
  | rest milliseconds => exact absurd rfl called
  | yield => exact absurd rfl called

/-- When a step calls the panel, a stop during the call is the end of all runs. -/
theorem OneLive.calm_step (oneLive : preview.OneLive)
    (called : (preview.step number).1.calls.size ≠ preview.calls.size)
    (stops : .stop ∈ preview.settings.reactions (preview.calls.size + 1)) :
    (preview.step number).1.Calm := by
  cases found : preview.runs[number]? with
  | none =>
      rw [step_of_none found] at called
      exact absurd rfl called
  | some run =>
      by_cases ready : run.isReady preview.now
      · cases takes : run.machine.step (preview.scene run) with
        | none =>
            rw [step_of_end found ready takes] at called
            exact absurd rfl called
        | some taken =>
            obtain ⟨request, machine⟩ := taken
            rw [step_of_request found ready takes] at called ⊢
            have resumed : (preview.modifyRun number fun run =>
                { run with machine, wakesAt := none }).OneLive :=
              oneLive.modifyRun number fun _ live => ⟨live, rfl⟩
            exact resumed.calm_grant called stops
      · rw [step_of_unready found ready] at called
        exact absurd rfl called

/-- A stop has just been made in a preview, while no start is under way. -/
inductive StopMade (settings : PreviewSettings) (pins : PinBank) : Preview → Prop where
  | between (acts : List Act) : StopMade settings pins ((start settings pins).follow acts).stop
  /-- The stop is made during a call of the panel that a run makes. -/
  | during (acts : List Act) (number : Nat)
      (called : ((start settings pins).follow (acts ++ [.step number])).calls.size ≠
        ((start settings pins).follow acts).calls.size)
      (stops : .stop ∈ settings.reactions (((start settings pins).follow acts).calls.size + 1)) :
      StopMade settings pins ((start settings pins).follow (acts ++ [.step number]))

variable {settings : PreviewSettings} {pins : PinBank} {stopped : Preview}

theorem StopMade.calm (made : StopMade settings pins stopped) : stopped.Calm := by
  cases made with
  | between acts => exact (oneLive_follow settings pins acts).calm_stop
  | during acts number called stops =>
      have given : ((start settings pins).follow acts).settings = settings :=
        (lasts_settings settings).follow acts rfl
      have reacts : .stop ∈ ((start settings pins).follow acts).settings.reactions
          (((start settings pins).follow acts).calls.size + 1) := by
        rw [given]
        exact stops
      rw [follow_snoc] at called ⊢
      exact (oneLive_follow settings pins acts).calm_step called reacts

theorem Calm.calm_follow (calm : preview.Calm) {acts : List Act}
    (noRun : ∀ program, .run program ∉ acts) : (preview.follow acts).Calm := by
  refine follow_induction ?_ calm
  intro act member preview calm
  refine (calm.act ?_).1
  rintro program rfl
  exact noRun program member

private theorem isRunning_install (preview : Preview) (statements : Chain) :
    (preview.install statements).isRunning := by
  rw [isRunning, status, currentRun?, install]
  dsimp only
  rw [Option.bind_some, Array.getElem?_push_size]
  rfl

/-- A start leaves its run going, whatever is stopped while it makes the panel ready. -/
theorem isRunning_run (preview : Preview) (program : Program) :
    (preview.run program).isRunning := by
  rw [run]
  split <;> exact isRunning_install _ _

/-- After a stop nothing is called and nothing runs until the next start, which leaves its run going
whatever is stopped meanwhile. -/
theorem StopMade.silence (made : StopMade settings pins stopped) {later : List Act}
    (noRun : ∀ program, .run program ∉ later) :
    (stopped.follow later).calls = stopped.calls ∧ ¬ (stopped.follow later).isRunning ∧
      ∀ program, ((stopped.follow later).run program).isRunning :=
  ⟨(made.calm.follow noRun).1, (made.calm.calm_follow noRun).not_isRunning,
    isRunning_run (stopped.follow later)⟩

/-- A stop during the call with this number. -/
def interrupting (ordinal : Nat) : PreviewSettings :=
  { (default : PreviewSettings) with
    reactions := fun call => if call = ordinal then [.stop] else [] }

/-- Stopped during the call for its first image, a program that shows one every second shows no
other. -/
theorem silence_ticking :
    let acts := [.run ticking, .step 0, .step 0]
    let stopped := (start (interrupting 3) .low).follow (acts ++ [.step 0])
    StopMade (interrupting 3) .low stopped ∧ (stopped.follow [.sleep 5000]).calls = stopped.calls ∧
      stopped.calls = #[(0, .color "#FFFFFF"), (0, .clear), (0, .image "tick")] := by
  intro acts stopped
  have made : StopMade (interrupting 3) .low stopped :=
    .during acts 0 (by decide) (List.mem_singleton_self _)
  have noRun : ∀ program, .run program ∉ [Act.sleep 5000] := by
    intro program member
    cases List.mem_singleton.mp member
  exact ⟨made, (made.silence noRun).1, rfl⟩

/-- Stopped during the call that clears the panel for it, the same program is going on after its
start, and shows its image. -/
theorem stop_lost_ticking :
    let started := (start (interrupting 2) .low).run ticking
    .stop ∈ started.settings.reactions started.calls.size ∧ started.isRunning ∧
      started.calls = #[(0, .color "#FFFFFF"), (0, .clear)] ∧
        (started.follow [.step 0, .step 0, .step 0]).calls =
          started.calls.push (0, .image "tick") :=
  ⟨List.mem_singleton_self _, rfl, rfl, rfl⟩

end Preview

/-- Nor is a stop kept that is made while a start pauses: when the start goes on, its run does. -/
theorem Stage.isRunning_resume {stage : Stage} {index : Nat} {program : Program} {instant : Nat}
    (pausing : stage.pauses[index]? = some (program, instant))
    (due : instant ≤ stage.preview.now) : (stage.move (.resume index)).preview.isRunning := by
  rw [move, pausing]
  dsimp only
  rw [if_pos due]
  exact Preview.isRunning_install _ _

end Marquee
