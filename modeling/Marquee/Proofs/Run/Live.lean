import Marquee.Proofs.Run.Acts

/-!
# Which run is live

What a step does to a preview is said once, as changes of the run that takes it, of pins and of
calls. From it follows that no run is live but the one that was started last.
-/

namespace Marquee

/-- A change of runs that makes none live again, and reports none that stays live. -/
def Run.Fading (change : Run → Run) : Prop :=
  ∀ run : Run, (change run).isLive → run.isLive ∧ (change run).report = run.report

theorem Run.fading_stop (now : Nat) : Fading fun run => run.stop now := by
  intro run live
  cases live

private theorem Run.fading_finish (now : Nat) : Fading fun run => run.finish now := by
  intro run live
  cases live

namespace Preview

theorem runs_modifyRun (preview : Preview) (number other : Nat) (change : Run → Run) :
    (preview.modifyRun number change).runs[other]? =
      if number = other then preview.runs[other]?.map change else preview.runs[other]? :=
  Array.getElem?_modify

/-- A run that is live after a change was so before. -/
theorem exists_of_modifyRun {preview : Preview} {number other : Nat} {change : Run → Run}
    (fading : Run.Fading change) {run : Run}
    (found : (preview.modifyRun number change).runs[other]? = some run) (live : run.isLive) :
    ∃ old, preview.runs[other]? = some old ∧ old.isLive ∧ run.report = old.report := by
  rw [runs_modifyRun] at found
  split at found
  · obtain ⟨old, oldFound, rfl⟩ := Option.map_eq_some_iff.mp found
    obtain ⟨oldLive, sameReport⟩ := fading old live
    exact ⟨old, oldFound, oldLive, sameReport⟩
  · exact ⟨run, found, live, rfl⟩

/-- The preview with one more call of the panel, before anything happens outside. -/
def record (preview : Preview) (panelCall : PanelCall) : Preview :=
  { preview with calls := preview.calls.push (preview.now, panelCall) }

theorem call_eq (preview : Preview) (panelCall : PanelCall) :
    preview.call panelCall =
      (preview.settings.reactions (preview.calls.size + 1)).foldl react
        (preview.record panelCall) := by
  rw [call, ← Array.size_push]
  rfl

/-- A property withstands all that can happen while a run takes a step. -/
structure Withstands (number : Nat) (kept : Preview → Prop) : Prop where
  change : ∀ {preview : Preview} {change : Run → Run}, Run.Fading change → kept preview →
    kept (preview.modifyRun number change)
  record : ∀ {preview : Preview} (panelCall : PanelCall), kept preview →
    kept (preview.record panelCall)
  setPin : ∀ {preview : Preview} (pin : UInt8) (high : Bool), kept preview →
    kept (preview.setPin pin high)
  stop : ∀ {preview : Preview}, kept preview → kept preview.stop

namespace Withstands

variable {number : Nat} {kept : Preview → Prop} {preview : Preview}

theorem react (withstands : Withstands number kept) (reactions : List Reaction)
    (holds : kept preview) : kept (reactions.foldl Preview.react preview) := by
  induction reactions generalizing preview with
  | nil => exact holds
  | cons reaction reactions inductionHypothesis =>
      apply inductionHypothesis
      cases reaction with
      | stop => exact withstands.stop holds
      | setPin pin high => exact withstands.setPin pin high holds

theorem call (withstands : Withstands number kept) (panelCall : PanelCall)
    (holds : kept preview) : kept (preview.call panelCall) := by
  rw [call_eq]
  exact withstands.react _ (withstands.record panelCall holds)

theorem grant (withstands : Withstands number kept) (request : Request) (holds : kept preview) :
    kept (preview.grant number request).1 := by
  cases request with
  | nothing => exact holds
  | call panelCall => exact withstands.call panelCall holds
  | drive pin high => exact withstands.call _ (withstands.setPin pin high holds)
  | rest milliseconds => exact withstands.change (fun _ live => ⟨live, rfl⟩) holds
  | yield => exact holds

theorem step (withstands : Withstands number kept) (holds : kept preview) :
    kept (preview.step number).1 := by
  rw [Preview.step]
  split
  · exact holds
  · split
    · split
      · exact withstands.change (Run.fading_finish _) holds
      · apply withstands.grant
        exact withstands.change (fun _ live => ⟨live, rfl⟩) holds
    · exact holds

end Withstands

/-- A property lasts whatever happens to a preview. -/
structure Lasts (kept : Preview → Prop) : Prop where
  withstands : ∀ number, Withstands number kept
  moveTo : ∀ {preview : Preview} (instant : Nat), kept preview → kept (preview.moveTo instant)
  push : ∀ {preview : Preview} (run : Run), kept preview →
    kept { preview with runs := preview.runs.push run, current := some preview.runs.size }

namespace Lasts

variable {kept : Preview → Prop} {preview : Preview}

theorem keeps (lasts : Lasts kept) : Keeps kept :=
  ⟨⟨fun number holds => (lasts.withstands number).step holds⟩, lasts.moveTo⟩

theorem install (lasts : Lasts kept) (statements : Chain) (holds : kept preview) :
    kept (preview.install statements) := by
  have reset := (lasts.withstands 0).call (.color preview.settings.color) holds
  exact lasts.push _ ((lasts.withstands 0).call .clear reset)

theorem act (lasts : Lasts kept) (act : Act) (holds : kept preview) : kept (preview.act act) := by
  cases act with
  | step number => exact (lasts.withstands number).step holds
  | moveTo instant => exact lasts.moveTo instant holds
  | sleep milliseconds => exact lasts.keeps.sleep milliseconds holds
  | finish number => exact lasts.keeps.finish number holds
  | run program =>
      rw [Preview.act, Preview.run]
      split
      · apply lasts.install
        exact lasts.keeps.sleep _ ((lasts.withstands 0).stop holds)
      · exact lasts.install program.actions holds
  | setPin pin high => exact (lasts.withstands 0).setPin pin high holds
  | togglePin pin => exact (lasts.withstands 0).setPin pin _ holds
  | stop => exact (lasts.withstands 0).stop holds
  | stopRun number => exact (lasts.withstands number).change (Run.fading_stop _) holds

theorem follow (lasts : Lasts kept) (acts : List Act) (holds : kept preview) :
    kept (preview.follow acts) :=
  follow_induction (fun act _ _ holds => lasts.act act holds) holds

end Lasts

theorem lasts_settings (settings : PreviewSettings) :
    Lasts fun preview => preview.settings = settings where
  withstands _ := ⟨fun _ same => same, fun _ same => same, fun _ _ same => same, fun same => by
    rw [stop]
    split <;> exact same⟩
  moveTo _ same := same
  push _ same := same

/-- Calls are never taken back. -/
theorem lasts_calls (earlier : List (Nat × PanelCall)) :
    Lasts fun preview => earlier <+: preview.calls.toList where
  withstands _ := {
    change := fun _ before => before
    record := fun {preview} panelCall before => by
      rw [record, Array.toList_push]
      exact before.trans (List.prefix_append _ _)
    setPin := fun _ _ before => before
    stop := fun before => by
      rw [stop]
      split <;> exact before }
  moveTo _ before := before
  push _ before := before

theorem size_calls_act (preview : Preview) (act : Act) :
    preview.calls.size ≤ (preview.act act).calls.size :=
  ((lasts_calls preview.calls.toList).act act (List.prefix_refl _)).length_le

/-- No run is live. -/
def Calm (preview : Preview) : Prop :=
  ∀ (number : Nat) (run : Run), preview.runs[number]? = some run → ¬ run.isLive

/-- No run is live but the one that was started last, and it has not ended. -/
def OneLive (preview : Preview) : Prop :=
  ∀ (number : Nat) (run : Run), preview.runs[number]? = some run → run.isLive →
    preview.current = some number ∧ run.report = none

theorem Calm.modifyRun {preview : Preview} (calm : preview.Calm) (number : Nat)
    {change : Run → Run} (fading : Run.Fading change) :
    (preview.modifyRun number change).Calm := by
  intro other run found live
  obtain ⟨old, oldFound, oldLive, _⟩ := exists_of_modifyRun fading found live
  exact calm other old oldFound oldLive

theorem OneLive.modifyRun {preview : Preview} (oneLive : preview.OneLive) (number : Nat)
    {change : Run → Run} (fading : Run.Fading change) :
    (preview.modifyRun number change).OneLive := by
  intro other run found live
  obtain ⟨old, oldFound, oldLive, sameReport⟩ := exists_of_modifyRun fading found live
  obtain ⟨current, going⟩ := oneLive other old oldFound oldLive
  exact ⟨current, sameReport.trans going⟩

theorem Calm.stop {preview : Preview} (calm : preview.Calm) : preview.stop.Calm := by
  rw [Preview.stop]
  split
  · exact calm.modifyRun _ (Run.fading_stop _)
  · exact calm

theorem OneLive.stop {preview : Preview} (oneLive : preview.OneLive) : preview.stop.OneLive := by
  rw [Preview.stop]
  split
  · exact oneLive.modifyRun _ (Run.fading_stop _)
  · exact oneLive

theorem withstands_calm (number : Nat) : Withstands number Calm where
  change fading calm := calm.modifyRun number fading
  record _ calm := calm
  setPin _ _ calm := calm
  stop calm := calm.stop

theorem withstands_oneLive (number : Nat) : Withstands number OneLive where
  change fading oneLive := oneLive.modifyRun number fading
  record _ oneLive := oneLive
  setPin _ _ oneLive := oneLive
  stop oneLive := oneLive.stop

theorem keeps_calm : Keeps Calm :=
  ⟨⟨fun number calm => (withstands_calm number).step calm⟩, fun _ calm => calm⟩

theorem keeps_oneLive : Keeps OneLive :=
  ⟨⟨fun number oneLive => (withstands_oneLive number).step oneLive⟩,
    fun _ oneLive => oneLive⟩

theorem OneLive.calm_stopRun {preview : Preview} {number : Nat} (oneLive : preview.OneLive)
    (current : preview.current = some number) : (preview.stopRun number).Calm := by
  intro other run found live
  rw [stopRun, runs_modifyRun] at found
  split at found
  · obtain ⟨old, _, rfl⟩ := Option.map_eq_some_iff.mp found
    cases live
  · next different =>
      have last := (oneLive other run found live).1
      rw [current] at last
      exact different (Option.some.inj last)

theorem OneLive.calm_stop {preview : Preview} (oneLive : preview.OneLive) :
    preview.stop.Calm := by
  rw [Preview.stop]
  split
  · next number current => exact oneLive.calm_stopRun current
  · next absent =>
      intro number run found live
      have current := (oneLive number run found live).1
      rw [absent] at current
      cases current

theorem OneLive.calm_of_not_isRunning {preview : Preview} (oneLive : preview.OneLive)
    (idle : ¬ preview.isRunning) : preview.Calm := by
  intro number run found live
  have current := (oneLive number run found live).1
  apply idle
  rw [isRunning, status, currentRun?, current, Option.bind_some, found]
  dsimp only
  rw [if_pos live]
  rfl

theorem Calm.oneLive_install {preview : Preview} (calm : preview.Calm) (statements : Chain) :
    (preview.install statements).OneLive := by
  have reset := (withstands_calm 0).call (.color preview.settings.color) calm
  have ready := (withstands_calm 0).call .clear reset
  intro number run found live
  rw [install, Array.getElem?_push] at found
  split at found
  · next last =>
      cases found
      exact ⟨congrArg some last.symm, rfl⟩
  · exact absurd live (ready number run found)

/-- Whatever happens to a preview, only the run that was started last can be live. -/
theorem OneLive.act {preview : Preview} (oneLive : preview.OneLive) (act : Act) :
    (preview.act act).OneLive := by
  cases act with
  | step number => exact keeps_oneLive.step number oneLive
  | moveTo _ => exact oneLive
  | sleep milliseconds => exact keeps_oneLive.sleep milliseconds oneLive
  | finish number => exact keeps_oneLive.finish number oneLive
  | run program =>
      rw [Preview.act, Preview.run]
      split
      · exact (keeps_calm.sleep _ oneLive.calm_stop).oneLive_install program.actions
      · next idle => exact (oneLive.calm_of_not_isRunning idle).oneLive_install program.actions
  | setPin _ _ => exact oneLive
  | togglePin _ => exact oneLive
  | stop => exact oneLive.stop
  | stopRun number => exact oneLive.modifyRun number (Run.fading_stop _)

theorem oneLive_follow (settings : PreviewSettings) (pins : PinBank) (acts : List Act) :
    ((start settings pins).follow acts).OneLive := by
  have keeps : ∀ act ∈ acts, ∀ preview : Preview, preview.OneLive → (preview.act act).OneLive :=
    fun act _ _ oneLive => oneLive.act act
  apply follow_induction keeps
  intro number run found
  cases found

end Preview

end Marquee
