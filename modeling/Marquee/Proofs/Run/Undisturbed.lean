import Marquee.Proofs.Run.Course
import Marquee.Proofs.Run.Starts

/-!
# Runs that nobody stops

When no call of the panel is answered by a stop, a run that is left to itself is live until it ends
by itself.
-/

namespace Marquee

namespace Preview

/-- Nothing stops the run but its own end. -/
structure Undisturbed (preview : Preview) (number : Nat) : Prop where
  reactions : ∀ call, .stop ∉ preview.settings.reactions call
  live : ∀ run, preview.runs[number]? = some run → run.report = none → run.isLive

section

variable {preview : Preview} {number : Nat}

private theorem runs_call_of_quiet (quiet : ∀ call, .stop ∉ preview.settings.reactions call)
    (panelCall : PanelCall) : (preview.call panelCall).runs = preview.runs := by
  rw [call_eq]
  exact runs_foldl_react (quiet _) _

/-- While no call is answered by a stop, a request only makes a run rest. -/
theorem exists_of_grant (quiet : ∀ call, .stop ∉ preview.settings.reactions call) {other : Nat}
    {request : Request} {run : Run}
    (found : (preview.grant other request).1.runs[number]? = some run) :
    ∃ old, preview.runs[number]? = some old ∧ run.machine = old.machine ∧
      run.stoppedAt = old.stoppedAt ∧ run.report = old.report := by
  cases request with
  | nothing => exact ⟨run, found, rfl, rfl, rfl⟩
  | call panelCall =>
      rw [grant, runs_call_of_quiet quiet] at found
      exact ⟨run, found, rfl, rfl, rfl⟩
  | drive pin high =>
      have driven : ∀ call, .stop ∉ (preview.setPin pin high).settings.reactions call := quiet
      rw [grant, runs_call_of_quiet driven] at found
      exact ⟨run, found, rfl, rfl, rfl⟩
  | rest milliseconds =>
      rw [grant, runs_modifyRun] at found
      split at found
      · obtain ⟨old, oldFound, rfl⟩ := Option.map_eq_some_iff.mp found
        exact ⟨old, oldFound, rfl, rfl, rfl⟩
      · exact ⟨run, found, rfl, rfl, rfl⟩
  | yield => exact ⟨run, found, rfl, rfl, rfl⟩

/-- Runs that change without being stopped are not disturbed. -/
theorem Undisturbed.modifyRun (undisturbed : preview.Undisturbed number) {other : Nat}
    {change : Run → Run}
    (keeps : ∀ run, preview.runs[number]? = some run → other = number →
      (change run).report = none → (change run).stoppedAt = run.stoppedAt ∧ run.report = none) :
    (preview.modifyRun other change).Undisturbed number := by
  refine ⟨undisturbed.reactions, ?_⟩
  intro run found going
  rw [runs_modifyRun] at found
  split at found
  · next own =>
      obtain ⟨old, oldFound, rfl⟩ := Option.map_eq_some_iff.mp found
      obtain ⟨same, oldGoing⟩ := keeps old oldFound own going
      rw [Run.isLive, same]
      exact undisturbed.live old oldFound oldGoing
  · exact undisturbed.live run found going

theorem Undisturbed.grant (undisturbed : preview.Undisturbed number) (other : Nat)
    (request : Request) : (preview.grant other request).1.Undisturbed number := by
  have settings : (preview.grant other request).1.settings = preview.settings :=
    ((lasts_settings preview.settings).withstands other).grant request rfl
  refine ⟨settings ▸ undisturbed.reactions, ?_⟩
  intro run found going
  obtain ⟨old, oldFound, _, stoppedAt, report⟩ := exists_of_grant undisturbed.reactions found
  rw [Run.isLive, stoppedAt]
  exact undisturbed.live old oldFound (report.symm.trans going)

/-- Whichever run takes a step, it stops no other one, and itself only when it ends. -/
theorem Undisturbed.step (undisturbed : preview.Undisturbed number) (other : Nat) :
    (preview.step other).1.Undisturbed number := by
  cases found : preview.runs[other]? with
  | none =>
      rw [step_of_none found]
      exact undisturbed
  | some run =>
      by_cases ready : run.isReady preview.now
      · have going := Run.going_of_isReady ready
        cases takes : run.machine.step (preview.scene run) with
        | none =>
            rw [step_of_end found ready takes]
            exact undisturbed.modifyRun fun _ _ _ going => nomatch going
        | some taken =>
            rw [step_of_request found ready takes]
            apply Undisturbed.grant
            refine undisturbed.modifyRun fun old oldFound own going => ?_
            exact ⟨rfl, going⟩
      · rw [step_of_unready found ready]
        exact undisturbed

theorem Undisturbed.proceed (undisturbed : preview.Undisturbed number) :
    (preview.proceed number).Undisturbed number := by
  rw [Preview.proceed]
  split
  · exact undisturbed
  · split
    · exact undisturbed.step number
    · split
      · exact ⟨undisturbed.reactions, undisturbed.live⟩
      · exact undisturbed

theorem Undisturbed.course (undisturbed : preview.Undisturbed number) (steps : Nat) :
    (preview.course number steps).Undisturbed number := by
  induction steps generalizing preview with
  | zero => exact undisturbed
  | succ steps inductionHypothesis => exact inductionHypothesis undisturbed.proceed

end

end Preview

end Marquee
