import Marquee.Proofs.Run.Course

/-!
# Previews that differ in one run

Two previews can be equal but for the machine of one run, and go on being so: the machines ask for
the same one after the other, and what else they do shows nowhere. Either of them may be ahead of
the other by some steps that ask for nothing.
-/

namespace Marquee

/-- Runs that differ in their machines, and whose reports differ in the number of statements begun.
If they do not rest until the same instant, both can take a step at once. -/
structure Run.Twin (alike : Machine → Machine → Prop) (now : Nat) (first second : Run) : Prop where
  machine : alike first.machine second.machine
  startedAt : first.startedAt = second.startedAt
  stoppedAt : first.stoppedAt = second.stoppedAt
  wakes : first.report = none →
    first.wakesAt = second.wakesAt ∨ first.isReady now ∧ second.isReady now
  report : first.report = none ∧ second.report = none ∨ ∃ elapsed cancelled,
    first.report = some ⟨first.machine.executed, elapsed, cancelled⟩ ∧
      second.report = some ⟨second.machine.executed, elapsed, cancelled⟩

/-- Previews that differ in the machine of this run only. -/
structure Preview.Twins (alike : Machine → Machine → Prop) (number : Nat)
    (first second : Preview) : Prop where
  settings : first.settings = second.settings
  now : first.now = second.now
  pins : first.pins = second.pins
  calls : first.calls = second.calls
  current : first.current = second.current
  size : first.runs.size = second.runs.size
  others : ∀ other, other ≠ number → first.runs[other]? = second.runs[other]?
  own : ∃ run twin, first.runs[number]? = some run ∧ second.runs[number]? = some twin ∧
    run.Twin alike first.now twin

variable {alike next : Machine → Machine → Prop}

namespace Run

namespace Twin

variable {first second : Run} {now : Nat}

theorem mono (twin : first.Twin alike now second)
    (likes : alike first.machine second.machine → next first.machine second.machine) :
    first.Twin next now second :=
  { twin with machine := likes twin.machine }

theorem isLive (twin : first.Twin alike now second) : first.isLive = second.isLive := by
  rw [Run.isLive, Run.isLive, twin.stoppedAt]

theorem report_eq_none_iff (twin : first.Twin alike now second) :
    first.report = none ↔ second.report = none := by
  rcases twin.report with ⟨firstGoing, secondGoing⟩ | ⟨_, _, firstEnded, secondEnded⟩
  · simp [firstGoing, secondGoing]
  · simp [firstEnded, secondEnded]

theorem isReady (twin : first.Twin alike now second) : first.isReady now = second.isReady now := by
  rcases twin.report with ⟨going, twinGoing⟩ | ⟨_, _, ended, twinEnded⟩
  · rcases twin.wakes going with same | ⟨ready, twinReady⟩
    · rw [Run.isReady, Run.isReady, going, twinGoing, same, twin.isLive]
    · rw [ready, twinReady]
  · rw [Run.isReady, Run.isReady, ended, twinEnded]
    rfl

theorem symm (twin : first.Twin alike now second) : second.Twin (flip alike) now first where
  machine := twin.machine
  startedAt := twin.startedAt.symm
  stoppedAt := twin.stoppedAt.symm
  wakes going := (twin.wakes (twin.report_eq_none_iff.mpr going)).imp Eq.symm And.symm
  report := twin.report.imp And.symm fun ⟨elapsed, cancelled, ended⟩ =>
    ⟨elapsed, cancelled, ended.symm⟩

theorem later (twin : first.Twin alike now second) {instant : Nat} (passed : now ≤ instant) :
    first.Twin alike instant second :=
  { twin with
    wakes := fun going => (twin.wakes going).imp_right fun ⟨ready, twinReady⟩ =>
      ⟨isReady_later ready passed, isReady_later twinReady passed⟩ }

theorem stop (twin : first.Twin alike now second) (instant : Nat) :
    (first.stop instant).Twin alike now (second.stop instant) where
  machine := twin.machine
  startedAt := twin.startedAt
  stoppedAt := by rw [Run.stop, Run.stop, twin.stoppedAt]
  wakes going := .inr ⟨Preview.isReady_of_stopped rfl going,
    Preview.isReady_of_stopped rfl (twin.report_eq_none_iff.mp going)⟩
  report := twin.report

/-- The machines have changed, and neither run rests. -/
theorem resumed (twin : first.Twin alike now second) (going : first.report = none)
    {machine other : Machine} (likes : next machine other) :
    ({ first with machine, wakesAt := none } : Run).Twin next now
      { second with machine := other, wakesAt := none } where
  machine := likes
  startedAt := twin.startedAt
  stoppedAt := twin.stoppedAt
  wakes _ := .inl rfl
  report := .inl ⟨going, twin.report_eq_none_iff.mp going⟩

/-- One of the machines has changed, while both runs are ready. -/
theorem ahead (twin : first.Twin alike now second) (ready : first.isReady now) {machine : Machine}
    (likes : next machine second.machine) :
    ({ first with machine, wakesAt := none } : Run).Twin next now second where
  machine := likes
  startedAt := twin.startedAt
  stoppedAt := twin.stoppedAt
  wakes going := .inr ⟨isReady_of_going going rfl, twin.isReady ▸ ready⟩
  report :=
    have going : first.report = none := going_of_isReady ready
    .inl ⟨going, twin.report_eq_none_iff.mp going⟩

theorem finish (twin : first.Twin alike now second) (instant : Nat) :
    (first.finish instant).Twin alike now (second.finish instant) where
  machine := twin.machine
  startedAt := twin.startedAt
  stoppedAt := (twin.stop instant).stoppedAt
  wakes := nofun
  report := .inr ⟨first.elapsed instant, !first.isLive, rfl, by
    rw [Run.finish, Run.elapsed, Run.elapsed, twin.isLive, twin.stoppedAt, twin.startedAt]
    rfl⟩

end Twin

end Run

/-- What a step does that asks for nothing but a turn of others. -/
theorem Preview.step_of_quiet {preview : Preview} {number : Nat} {run : Run} {request : Request}
    {machine : Machine} (found : preview.runs[number]? = some run)
    (ready : run.isReady preview.now)
    (takes : run.machine.step (preview.scene run) = some (request, machine))
    (quiet : request = .nothing ∨ request = .yield) :
    (preview.step number).1 =
      preview.modifyRun number fun run => { run with machine, wakesAt := none } := by
  rw [step_of_request found ready takes]
  rcases quiet with rfl | rfl <;> rfl

namespace Preview.Twins

variable {first second : Preview} {number : Nat}

theorem symm (twins : first.Twins alike number second) :
    second.Twins (flip alike) number first := by
  obtain ⟨run, twin, found, twinFound, likes⟩ := twins.own
  refine ⟨twins.settings.symm, twins.now.symm, twins.pins.symm, twins.calls.symm,
    twins.current.symm, twins.size.symm, fun other different => (twins.others other different).symm,
    twin, run, twinFound, found, ?_⟩
  rw [← twins.now]
  exact likes.symm

theorem mono (twins : first.Twins alike number second)
    (likes : ∀ machine other, alike machine other → next machine other) :
    first.Twins next number second := by
  obtain ⟨run, twin, found, twinFound, same⟩ := twins.own
  exact { twins with own := ⟨run, twin, found, twinFound, same.mono (likes _ _)⟩ }

theorem modifyOther (twins : first.Twins alike number second) {other : Nat}
    (different : other ≠ number) (change : Run → Run) :
    (first.modifyRun other change).Twins alike number (second.modifyRun other change) := by
  obtain ⟨run, twin, found, twinFound, likes⟩ := twins.own
  refine { twins with size := ?_, others := ?_, own := ⟨run, twin, ?_, ?_, likes⟩ }
  · rw [modifyRun, modifyRun, Array.size_modify, Array.size_modify, twins.size]
  · intro place elsewhere
    rw [runs_modifyRun, runs_modifyRun, twins.others place elsewhere]
  · rw [runs_modifyRun, if_neg different, found]
  · rw [runs_modifyRun, if_neg different, twinFound]

theorem modifyOwn (twins : first.Twins alike number second) {change twinChange : Run → Run}
    (changes : ∀ run twin, first.runs[number]? = some run → second.runs[number]? = some twin →
      run.Twin alike first.now twin → (change run).Twin next first.now (twinChange twin)) :
    (first.modifyRun number change).Twins next number (second.modifyRun number twinChange) := by
  obtain ⟨run, twin, found, twinFound, likes⟩ := twins.own
  refine { twins with size := ?_, others := ?_, own := ⟨change run, twinChange twin, ?_, ?_, ?_⟩ }
  · rw [modifyRun, modifyRun, Array.size_modify, Array.size_modify, twins.size]
  · intro place elsewhere
    rw [runs_modifyRun, runs_modifyRun, if_neg elsewhere.symm, if_neg elsewhere.symm,
      twins.others place elsewhere]
  · rw [runs_modifyRun, if_pos rfl, found]
    rfl
  · rw [runs_modifyRun, if_pos rfl, twinFound]
    rfl
  · exact changes run twin found twinFound likes

theorem modifyFirst (twins : first.Twins alike number second) {change : Run → Run}
    (changes : ∀ run twin, first.runs[number]? = some run → second.runs[number]? = some twin →
      run.Twin alike first.now twin → (change run).Twin next first.now twin) :
    (first.modifyRun number change).Twins next number second := by
  have both : (first.modifyRun number change).Twins next number (second.modifyRun number id) :=
    twins.modifyOwn changes
  have same : second.runs.modify number id = second.runs :=
    Array.ext_getElem? fun place => by simp [Array.getElem?_modify]
  have unchanged : second.modifyRun number id = second :=
    congrArg (fun runs => { second with runs }) same
  rwa [unchanged] at both

theorem stopRun (twins : first.Twins alike number second) (other : Nat) :
    (first.stopRun other).Twins alike number (second.stopRun other) := by
  rw [Preview.stopRun, Preview.stopRun, twins.now]
  by_cases own : other = number
  · rw [own]
    exact twins.modifyOwn fun _ _ _ _ likes => likes.stop second.now
  · exact twins.modifyOther own _

theorem stop (twins : first.Twins alike number second) :
    first.stop.Twins alike number second.stop := by
  rw [Preview.stop, Preview.stop, twins.current]
  split
  · exact twins.stopRun _
  · exact twins

theorem setPin (twins : first.Twins alike number second) (pin : UInt8) (high : Bool) :
    (first.setPin pin high).Twins alike number (second.setPin pin high) :=
  { twins with pins := by rw [Preview.setPin, Preview.setPin, twins.pins] }

theorem togglePin (twins : first.Twins alike number second) (pin : UInt8) :
    (first.togglePin pin).Twins alike number (second.togglePin pin) :=
  { twins with pins := by rw [Preview.togglePin, Preview.togglePin, twins.pins] }

theorem moveTo (twins : first.Twins alike number second) (instant : Nat) :
    (first.moveTo instant).Twins alike number (second.moveTo instant) := by
  obtain ⟨run, twin, found, twinFound, likes⟩ := twins.own
  refine { twins with now := ?_, own := ⟨run, twin, found, twinFound, ?_⟩ }
  · rw [Preview.moveTo, Preview.moveTo, twins.now]
  · exact likes.later (Nat.le_max_left _ _)

theorem react (twins : first.Twins alike number second) (reactions : List Reaction) :
    (reactions.foldl Preview.react first).Twins alike number
      (reactions.foldl Preview.react second) := by
  induction reactions generalizing first second with
  | nil => exact twins
  | cons reaction reactions inductionHypothesis =>
      apply inductionHypothesis
      cases reaction with
      | stop => exact twins.stop
      | setPin pin high => exact twins.setPin pin high

theorem call (twins : first.Twins alike number second) (panelCall : PanelCall) :
    (first.call panelCall).Twins alike number (second.call panelCall) := by
  have recorded : (first.record panelCall).Twins alike number (second.record panelCall) :=
    { twins with calls := by rw [record, record, twins.calls, twins.now] }
  rw [call_eq, call_eq, twins.settings, twins.calls]
  exact recorded.react _

theorem map_run {α : Type} (twins : first.Twins alike number second) {look : Run → α}
    (blind : ∀ run twin, run.Twin alike first.now twin → look run = look twin) (other : Nat) :
    first.runs[other]?.map look = second.runs[other]?.map look := by
  by_cases own : other = number
  · obtain ⟨run, twin, found, twinFound, likes⟩ := twins.own
    rw [own, found, twinFound, Option.map_some, Option.map_some, blind run twin likes]
  · rw [twins.others other own]

theorem elapsed (twins : first.Twins alike number second) (run twin : Run)
    (likes : run.Twin alike first.now twin) : run.elapsed first.now = twin.elapsed second.now := by
  rw [Run.elapsed, Run.elapsed, likes.stoppedAt, likes.startedAt, twins.now]

theorem status (twins : first.Twins alike number second) : first.status = second.status := by
  have seen (preview : Preview) : preview.status = ((preview.current.bind fun place =>
      preview.runs[place]?.map fun run => if run.isLive then RunStatus.running
        (run.elapsed preview.now) else .stopped (run.elapsed preview.now)).getD (.stopped 0)) := by
    rw [Preview.status, currentRun?]
    cases preview.current with
    | none => rfl
    | some place =>
        rw [Option.bind_some, Option.bind_some]
        cases preview.runs[place]? <;> rfl
  rw [seen, seen, twins.current]
  congr 2
  funext place
  rw [← twins.now]
  refine twins.map_run (fun run twin likes => ?_) place
  rw [likes.isLive, twins.elapsed run twin likes, twins.now]

theorem scene (twins : first.Twins alike number second) {run twin : Run}
    (likes : run.Twin alike first.now twin) : first.scene run = second.scene twin := by
  rw [Preview.scene, Preview.scene, twins.now, twins.pins, twins.settings, likes.isLive]

/-- A run that differs is ready when its twin is. -/
theorem ready_iff (twins : first.Twins alike number second) {run twin : Run}
    (likes : run.Twin alike first.now twin) : run.isReady first.now ↔ twin.isReady second.now := by
  rw [likes.isReady, twins.now]

theorem grant (twins : first.Twins alike number second) (place : Nat) (request : Request) :
    (first.grant place request).1.Twins alike number (second.grant place request).1 := by
  cases request with
  | nothing => exact twins
  | call panelCall => exact twins.call panelCall
  | drive pin high => exact (twins.setPin pin high).call _
  | rest milliseconds =>
      rw [Preview.grant, Preview.grant, ← twins.now]
      by_cases own : place = number
      · rw [own]
        exact twins.modifyOwn fun _ _ _ _ likes =>
          ⟨likes.machine, likes.startedAt, likes.stoppedAt, fun _ => .inl rfl, likes.report⟩
      · exact twins.modifyOther own _
  | yield => exact twins

/-- Another run takes a step. -/
theorem step_other (twins : first.Twins alike number second) {other : Nat}
    (different : other ≠ number) :
    (first.step other).1.Twins alike number (second.step other).1 := by
  have same := twins.others other different
  cases found : first.runs[other]? with
  | none =>
      rw [found] at same
      rw [step_of_none found, step_of_none same.symm]
      exact twins
  | some run =>
      rw [found] at same
      by_cases ready : run.isReady first.now
      · have twinReady : run.isReady second.now := twins.now ▸ ready
        have scene : second.scene run = first.scene run := by
          rw [Preview.scene, Preview.scene, twins.now, twins.pins, twins.settings]
        cases takes : run.machine.step (first.scene run) with
        | none =>
            have twinTakes := takes
            rw [← scene] at twinTakes
            rw [step_of_end found ready takes, step_of_end same.symm twinReady twinTakes, twins.now]
            exact twins.modifyOther different _
        | some taken =>
            have twinTakes := takes
            rw [← scene] at twinTakes
            rw [step_of_request found ready takes, step_of_request same.symm twinReady twinTakes]
            exact (twins.modifyOther different _).grant other _
      · have twinUnready : ¬ run.isReady second.now := twins.now ▸ ready
        rw [step_of_unready found ready, step_of_unready same.symm twinUnready]
        exact twins

section

variable {run twin : Run} {request : Request} {machine other : Machine}

/-- The machines ask for the same. -/
theorem step (twins : first.Twins alike number second) (found : first.runs[number]? = some run)
    (twinFound : second.runs[number]? = some twin) (ready : run.isReady first.now)
    (takes : run.machine.step (first.scene run) = some (request, machine))
    (twinTakes : twin.machine.step (first.scene run) = some (request, other))
    (likes : next machine other) :
    (first.step number).1.Twins next number (second.step number).1 := by
  obtain ⟨_, _, ownFound, ownTwinFound, same⟩ := twins.own
  cases found.symm.trans ownFound
  cases twinFound.symm.trans ownTwinFound
  rw [twins.scene same] at twinTakes
  rw [step_of_request found ready takes,
    step_of_request twinFound ((twins.ready_iff same).mp ready) twinTakes]
  apply grant
  apply twins.modifyOwn
  intro other twinOther otherFound twinOtherFound likesNow
  cases found.symm.trans otherFound
  cases twinFound.symm.trans twinOtherFound
  exact likesNow.resumed (Run.going_of_isReady ready) likes

/-- Both machines have nothing left to do. -/
theorem step_end (twins : first.Twins alike number second)
    (found : first.runs[number]? = some run) (twinFound : second.runs[number]? = some twin)
    (ready : run.isReady first.now) (ends : run.machine.step (first.scene run) = none)
    (twinEnds : twin.machine.step (first.scene run) = none) :
    (first.step number).1.Twins alike number (second.step number).1 := by
  obtain ⟨_, _, ownFound, ownTwinFound, same⟩ := twins.own
  cases found.symm.trans ownFound
  cases twinFound.symm.trans ownTwinFound
  rw [twins.scene same] at twinEnds
  rw [step_of_end found ready ends,
    step_of_end twinFound ((twins.ready_iff same).mp ready) twinEnds, ← twins.now]
  exact twins.modifyOwn fun _ _ _ _ likes => likes.finish first.now

/-- The first machine takes a step of which nothing shows. -/
theorem step_ahead (twins : first.Twins alike number second)
    (found : first.runs[number]? = some run) (twinFound : second.runs[number]? = some twin)
    (ready : run.isReady first.now)
    (takes : run.machine.step (first.scene run) = some (request, machine))
    (quiet : request = .nothing ∨ request = .yield) (likes : next machine twin.machine) :
    (first.step number).1.Twins next number second := by
  rw [step_of_quiet found ready takes quiet]
  apply twins.modifyFirst
  intro other twinOther otherFound twinOtherFound likesNow
  cases found.symm.trans otherFound
  cases twinFound.symm.trans twinOtherFound
  exact likesNow.ahead ready likes

/-- Neither of the runs can take a step. -/
theorem step_unready (twins : first.Twins alike number second)
    (found : first.runs[number]? = some run) (unready : ¬ run.isReady first.now) :
    (first.step number).1.Twins alike number (second.step number).1 := by
  obtain ⟨_, twin, ownFound, twinFound, same⟩ := twins.own
  cases found.symm.trans ownFound
  rw [step_of_unready found unready,
    step_of_unready twinFound (mt (twins.ready_iff same).mpr unready)]
  exact twins

end

end Preview.Twins

end Marquee
