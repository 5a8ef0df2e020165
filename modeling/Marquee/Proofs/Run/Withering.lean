import Marquee.Proofs.Run.Stopping

/-!
# Stopped runs wither

A stopped run is ready until it ends, and each of its turns takes it nearer to its end. So all runs
that are stopped have ended after as many rounds as any of them has tasks, whatever else happens.
-/

namespace Marquee

namespace Preview

/-- A run that is stopped, and has ended or has fewer tasks left than this. -/
def Withers (preview : Preview) (number left : Nat) : Prop :=
  ∃ run, preview.runs[number]? = some run ∧ run.isLive = false ∧
    (run.report = none → run.machine.tasks.length < left)

theorem mem_readyRuns_iff {preview : Preview} {number : Nat} :
    number ∈ preview.readyRuns ↔
      ∃ run, preview.runs[number]? = some run ∧ run.isReady preview.now := by
  rw [readyRuns, List.mem_filter]
  constructor
  · rintro ⟨_, ready⟩
    split at ready
    · next run found => exact ⟨run, found, ready⟩
    · cases ready
  · rintro ⟨run, found, ready⟩
    obtain ⟨inside, _⟩ := Array.getElem?_eq_some_iff.mp found
    rw [found]
    exact ⟨List.mem_range.mpr inside, ready⟩

namespace Withers

variable {preview : Preview} {number left : Nat}

theorem mono (withers : preview.Withers number left) {more : Nat} (bound : left ≤ more) :
    preview.Withers number more := by
  obtain ⟨run, found, stopped, fewer⟩ := withers
  exact ⟨run, found, stopped, fun going => Nat.lt_of_lt_of_le (fewer going) bound⟩

theorem modifyRun (withers : preview.Withers number left) {other : Nat} {change : Run → Run}
    (keeps : ∀ run, other = number → run.isLive = false → (change run).isLive = false ∧
      ((change run).report = none → run.report = none ∧
        (change run).machine.tasks.length ≤ run.machine.tasks.length)) :
    (preview.modifyRun other change).Withers number left := by
  obtain ⟨run, found, stopped, fewer⟩ := withers
  by_cases same : other = number
  · obtain ⟨stillStopped, shrinks⟩ := keeps run same stopped
    refine ⟨change run, ?_, stillStopped, ?_⟩
    · rw [runs_modifyRun, if_pos same, found]
      rfl
    · intro going
      obtain ⟨wasGoing, bound⟩ := shrinks going
      exact Nat.lt_of_le_of_lt bound (fewer wasGoing)
  · refine ⟨run, ?_, stopped, fewer⟩
    rw [runs_modifyRun, if_neg same, found]

theorem stopRun (withers : preview.Withers number left) (other : Nat) :
    (preview.stopRun other).Withers number left :=
  withers.modifyRun fun _ _ _ => ⟨rfl, fun going => ⟨going, Nat.le_refl _⟩⟩

theorem stop (withers : preview.Withers number left) : preview.stop.Withers number left := by
  rw [Preview.stop]
  split
  · exact withers.stopRun _
  · exact withers

theorem withstands {other : Nat} (different : other ≠ number) :
    Withstands other fun preview => preview.Withers number left where
  change _ withers := withers.modifyRun fun _ same => absurd same different
  record _ withers := withers
  setPin _ _ withers := withers
  stop withers := withers.stop

/-- A step of a withering run takes it nearer to its end. -/
theorem step (withers : preview.Withers number (left + 1)) :
    (preview.step number).1.Withers number left := by
  obtain ⟨run, found, stopped, fewer⟩ := withers
  rw [step_stopped found stopped]
  split
  · next ended =>
      refine ⟨run, found, stopped, ?_⟩
      intro going
      rw [going] at ended
      cases ended
  · next going =>
      have wasGoing := Option.not_isSome_iff_eq_none.mp going
      refine ⟨run.unwind preview.now, ?_, ?_⟩
      · rw [runs_modifyRun, if_pos rfl, found]
        rfl
      · rw [Run.unwind]
        split
        · refine ⟨rfl, ?_⟩
          intro impossible
          cases impossible
        · next task rest tasks =>
            have bound := fewer wasGoing
            rw [tasks] at bound
            exact ⟨stopped, fun _ => Nat.lt_of_succ_lt_succ bound⟩

theorem keeps : Keeps fun preview => preview.Withers number left := by
  refine ⟨⟨?_⟩, fun _ withers => withers⟩
  intro preview other withers
  by_cases same : other = number
  · rw [same]
    exact (withers.mono (Nat.le_succ left)).step
  · exact (withstands same).step withers

theorem turn (withers : preview.Withers number (left + 1)) (steps : Nat) :
    (Preview.turn number (steps + 1) preview).Withers number left := by
  rw [turn_succ]
  split
  · exact keeps.turn number steps withers.step
  · exact withers.step

theorem ready (withers : preview.Withers number left)
    (going : ¬ (preview.report? number).isSome) : number ∈ preview.readyRuns := by
  obtain ⟨run, found, stopped, _⟩ := withers
  rw [Preview.report?, found, Option.bind_some, Option.not_isSome_iff_eq_none] at going
  exact mem_readyRuns_iff.mpr ⟨run, found, isReady_of_stopped stopped going⟩

theorem of_ended (withers : preview.Withers number left)
    (ended : (preview.report? number).isSome) : preview.Withers number 0 := by
  obtain ⟨run, found, stopped, _⟩ := withers
  rw [Preview.report?, found, Option.bind_some] at ended
  refine ⟨run, found, stopped, ?_⟩
  intro going
  rw [going] at ended
  cases ended

theorem isSome_report? (withers : preview.Withers number 0) :
    (preview.report? number).isSome := by
  obtain ⟨run, found, _, fewer⟩ := withers
  rw [Preview.report?, found, Option.bind_some]
  cases going : run.report with
  | none => exact absurd (fewer going) (Nat.not_lt_zero _)
  | some report => rfl

/-- In each round a withering run comes nearer to its end. -/
theorem round (withers : preview.Withers number (left + 1)) (steps : Nat) :
    (preview.round (steps + 1)).Withers number left := by
  by_cases ended : (preview.report? number).isSome
  · exact (keeps.round (steps + 1) (withers.of_ended ended)).mono (Nat.zero_le left)
  · obtain ⟨early, late, split⟩ := List.append_of_mem (withers.ready ended)
    rw [Preview.round, split, List.foldl_append, List.foldl_cons]
    have before := keeps.turns (steps + 1) early withers
    exact keeps.turns (steps + 1) late (before.turn steps)

end Withers

end Preview

end Marquee
