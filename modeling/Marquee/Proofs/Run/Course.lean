import Marquee.Proofs.Run.Moments

/-!
# A run left to itself

Left to itself, a run takes its steps as soon as it can, and time moves on to the instants at which
it wakes. Waiting for the end of the only run that is going on is nothing else.
-/

namespace Marquee

namespace Run

theorem isReady_of_going {run : Run} {now : Nat} (going : run.report = none)
    (wakes : run.wakesAt = none) : run.isReady now := by
  rw [isReady, going, wakes]
  rfl

theorem isReady_of_wake {run : Run} {now wakesAt : Nat} (going : run.report = none)
    (wakes : run.wakesAt = some wakesAt) (reached : wakesAt ≤ now) : run.isReady now := by
  rw [isReady, going, wakes]
  simp [reached]

theorem isReady_later {run : Run} {now later : Nat} (ready : run.isReady now)
    (passed : now ≤ later) : run.isReady later := by
  rw [isReady, Bool.and_eq_true] at ready ⊢
  refine ⟨ready.1, ?_⟩
  have awake := ready.2
  cases wakes : run.wakesAt with
  | none => rfl
  | some wakesAt =>
      rw [wakes] at awake
      simp only [Bool.or_eq_true, decide_eq_true_eq] at awake ⊢
      exact awake.imp_left fun reached => Nat.le_trans reached passed

theorem going_of_isReady {run : Run} {now : Nat} (ready : run.isReady now) : run.report = none := by
  rw [isReady, Bool.and_eq_true] at ready
  exact Option.isNone_iff_eq_none.mp ready.1

/-- A run that goes on and is not ready rests until some instant. -/
theorem exists_wake {run : Run} {now : Nat} (going : run.report = none)
    (unready : ¬ run.isReady now) :
    ∃ wakesAt, run.wakesAt = some wakesAt ∧ run.wake? = some wakesAt := by
  cases wakes : run.wakesAt with
  | none => exact absurd (isReady_of_going going wakes) unready
  | some wakesAt =>
      refine ⟨wakesAt, rfl, ?_⟩
      rw [wake?, going, wakes]
      rfl

end Run

namespace Preview

/-- A run goes on: it takes a step if it is ready, and else time moves on until it wakes. -/
def proceed (number : Nat) (preview : Preview) : Preview :=
  match preview.runs[number]? with
  | none => preview
  | some run =>
    if run.isReady preview.now then (preview.step number).1
    else
      match run.wake? with
      | some wakesAt => preview.moveTo wakesAt
      | none => preview

/-- The preview after a run has gone on so many times, left to itself. -/
def course (number : Nat) : Nat → Preview → Preview
  | 0, preview => preview
  | steps + 1, preview => course number steps (preview.proceed number)

section

variable {number : Nat} {preview : Preview} {run : Run}

theorem proceed_of_ready (found : preview.runs[number]? = some run)
    (ready : run.isReady preview.now) : preview.proceed number = (preview.step number).1 := by
  simp [proceed, found, ready]

theorem proceed_of_wake (found : preview.runs[number]? = some run)
    (unready : ¬ run.isReady preview.now) {wakesAt : Nat} (wakes : run.wake? = some wakesAt) :
    preview.proceed number = preview.moveTo wakesAt := by
  simp [proceed, found, unready, wakes]

theorem proceed_of_ended (found : preview.runs[number]? = some run)
    (ended : run.report.isSome) : preview.proceed number = preview := by
  simp only [Option.isSome_iff_ne_none, ne_eq] at ended
  simp [proceed, found, Run.isReady, Run.wake?, ended]

theorem course_of_ended (found : preview.runs[number]? = some run) (ended : run.report.isSome)
    (steps : Nat) : preview.course number steps = preview := by
  induction steps with
  | zero => rfl
  | succ steps inductionHypothesis =>
      rw [course, proceed_of_ended found ended]
      exact inductionHypothesis

theorem course_add (first second : Nat) (preview : Preview) :
    preview.course number (first + second) =
      (preview.course number first).course number second := by
  induction first generalizing preview with
  | zero => rw [Nat.zero_add, course]
  | succ first inductionHypothesis =>
      rw [Nat.succ_add, course, course]
      exact inductionHypothesis (preview.proceed number)

theorem course_succ (steps : Nat) (preview : Preview) :
    preview.course number (steps + 1) = (preview.course number steps).proceed number :=
  course_add steps 1 preview

/-- All runs but this one have ended. -/
def Lone (preview : Preview) (number : Nat) : Prop :=
  ∀ other run, other ≠ number → preview.runs[other]? = some run → run.report.isSome

private theorem withstands_lone : Withstands number fun preview => preview.Lone number where
  change := by
    intro preview change _ lone other run different found
    rw [runs_modifyRun, if_neg (Ne.symm different)] at found
    exact lone other run different found
  record _ lone := lone
  setPin _ _ lone := lone
  stop := by
    intro preview lone
    rw [stop]
    split
    · intro other run different found
      rw [stopRun, runs_modifyRun] at found
      split at found
      · obtain ⟨old, oldFound, rfl⟩ := Option.map_eq_some_iff.mp found
        exact lone other old different oldFound
      · exact lone other run different found
    · exact lone

theorem Lone.moveTo (lone : preview.Lone number) (instant : Nat) :
    (preview.moveTo instant).Lone number :=
  lone

theorem Lone.turn_other (lone : preview.Lone number) {other : Nat} (different : other ≠ number)
    (steps : Nat) : preview.turn other steps = preview := by
  have still : preview.step other = (preview, false) := by
    cases found : preview.runs[other]? with
    | none => exact step_of_none found
    | some run =>
        apply step_of_unready found
        have ended := lone other run different found
        simp only [Option.isSome_iff_ne_none, ne_eq] at ended
        simp [Run.isReady, ended]
  cases steps with
  | zero => rfl
  | succ steps => rw [turn, still]

theorem Lone.exists_course_turn (lone : preview.Lone number) (steps : Nat) :
    ∃ count, preview.turn number steps = preview.course number count ∧
      (preview.turn number steps).Lone number := by
  induction steps generalizing preview with
  | zero => exact ⟨0, rfl, lone⟩
  | succ steps inductionHypothesis =>
      have stepped : (preview.step number).1 = preview.proceed number ∨
          preview.step number = (preview, false) := by
        cases found : preview.runs[number]? with
        | none => exact .inr (step_of_none found)
        | some run =>
            by_cases ready : run.isReady preview.now
            · exact .inl (proceed_of_ready found ready).symm
            · exact .inr (step_of_unready found ready)
      rcases stepped with proceeds | still
      · have loneThen := withstands_lone.step lone
        rw [turn_succ]
        split
        · obtain ⟨count, same, loneLater⟩ := inductionHypothesis loneThen
          refine ⟨count + 1, ?_, loneLater⟩
          rw [course, same, proceeds]
        · exact ⟨1, proceeds, loneThen⟩
      · rw [turn, still]
        exact ⟨0, rfl, lone⟩

theorem Lone.exists_course_turns (lone : preview.Lone number) (steps : Nat) (numbers : List Nat) :
    ∃ count,
      numbers.foldl (fun preview number => preview.turn number steps) preview =
        preview.course number count ∧ (preview.course number count).Lone number := by
  induction numbers generalizing preview with
  | nil => exact ⟨0, rfl, lone⟩
  | cons other numbers inductionHypothesis =>
      rw [List.foldl_cons]
      by_cases own : other = number
      · rw [own]
        obtain ⟨first, turned, loneThen⟩ := lone.exists_course_turn steps
        obtain ⟨second, same, loneLater⟩ := inductionHypothesis loneThen
        rw [turned, ← course_add] at same loneLater
        exact ⟨first + second, turned ▸ same, loneLater⟩
      · rw [lone.turn_other own]
        exact inductionHypothesis lone

/-- When nothing is ready, time moves on to the wake of the only run that is going on. -/
theorem Lone.proceed_of_wake (lone : preview.Lone number) (resting : preview.readyRuns.isEmpty)
    {wakesAt : Nat} (wakes : preview.nextWake? = some wakesAt) :
    preview.proceed number = preview.moveTo wakesAt := by
  obtain ⟨run, member, wake⟩ := List.mem_filterMap.mp (List.min?_mem wakes)
  obtain ⟨other, listed⟩ := List.mem_iff_getElem?.mp member
  rw [Array.getElem?_toList] at listed
  by_cases own : other = number
  · subst own
    apply Preview.proceed_of_wake listed _ wake
    intro ready
    have waiting : other ∈ preview.readyRuns := mem_readyRuns_iff.mpr ⟨run, listed, ready⟩
    rw [List.isEmpty_iff.mp resting] at waiting
    cases waiting
  · have ended := lone other run own listed
    simp only [Option.isSome_iff_ne_none, ne_eq] at ended
    simp [Run.wake?, ended] at wake

theorem Lone.exists_course_passToEnd (lone : preview.Lone number) (rounds : Nat) :
    ∃ steps, preview.passToEnd number rounds = preview.course number steps := by
  induction rounds generalizing preview with
  | zero => exact ⟨0, rfl⟩
  | succ rounds inductionHypothesis =>
      rw [passToEnd]
      split
      · exact ⟨0, rfl⟩
      · split
        · next resting =>
            split
            · next wakesAt wakes =>
                obtain ⟨steps, same⟩ := inductionHypothesis (lone.moveTo wakesAt)
                refine ⟨steps + 1, ?_⟩
                rw [same, course, lone.proceed_of_wake resting wakes]
            · exact ⟨0, rfl⟩
        · obtain ⟨first, turned, loneThen⟩ := lone.exists_course_turns patience preview.readyRuns
          have rounded : preview.round patience = preview.course number first := turned
          rw [rounded]
          obtain ⟨second, same⟩ := inductionHypothesis loneThen
          refine ⟨first + second, ?_⟩
          rw [same, course_add]

/-- Waiting for the end of the only run that is going on is to leave it to itself. -/
theorem Lone.exists_course_finish (lone : preview.Lone number) :
    ∃ steps, preview.finish number = preview.course number steps :=
  lone.exists_course_passToEnd patience

end

end Preview

end Marquee
