import Marquee.Proofs.Run.Elapsed
import Marquee.Proofs.Run.Inert
import Marquee.Proofs.Run.Unrolling

/-!
# Programs without inert statements

A run whose program has inert statements and one whose program has none cannot be told apart but by
the number of statements that they have begun. What happens to the one, moment by moment, happens to
the other, less the steps that begin inert statements. It may be stopped, and pins may change, at
any moment and during any call of the panel.
-/

namespace Marquee

/-- The act starts no program. -/
def Act.StartsNothing : Act → Prop
  | .run _ => False
  | _ => True

namespace Preview

/-- What happens, less the steps with which the run begins inert statements. -/
def skipInert (number : Nat) : List Act → Preview → List Act
  | [], _ => []
  | act :: acts, preview =>
    if (preview.begunBy number act).any fun execution => execution.statement.isInert then
      skipInert number acts (preview.act act)
    else act :: skipInert number acts (preview.act act)

/-- How many inert statements the run begins while all this happens moment by moment. -/
def inertBegun (number : Nat) (acts : List Act) (preview : Preview) : Nat :=
  (executions number acts preview).countP fun execution => execution.statement.isInert

/-- The previews agree but in the number of statements that the run has begun, and the second one
has no inert statements left in it. -/
abbrev Trails (count number : Nat) (first second : Preview) : Prop :=
  first.Twins (Machine.Trails count) number second

section

variable {count number : Nat} {first second : Preview}

/-- The run begins an inert statement with its next step. -/
def skips (preview : Preview) (number : Nat) : Bool :=
  (preview.begins? number).any fun execution => execution.statement.isInert

private theorem any_begunBy (preview : Preview) (other : Nat) :
    ((preview.begunBy number (.step other)).any fun execution => execution.statement.isInert) =
      (decide (other = number) && preview.skips number) := by
  rw [begunBy, skips]
  by_cases own : other = number
  · rw [if_pos own, decide_eq_true own]
    cases preview.begins? number <;> simp
  · rw [if_neg own, decide_eq_false own]
    rfl

private theorem countP_begunBy (preview : Preview) (act : Act) :
    (preview.begunBy number act).countP (fun execution => execution.statement.isInert) =
      if (preview.begunBy number act).any fun execution => execution.statement.isInert then 1
      else 0 := by
  cases act with
  | step other =>
      rw [begunBy]
      split
      · cases preview.begins? number with
        | none => rfl
        | some execution => cases inert : execution.statement.isInert <;> simp [inert]
      · rfl
  | _ => rfl

/-- The first run passes over an inert statement. -/
theorem Twins.exists_skip (trails : Trails count number first second)
    (skips : first.skips number) :
    Trails (count + 1) number (first.step number).1 second ∧ ∃ run next,
      first.runs[number]? = some run ∧ run.isReady first.now ∧
        (first.step number).1.runs[number]? = some next ∧
          next.machine.headLength < run.machine.headLength := by
  obtain ⟨run, twin, found, twinFound, likes⟩ := trails.own
  by_cases ready : run.isReady first.now
  · rw [Preview.skips, begins?_of_found found ready] at skips
    obtain ⟨next, takes, onward, shorter⟩ := likes.machine.exists_skip skips
    refine ⟨trails.step_ahead found twinFound ready takes (.inl rfl) onward, run,
      { run with machine := next, wakesAt := none }, found, ready, ?_, shorter⟩
    rw [step_of_quiet found ready takes (.inl rfl), runs_modifyRun, if_pos rfl, found]
    rfl
  · rw [Preview.skips, begins?, found, Option.bind_some, if_neg ready] at skips
    cases skips

/-- Both runs take the same step. -/
theorem Twins.step_both (trails : Trails count number first second)
    (keeps : first.skips number = false) :
    Trails count number (first.step number).1 (second.step number).1 := by
  obtain ⟨run, twin, found, twinFound, likes⟩ := trails.own
  by_cases ready : run.isReady first.now
  · rw [Preview.skips, begins?_of_found found ready] at keeps
    rcases likes.machine.step keeps with
      ⟨ends, twinEnds⟩ | ⟨request, next, other, takes, twinTakes, onward⟩
    · exact trails.step_end found twinFound ready ends twinEnds
    · exact trails.step found twinFound ready takes twinTakes onward
  · exact trails.step_unready found ready

/-- Something happens to both previews, unless the first run passes over an inert statement. -/
theorem Twins.event (trails : Trails count number first second) {act : Act} (atomic : act.IsMoment)
    (starts : act.StartsNothing) :
    if (first.begunBy number act).any fun execution => execution.statement.isInert then
      Trails (count + 1) number (first.act act) second
    else Trails count number (first.act act) (second.act act) := by
  cases act with
  | step other =>
      rw [any_begunBy]
      by_cases own : other = number
      · subst own
        rw [decide_eq_true rfl, Bool.true_and]
        split
        · next skips => exact (trails.exists_skip skips).1
        · next keeps => exact trails.step_both (Bool.eq_false_iff.mpr keeps)
      · rw [decide_eq_false own, Bool.false_and]
        exact trails.step_other own
  | moveTo instant => exact trails.moveTo instant
  | sleep milliseconds => exact atomic.elim
  | finish other => exact atomic.elim
  | run program => exact starts.elim
  | setPin pin high => exact trails.setPin pin high
  | togglePin pin => exact trails.togglePin pin
  | stop => exact trails.stop
  | stopRun other => exact trails.stopRun other

theorem Twins.events (trails : Trails count number first second) {acts : List Act}
    (atomic : ∀ act ∈ acts, act.IsMoment) (starts : ∀ act ∈ acts, act.StartsNothing) :
    Trails (count + inertBegun number acts first) number (first.follow acts)
      (second.follow (skipInert number acts first)) := by
  induction acts generalizing count first second with
  | nil => exact trails
  | cons act acts inductionHypothesis =>
      obtain ⟨moment, moments⟩ := List.forall_mem_cons.mp atomic
      obtain ⟨startsNot, startsNothing⟩ := List.forall_mem_cons.mp starts
      have event := trails.event moment startsNot
      rw [inertBegun, executions, List.countP_append, countP_begunBy, skipInert, ← Nat.add_assoc]
      split
      · next skipped =>
          rw [if_pos skipped] at event
          exact inductionHypothesis event moments startsNothing
      · next kept =>
          rw [if_neg kept] at event
          exact inductionHypothesis event moments startsNothing

/-- Other acts than steps begin nothing. -/
theorem any_begunBy_of_kept (kept : first.skips number = false) (act : Act) :
    ((first.begunBy number act).any fun execution => execution.statement.isInert) = false := by
  cases act with
  | step other => rw [any_begunBy, kept, Bool.and_false]
  | _ => rfl

/-- The first run passes over finitely many inert statements one after the other. -/
theorem Twins.exists_kept (trails : Trails count number first second) :
    ∃ skipped, Trails (count + skipped) number (first.course number skipped) second ∧
      (first.course number skipped).skips number = false ∧
      ∀ acts, skipInert number (.replicate skipped (.step number) ++ acts) first =
        skipInert number acts (first.course number skipped) := by
  obtain ⟨run, found⟩ : ∃ run, first.runs[number]? = some run := by
    obtain ⟨run, _, found, _⟩ := trails.own
    exact ⟨run, found⟩
  generalize measure : run.machine.headLength = left
  induction left using Nat.strong_induction_on generalizing count first run with
  | _ left inductionHypothesis =>
      cases skips : first.skips number with
      | false => exact ⟨0, trails, skips, fun _ => rfl⟩
      | true =>
          obtain ⟨onward, _, next, ownFound, ready, nextFound, shorter⟩ := trails.exists_skip skips
          cases found.symm.trans ownFound
          obtain ⟨skipped, done, kept, rest⟩ :=
            inductionHypothesis _ (measure ▸ shorter) onward next nextFound rfl
          have skip : ((first.begunBy number (.step number)).any fun execution =>
              execution.statement.isInert) = true := by
            rw [any_begunBy, decide_eq_true rfl, skips]
            rfl
          refine ⟨skipped + 1, ?_, ?_, ?_⟩
          · rw [course, proceed_of_ready found ready, Nat.add_comm skipped, ← Nat.add_assoc]
            exact done
          · rw [course, proceed_of_ready found ready]
            exact kept
          · intro acts
            rw [course, proceed_of_ready found ready, List.replicate_succ, List.cons_append,
              skipInert, if_pos skip]
            exact rest acts

/-- Whatever happens to the second preview can happen to the first one, with steps that begin inert
statements in between. -/
theorem Twins.exists_events (trails : Trails count number first second) {acts : List Act}
    (atomic : ∀ act ∈ acts, act.IsMoment) (starts : ∀ act ∈ acts, act.StartsNothing) :
    ∃ longer, (∀ act ∈ longer, act.IsMoment) ∧ (∀ act ∈ longer, act.StartsNothing) ∧
      skipInert number longer first = acts := by
  induction acts generalizing count first second with
  | nil => exact ⟨[], by simp, by simp, rfl⟩
  | cons act acts inductionHypothesis =>
      obtain ⟨moment, moments⟩ := List.forall_mem_cons.mp atomic
      obtain ⟨startsNot, startsNothing⟩ := List.forall_mem_cons.mp starts
      obtain ⟨skipped, onward, kept, rest⟩ := trails.exists_kept
      have event := onward.event moment startsNot
      have nothing := any_begunBy_of_kept kept act
      rw [if_neg (Bool.eq_false_iff.mp nothing)] at event
      obtain ⟨longer, longerMoments, longerStarts, same⟩ :=
        inductionHypothesis event moments startsNothing
      have steps : ∀ act ∈ List.replicate skipped (Act.step number),
          act.IsMoment ∧ act.StartsNothing := by
        intro act member
        rw [List.eq_of_mem_replicate member]
        exact ⟨trivial, trivial⟩
      refine ⟨.replicate skipped (.step number) ++ act :: longer, ?_, ?_, ?_⟩
      · exact List.forall_mem_append.mpr ⟨fun act member => (steps act member).1,
          List.forall_mem_cons.mpr ⟨moment, longerMoments⟩⟩
      · exact List.forall_mem_append.mpr ⟨fun act member => (steps act member).2,
          List.forall_mem_cons.mpr ⟨startsNot, longerStarts⟩⟩
      · rw [rest, skipInert, if_neg (Bool.eq_false_iff.mp nothing), same]

theorem Twins.proceed_kept (trails : Trails count number first second)
    (kept : first.skips number = false) :
    Trails count number (first.proceed number) (second.proceed number) := by
  obtain ⟨run, twin, found, twinFound, likes⟩ := trails.own
  by_cases ready : run.isReady first.now
  · have twinReady := (trails.ready_iff likes).mp ready
    rw [proceed_of_ready found ready, proceed_of_ready twinFound twinReady]
    exact trails.step_both kept
  · exact trails.proceed_unready found ready

theorem Twins.course_trails (trails : Trails count number first second) (steps : Nat) :
    ∃ passed fewer, Trails passed number (first.course number steps)
      (second.course number fewer) := by
  induction steps generalizing count first second with
  | zero => exact ⟨count, 0, trails⟩
  | succ steps inductionHypothesis =>
      cases skips : first.skips number with
      | false =>
          obtain ⟨passed, fewer, done⟩ := inductionHypothesis (trails.proceed_kept skips)
          exact ⟨passed, fewer + 1, done⟩
      | true =>
          obtain ⟨onward, run, _, found, ready, _⟩ := trails.exists_skip skips
          rw [course, proceed_of_ready found ready]
          exact inductionHypothesis onward

theorem Twins.course_trailed (trails : Trails count number first second) (fewer : Nat) :
    ∃ passed steps, Trails passed number (first.course number steps)
      (second.course number fewer) := by
  induction fewer generalizing count first second with
  | zero => exact ⟨count, 0, trails⟩
  | succ fewer inductionHypothesis =>
      obtain ⟨skipped, onward, kept, _⟩ := trails.exists_kept
      obtain ⟨passed, steps, done⟩ := inductionHypothesis (onward.proceed_kept kept)
      refine ⟨passed, skipped + (1 + steps), ?_⟩
      rw [course_add, course_add]
      exact done

private theorem startsNothing_actMoments (preview : Preview) {act : Act}
    (starts : act.StartsNothing) :
    ∀ moment ∈ preview.actMoments act, moment.StartsNothing := by
  rcases preview.internal_or_eq_actMoments act with internal | ⟨_, itself⟩
  · intro moment member
    rcases internal moment member with ⟨other, rfl⟩ | ⟨instant, rfl⟩ <;> trivial
  · rw [itself]
    exact List.forall_mem_singleton.mpr starts

private theorem startsNothing_moments (preview : Preview) {acts : List Act}
    (starts : ∀ act ∈ acts, act.StartsNothing) :
    ∀ moment ∈ moments acts preview, moment.StartsNothing := by
  induction acts generalizing preview with
  | nil => simp [moments]
  | cons act acts inductionHypothesis =>
      obtain ⟨first, others⟩ := List.forall_mem_cons.mp starts
      exact List.forall_mem_append.mpr
        ⟨preview.startsNothing_actMoments first, inductionHypothesis _ others⟩

private theorem twins_install {alike : Machine → Machine → Prop} (preview : Preview)
    {statements others : Chain}
    (likes : ∀ dice, alike (.start statements dice) (.start others dice)) :
    (preview.install statements).Twins alike preview.runs.size (preview.install others) := by
  rw [install, install, ← preview.size_ready]
  generalize (preview.call (.color preview.settings.color)).call .clear = ready
  refine ⟨rfl, rfl, rfl, rfl, rfl, ?_, ?_, ?_⟩
  · rw [Array.size_push, Array.size_push]
  · intro other different
    rw [Array.getElem?_push, Array.getElem?_push, if_neg different, if_neg different]
  · refine ⟨_, _, Array.getElem?_push_size, Array.getElem?_push_size, likes _, rfl, rfl,
      fun _ => .inl rfl, .inl ⟨rfl, rfl⟩⟩

private theorem trails_run (origin : Preview) (program : Program) :
    Trails 0 origin.settled.runs.size (origin.run program) (origin.run program.withoutInert) := by
  rw [run_eq_install, run_eq_install]
  exact origin.settled.twins_install fun _ => ⟨rfl, rfl, rfl, rfl⟩

end

/-- Inert statements can be taken out of a program. Whatever happens to the run of the program, it
is at each moment like the run of what is left, but for the number of inert statements that it has
begun; and what is left can do nothing else. The same holds for runs that are left to themselves. -/
theorem run_withoutInert (origin : Preview) (program : Program) :
    let number := origin.settled.runs.size
    let whole := origin.run program
    let pruned := origin.run program.withoutInert
    (∀ acts, (∀ act ∈ acts, act.StartsNothing) →
      let passed := moments acts whole
      Trails (inertBegun number passed whole) number (whole.follow acts)
        (pruned.follow (skipInert number passed whole))) ∧
    (∀ acts, (∀ act ∈ acts, act.StartsNothing) →
      ∃ longer, (∀ act ∈ longer, act.IsMoment ∧ act.StartsNothing) ∧
        skipInert number longer whole = moments acts pruned ∧
        Trails (inertBegun number longer whole) number (whole.follow longer) (pruned.follow acts)) ∧
    (∀ steps, ∃ count fewer,
      Trails count number (whole.course number steps) (pruned.course number fewer)) ∧
    ∀ fewer, ∃ count steps,
      Trails count number (whole.course number steps) (pruned.course number fewer) := by
  intro number whole pruned
  have trails : Trails 0 number whole pruned := trails_run origin program
  refine ⟨?_, ?_, trails.course_trails, trails.course_trailed⟩
  · intro acts starts passed
    have events := trails.events (isMoment_moments acts whole)
      (startsNothing_moments whole starts)
    rw [follow_moments, Nat.zero_add] at events
    exact events
  · intro acts starts
    obtain ⟨longer, atomic, startsNothing, same⟩ := trails.exists_events
      (isMoment_moments acts pruned) (startsNothing_moments pruned starts)
    have events := trails.events atomic startsNothing
    rw [same, follow_moments, Nat.zero_add] at events
    exact ⟨longer, fun act member => ⟨atomic act member, startsNothing act member⟩, same, events⟩

/-- A loop with a break in it, and a value after it. -/
def stumbling : Program :=
  .ofActions <|
    .link none (.repeatLoop (.number 2) <|
      .link none .breakLoop <| .link none (.displayImage "tick") .nil) <|
    .link none (.value (.number 1)) .nil

/-- The run of the program begins three inert statements, of which nothing shows. -/
theorem run_withoutInert_stumbling :
    let whole := (start default .low).run stumbling
    let passed := moments [.sleep 5, .finish 0] whole
    inertBegun 0 passed whole = 3 ∧
      Trails 3 0 (whole.follow [.sleep 5, .finish 0])
        (((start default .low).run stumbling.withoutInert).follow (skipInert 0 passed whole)) := by
  intro whole passed
  have count : inertBegun 0 passed whole = 3 := by decide +kernel
  have starts : ∀ act ∈ [Act.sleep 5, Act.finish 0], act.StartsNothing := by
    simp [Act.StartsNothing]
  obtain ⟨same, _⟩ := run_withoutInert (start default .low) stumbling
  have trails := same [.sleep 5, .finish 0] starts
  have number : (start default .low).settled.runs.size = 0 := rfl
  rw [number] at trails
  exact ⟨count, count ▸ trails⟩

end Preview

end Marquee
