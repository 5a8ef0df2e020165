import Marquee.Proofs.Run.Beside

/-!
# Time passes beside other runs

Letting time pass is a matter of rounds, of which some are taken up by runs that were there before
and only end. So the run has at most as many rounds as all runs have together. That makes no
difference once all runs rest: then any more rounds would change nothing.
-/

namespace Marquee

namespace Preview

section

variable {preview : Preview} {instant number rounds wakesAt : Nat}

private theorem passUntil_of_ready (ready : preview.readyRuns ≠ []) :
    passUntil instant (rounds + 1) preview =
      passUntil instant rounds (preview.round patience) := by
  rw [passUntil, if_neg fun empty => ready (List.isEmpty_iff.mp empty)]

private theorem passUntil_of_wake (resting : preview.readyRuns = [])
    (wakes : preview.nextWake? = some wakesAt) (early : wakesAt < instant) :
    passUntil instant (rounds + 1) preview =
      passUntil instant rounds (preview.moveTo wakesAt) := by
  rw [passUntil, resting, wakes]
  exact if_pos early

/-- When nothing is to be done before the instant, any number of rounds is enough. -/
theorem passUntil_of_rest (resting : preview.readyRuns = [])
    (late : ∀ wakesAt, preview.nextWake? = some wakesAt → instant ≤ wakesAt) (rounds : Nat) :
    passUntil instant rounds preview = preview.moveTo instant := by
  cases rounds with
  | zero => rfl
  | succ rounds =>
      rw [passUntil, resting]
      cases wakes : preview.nextWake? with
      | none => rfl
      | some wakesAt => exact if_neg (Nat.not_lt.mpr (late wakesAt wakes))

private theorem passToEnd_of_ended (ended : (preview.report? number).isSome) (rounds : Nat) :
    passToEnd number rounds preview = preview := by
  cases rounds with
  | zero => rfl
  | succ rounds => exact if_pos ended

private theorem passToEnd_of_ready (going : preview.report? number = none)
    (ready : preview.readyRuns ≠ []) :
    passToEnd number (rounds + 1) preview =
      passToEnd number rounds (preview.round patience) := by
  rw [passToEnd, going, if_neg fun empty => ready (List.isEmpty_iff.mp empty)]
  rfl

private theorem passToEnd_of_wake (going : preview.report? number = none)
    (resting : preview.readyRuns = []) (wakes : preview.nextWake? = some wakesAt) :
    passToEnd number (rounds + 1) preview =
      passToEnd number rounds (preview.moveTo wakesAt) := by
  rw [passToEnd, going, resting, wakes]
  rfl

/-- When nothing is to be done at all, any number of rounds is enough. -/
theorem passToEnd_of_idle (resting : preview.readyRuns = []) (idle : preview.nextWake? = none)
    (rounds : Nat) : passToEnd number rounds preview = preview := by
  cases rounds with
  | zero => rfl
  | succ rounds =>
      rw [passToEnd, resting, idle]
      split <;> rfl

/-- No run can do anything before a later instant: each has ended, or rests until now at least. -/
def AtRest (preview : Preview) : Prop :=
  ∀ (number : Nat) (run : Run), preview.runs[number]? = some run → run.report = none →
    run.isLive ∧ ∃ wakesAt, run.wakesAt = some wakesAt ∧ preview.now ≤ wakesAt

private theorem resting_of_late {preview : Preview}
    (late : ∀ (number : Nat) (run : Run), preview.runs[number]? = some run → run.report = none →
      run.isLive ∧ ∃ wakesAt, run.wakesAt = some wakesAt ∧ instant ≤ wakesAt)
    (ahead : preview.now < instant) :
    preview.readyRuns = [] ∧ ∀ wakesAt, preview.nextWake? = some wakesAt → instant ≤ wakesAt := by
  constructor
  · apply List.eq_nil_iff_forall_not_mem.mpr
    intro number member
    obtain ⟨run, found, ready⟩ := mem_readyRuns_iff.mp member
    rw [Run.isReady, Bool.and_eq_true] at ready
    obtain ⟨going, due⟩ := ready
    obtain ⟨live, wakesAt, wakes, bound⟩ :=
      late number run found (Option.isNone_iff_eq_none.mp going)
    rw [wakes, live] at due
    have passed : wakesAt ≤ preview.now := by simpa using due
    exact absurd (Nat.le_trans bound passed) (Nat.not_le.mpr ahead)
  · intro wakesAt wakes
    obtain ⟨run, member, wake⟩ := List.mem_filterMap.mp (List.min?_mem wakes)
    obtain ⟨number, found⟩ := List.mem_iff_getElem?.mp member
    rw [Array.getElem?_toList] at found
    rw [Run.wake?] at wake
    split at wake
    · next going =>
        obtain ⟨_, other, same, bound⟩ :=
          late number run found (Option.isNone_iff_eq_none.mp going)
        rw [wake] at same
        cases same
        exact bound
    · cases wake

/-- If all runs rest after some rounds, then more rounds make no difference. -/
theorem passUntil_of_atRest {preview : Preview}
    (rest : (passUntil instant rounds preview).AtRest) (ahead : preview.now < instant) {more : Nat}
    (enough : rounds ≤ more) :
    passUntil instant more preview = passUntil instant rounds preview := by
  induction rounds generalizing preview more with
  | zero =>
      have late : ∀ (number : Nat) (run : Run), preview.runs[number]? = some run →
          run.report = none → run.isLive ∧ ∃ wakesAt, run.wakesAt = some wakesAt ∧
            instant ≤ wakesAt := by
        intro number run found going
        obtain ⟨live, wakesAt, wakes, bound⟩ := rest number run found going
        exact ⟨live, wakesAt, wakes, Nat.le_trans (Nat.le_max_right _ _) bound⟩
      obtain ⟨resting, sleeping⟩ := resting_of_late late ahead
      exact passUntil_of_rest resting sleeping more
  | succ rounds inductionHypothesis =>
      cases more with
      | zero => exact absurd enough (Nat.not_succ_le_zero rounds)
      | succ more =>
          have fewer := Nat.le_of_succ_le_succ enough
          by_cases resting : preview.readyRuns = []
          · by_cases waking : ∃ wakesAt, preview.nextWake? = some wakesAt ∧ wakesAt < instant
            · obtain ⟨wakesAt, wakes, early⟩ := waking
              rw [passUntil_of_wake resting wakes early] at rest ⊢
              rw [passUntil_of_wake resting wakes early]
              exact inductionHypothesis rest (Nat.max_lt.mpr ⟨ahead, early⟩) fewer
            · have late : ∀ wakesAt, preview.nextWake? = some wakesAt → instant ≤ wakesAt :=
                fun wakesAt wakes => Nat.not_lt.mp fun early => waking ⟨wakesAt, wakes, early⟩
              rw [passUntil_of_rest resting late, passUntil_of_rest resting late]
          · rw [passUntil_of_ready resting] at rest ⊢
            rw [passUntil_of_ready resting]
            have now := now_round preview patience
            exact inductionHypothesis rest (now.symm ▸ ahead) fewer

theorem passToEnd_of_isSome {preview : Preview}
    (ended : ((passToEnd number rounds preview).report? number).isSome) {more : Nat}
    (enough : rounds ≤ more) :
    passToEnd number more preview = passToEnd number rounds preview := by
  induction rounds generalizing preview more with
  | zero => exact passToEnd_of_ended ended more
  | succ rounds inductionHypothesis =>
      cases more with
      | zero => exact absurd enough (Nat.not_succ_le_zero rounds)
      | succ more =>
          have fewer := Nat.le_of_succ_le_succ enough
          by_cases already : (preview.report? number).isSome
          · rw [passToEnd_of_ended already, passToEnd_of_ended already]
          · have going := Option.not_isSome_iff_eq_none.mp already
            by_cases resting : preview.readyRuns = []
            · cases wakes : preview.nextWake? with
              | none => rw [passToEnd_of_idle resting wakes, passToEnd_of_idle resting wakes]
              | some wakesAt =>
                  rw [passToEnd_of_wake going resting wakes] at ended ⊢
                  rw [passToEnd_of_wake going resting wakes]
                  exact inductionHypothesis ended fewer
            · rw [passToEnd_of_ready going resting] at ended ⊢
              rw [passToEnd_of_ready going resting]
              exact inductionHypothesis ended fewer

end

namespace Beside

variable {moment whole lone : Preview} {left : Nat}

theorem report? (beside : Beside moment left whole lone) :
    whole.report? moment.runs.size = lone.report? 0 := by
  obtain ⟨run, loneRuns, found⟩ := beside.own
  rw [Preview.report?, Preview.report?, found, loneRuns]
  rfl

theorem moveToWake (beside : Beside moment left whole lone) (wakesAt : Nat) :
    Beside moment left (whole.moveTo (moment.now + wakesAt)) (lone.moveTo wakesAt) := by
  have moved := beside.moveTo (moment.now + wakesAt)
  rwa [Nat.add_sub_cancel_left] at moved

theorem resting_lone (beside : Beside moment left whole lone) (resting : whole.readyRuns = []) :
    lone.readyRuns = [] := by
  rcases beside.readyRuns with ⟨_, none⟩ | ⟨member, _⟩
  · exact none
  · rw [resting] at member
    cases member

/-- In a round the run has a turn, or it rests and the runs from before come nearer to their end. -/
theorem cases_round (beside : Beside moment left whole lone) (ready : whole.readyRuns ≠ []) :
    lone.readyRuns ≠ [] ∧
        Beside moment left (whole.round patience) (lone.round patience) ∨
      lone.readyRuns = [] ∧ ∃ fewer, left = fewer + 1 ∧
        Beside moment fewer (whole.round patience) lone := by
  have after := beside.round patience
  rcases beside.readyRuns with ⟨absent, none⟩ | ⟨_, own⟩
  · obtain ⟨fewer, rfl⟩ := Nat.exists_eq_succ_of_ne_zero (beside.left_pos ready absent)
    rw [none] at after
    exact Or.inr ⟨none, fewer, rfl, beside.wither after⟩
  · rw [own] at after
    rw [own]
    exact Or.inl ⟨List.cons_ne_nil 0 [], after⟩

/-- While time passes until an instant, it passes for the run as well, in as many rounds but those
that the runs from before take up. -/
theorem passUntil (beside : Beside moment left whole lone) (instant rounds : Nat) :
    ∃ fewer ≤ rounds, rounds ≤ fewer + left ∧
      Beside moment left (Preview.passUntil instant rounds whole)
        (Preview.passUntil (instant - moment.now) fewer lone) := by
  induction rounds generalizing whole lone left with
  | zero => exact ⟨0, Nat.le_refl 0, Nat.zero_le _, beside.moveTo instant⟩
  | succ rounds inductionHypothesis =>
      by_cases resting : whole.readyRuns = []
      · have loneResting := beside.resting_lone resting
        have wakes := beside.nextWake? resting
        by_cases waking : ∃ wakesAt, lone.nextWake? = some wakesAt ∧
            moment.now + wakesAt < instant
        · obtain ⟨wakesAt, loneWakes, early⟩ := waking
          rw [loneWakes] at wakes
          obtain ⟨fewer, bound, enough, after⟩ := inductionHypothesis (beside.moveToWake wakesAt)
          refine ⟨fewer + 1, Nat.succ_le_succ bound, by omega, ?_⟩
          rw [passUntil_of_wake resting wakes early,
            passUntil_of_wake loneResting loneWakes (by omega)]
          exact after
        · have late (wakesAt : Nat) (found : lone.nextWake? = some wakesAt) :
              instant ≤ moment.now + wakesAt :=
            Nat.not_lt.mp fun early => waking ⟨wakesAt, found, early⟩
          refine ⟨rounds + 1, Nat.le_refl _, Nat.le_add_right _ _, ?_⟩
          rw [passUntil_of_rest resting, passUntil_of_rest loneResting]
          · exact beside.moveTo instant
          · intro wakesAt found
            exact Nat.sub_le_iff_le_add'.mpr (late wakesAt found)
          · intro wakesAt found
            rw [wakes] at found
            obtain ⟨loneWakesAt, loneWakes, rfl⟩ := Option.map_eq_some_iff.mp found
            exact late loneWakesAt loneWakes
      · rw [passUntil_of_ready resting]
        rcases beside.cases_round resting with ⟨loneReady, after⟩ | ⟨_, fewerLeft, rfl, after⟩
        · obtain ⟨fewer, bound, enough, later⟩ := inductionHypothesis after
          refine ⟨fewer + 1, Nat.succ_le_succ bound, by omega, ?_⟩
          rw [passUntil_of_ready loneReady]
          exact later
        · obtain ⟨fewer, bound, enough, later⟩ := inductionHypothesis after
          exact ⟨fewer, Nat.le_succ_of_le bound, by omega, later.mono (Nat.le_succ _)⟩

/-- While the end of a run is waited for that ends together with one of the lone preview, its end is
waited for there, in as many rounds but those that the runs from before take up. -/
theorem passToEnd (beside : Beside moment left whole lone) {number loneNumber : Nat}
    (together : ∀ {left : Nat} {whole lone : Preview}, Beside moment left whole lone →
      whole.report? number = lone.report? loneNumber) (rounds : Nat) :
    ∃ fewer ≤ rounds, rounds ≤ fewer + left ∧
      Beside moment left (Preview.passToEnd number rounds whole)
        (Preview.passToEnd loneNumber fewer lone) := by
  induction rounds generalizing whole lone left with
  | zero => exact ⟨0, Nat.le_refl 0, Nat.zero_le _, beside⟩
  | succ rounds inductionHypothesis =>
      have same := together beside
      by_cases ended : (whole.report? number).isSome
      · refine ⟨rounds + 1, Nat.le_refl _, Nat.le_add_right _ _, ?_⟩
        rw [passToEnd_of_ended ended, passToEnd_of_ended (same ▸ ended)]
        exact beside
      · have going := Option.not_isSome_iff_eq_none.mp ended
        have loneGoing := same.symm.trans going
        by_cases resting : whole.readyRuns = []
        · have loneResting := beside.resting_lone resting
          have wakes := beside.nextWake? resting
          cases loneWakes : lone.nextWake? with
          | none =>
              rw [loneWakes] at wakes
              refine ⟨rounds + 1, Nat.le_refl _, Nat.le_add_right _ _, ?_⟩
              rw [passToEnd_of_idle resting wakes, passToEnd_of_idle loneResting loneWakes]
              exact beside
          | some wakesAt =>
              rw [loneWakes] at wakes
              obtain ⟨fewer, bound, enough, after⟩ :=
                inductionHypothesis (beside.moveToWake wakesAt)
              refine ⟨fewer + 1, Nat.succ_le_succ bound, by omega, ?_⟩
              rw [passToEnd_of_wake going resting wakes,
                passToEnd_of_wake loneGoing loneResting loneWakes]
              exact after
        · rw [passToEnd_of_ready going resting]
          rcases beside.cases_round resting with ⟨loneReady, after⟩ | ⟨_, fewerLeft, rfl, after⟩
          · obtain ⟨fewer, bound, enough, later⟩ := inductionHypothesis after
            refine ⟨fewer + 1, Nat.succ_le_succ bound, by omega, ?_⟩
            rw [passToEnd_of_ready loneGoing loneReady]
            exact later
          · obtain ⟨fewer, bound, enough, later⟩ := inductionHypothesis after
            exact ⟨fewer, Nat.le_succ_of_le bound, by omega, later.mono (Nat.le_succ _)⟩

theorem passUntil_now (preview : Preview) : Preview.passUntil preview.now 0 preview = preview := by
  rw [Preview.passUntil, Preview.moveTo, Nat.max_self]

/-- While the end of a run from before is waited for, the run goes on without time passing, for no
more rounds than that run takes to its end. -/
theorem passToEndBefore (beside : Beside moment left whole lone) {number : Nat}
    (before : number < moment.runs.size) (rounds : Nat) :
    ∃ fewer ≤ left, Beside moment left (Preview.passToEnd number rounds whole)
      (Preview.passUntil lone.now fewer lone) := by
  induction rounds generalizing whole lone left with
  | zero =>
      refine ⟨0, Nat.zero_le _, ?_⟩
      rw [passUntil_now]
      exact beside
  | succ rounds inductionHypothesis =>
      have withers := beside.others number before
      by_cases ended : (whole.report? number).isSome
      · refine ⟨0, Nat.zero_le _, ?_⟩
        rw [passToEnd_of_ended ended, passUntil_now]
        exact beside
      · have ready := List.ne_nil_of_mem (withers.ready ended)
        have going := Option.not_isSome_iff_eq_none.mp ended
        rw [passToEnd_of_ready going ready]
        rcases beside.cases_round ready with ⟨loneReady, after⟩ | ⟨_, fewerLeft, rfl, after⟩
        · have some : left ≠ 0 := by
            rintro rfl
            exact ended withers.isSome_report?
          obtain ⟨fewerLeft, rfl⟩ := Nat.exists_eq_succ_of_ne_zero some
          obtain ⟨fewer, bound, later⟩ := inductionHypothesis (beside.wither after)
          refine ⟨fewer + 1, Nat.succ_le_succ bound, ?_⟩
          rw [now_round] at later
          rw [passUntil_of_ready loneReady]
          exact later.mono (Nat.le_succ _)
        · obtain ⟨fewer, bound, later⟩ := inductionHypothesis after
          exact ⟨fewer, Nat.le_succ_of_le bound, later.mono (Nat.le_succ _)⟩

/-- The run sleeps as it does when it is the only one, unless patience ends before it rests. -/
theorem sleep (beside : Beside moment left whole lone) (milliseconds : Nat) :
    Beside moment left (whole.sleep milliseconds) (lone.sleep milliseconds) ∨
      ∃ rounds ≤ patience, patience ≤ rounds + left ∧
        ¬ (Preview.passUntil (lone.now + milliseconds) rounds lone).AtRest ∧
        Beside moment left (whole.sleep milliseconds)
          (Preview.passUntil (lone.now + milliseconds) rounds lone) := by
  rw [Preview.sleep, Preview.sleep]
  by_cases zero : milliseconds = 0
  · rw [if_pos zero, if_pos zero]
    exact Or.inl beside
  · rw [if_neg zero, if_neg zero]
    obtain ⟨rounds, bound, enough, after⟩ := beside.passUntil (whole.now + milliseconds) patience
    have instant : whole.now + milliseconds - moment.now = lone.now + milliseconds := by
      rw [beside.now]
      omega
    rw [instant] at after
    by_cases rest : (Preview.passUntil (lone.now + milliseconds) rounds lone).AtRest
    · have same := passUntil_of_atRest rest (by omega) bound
      rw [same]
      exact Or.inl after
    · exact Or.inr ⟨rounds, bound, enough, rest, after⟩

end Beside

end Preview

end Marquee
