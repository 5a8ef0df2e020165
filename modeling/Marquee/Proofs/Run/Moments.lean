import Marquee.Proofs.Run.Withering

/-!
# Moment by moment

Letting time pass and waiting for an end are made of steps and moves of time. Here they are written
out, so that what happens to a preview is a list of moments with nothing in between.

Time is virtual as long as it moves on only to an instant at which a run that is going on still
rests or wakes. Waiting for an end and starting see to that by themselves.
-/

namespace Marquee

/-- Nothing goes on inside of the act but a step, or starting. -/
def Act.IsMoment : Act → Prop
  | .sleep _ => False
  | .finish _ => False
  | _ => True

namespace Preview

def turnMoments (number : Nat) : Nat → Preview → List Act
  | 0, _ => []
  | steps + 1, preview =>
    .step number ::
      if (preview.step number).2 then turnMoments number steps (preview.step number).1 else []

def turnsMoments (steps : Nat) : List Nat → Preview → List Act
  | [], _ => []
  | number :: numbers, preview =>
    turnMoments number steps preview ++ turnsMoments steps numbers (preview.turn number steps)

def roundMoments (steps : Nat) (preview : Preview) : List Act :=
  turnsMoments steps preview.readyRuns preview

def passUntilMoments (instant : Nat) : Nat → Preview → List Act
  | 0, _ => [.moveTo instant]
  | rounds + 1, preview =>
    if preview.readyRuns.isEmpty then
      match preview.nextWake? with
      | some wakesAt =>
        if wakesAt < instant then
          .moveTo wakesAt :: passUntilMoments instant rounds (preview.moveTo wakesAt)
        else [.moveTo instant]
      | none => [.moveTo instant]
    else preview.roundMoments patience ++ passUntilMoments instant rounds (preview.round patience)

def passToEndMoments (number : Nat) : Nat → Preview → List Act
  | 0, _ => []
  | rounds + 1, preview =>
    if (preview.report? number).isSome then []
    else if preview.readyRuns.isEmpty then
      match preview.nextWake? with
      | some wakesAt => .moveTo wakesAt :: passToEndMoments number rounds (preview.moveTo wakesAt)
      | none => []
    else
      preview.roundMoments patience ++ passToEndMoments number rounds (preview.round patience)

def actMoments (preview : Preview) : Act → List Act
  | .sleep milliseconds =>
    if milliseconds = 0 then []
    else passUntilMoments (preview.now + milliseconds) patience preview
  | .finish number => passToEndMoments number patience preview
  | act => [act]

/-- All that happens to a preview, moment by moment. -/
def moments : List Act → Preview → List Act
  | [], _ => []
  | act :: acts, preview => preview.actMoments act ++ moments acts (preview.act act)

theorem follow_cons (preview : Preview) (first : Act) (acts : List Act) :
    preview.follow (first :: acts) = (preview.act first).follow acts := rfl

private theorem follow_turnMoments (number steps : Nat) (preview : Preview) :
    preview.follow (turnMoments number steps preview) = preview.turn number steps := by
  induction steps generalizing preview with
  | zero => rfl
  | succ steps inductionHypothesis =>
      rw [turnMoments, turn_succ, follow_cons, act]
      split
      · apply inductionHypothesis
      · rfl

private theorem follow_turnsMoments (steps : Nat) (numbers : List Nat) (preview : Preview) :
    preview.follow (turnsMoments steps numbers preview) =
      numbers.foldl (fun preview number => preview.turn number steps) preview := by
  induction numbers generalizing preview with
  | nil => rfl
  | cons number numbers inductionHypothesis =>
      rw [turnsMoments, follow_append, follow_turnMoments, inductionHypothesis]
      rfl

private theorem follow_roundMoments (steps : Nat) (preview : Preview) :
    preview.follow (preview.roundMoments steps) = preview.round steps :=
  follow_turnsMoments steps preview.readyRuns preview

private theorem follow_passUntilMoments (instant rounds : Nat) (preview : Preview) :
    preview.follow (passUntilMoments instant rounds preview) =
      preview.passUntil instant rounds := by
  induction rounds generalizing preview with
  | zero => rfl
  | succ rounds inductionHypothesis =>
      rw [passUntilMoments, passUntil]
      split
      · cases preview.nextWake? with
        | none => rfl
        | some wakesAt =>
            dsimp only
            split
            · exact inductionHypothesis (preview.moveTo wakesAt)
            · rfl
      · rw [follow_append, follow_roundMoments, inductionHypothesis]

private theorem follow_passToEndMoments (number rounds : Nat) (preview : Preview) :
    preview.follow (passToEndMoments number rounds preview) = preview.passToEnd number rounds := by
  induction rounds generalizing preview with
  | zero => rfl
  | succ rounds inductionHypothesis =>
      rw [passToEndMoments, passToEnd]
      split
      · rfl
      · split
        · cases preview.nextWake? with
          | none => rfl
          | some wakesAt => exact inductionHypothesis (preview.moveTo wakesAt)
        · rw [follow_append, follow_roundMoments, inductionHypothesis]

private theorem follow_actMoments (preview : Preview) (act : Act) :
    preview.follow (preview.actMoments act) = preview.act act := by
  cases act with
  | sleep milliseconds =>
      rw [actMoments, Preview.act, sleep]
      split
      · rfl
      · apply follow_passUntilMoments
  | finish number => exact follow_passToEndMoments number patience preview
  | _ => rfl

theorem follow_moments (acts : List Act) (preview : Preview) :
    preview.follow (moments acts preview) = preview.follow acts := by
  induction acts generalizing preview with
  | nil => rfl
  | cons act acts inductionHypothesis =>
      rw [moments, follow_append, follow_actMoments, inductionHypothesis]
      rfl

private theorem turnMoments_steps (number steps : Nat) (preview : Preview) :
    ∀ act ∈ turnMoments number steps preview, ∃ other, act = .step other := by
  induction steps generalizing preview with
  | zero => simp [turnMoments]
  | succ steps inductionHypothesis =>
      rw [turnMoments]
      refine List.forall_mem_cons.mpr ⟨⟨number, rfl⟩, ?_⟩
      split
      · apply inductionHypothesis
      · simp

private theorem roundMoments_steps (steps : Nat) (preview : Preview) :
    ∀ act ∈ preview.roundMoments steps, ∃ other, act = .step other := by
  rw [roundMoments]
  generalize preview.readyRuns = numbers
  induction numbers generalizing preview with
  | nil => simp [turnsMoments]
  | cons number numbers inductionHypothesis =>
      rw [turnsMoments]
      refine List.forall_mem_append.mpr ⟨?_, inductionHypothesis _⟩
      exact turnMoments_steps number steps preview

private theorem isInternal_of_steps {acts : List Act}
    (steps : ∀ act ∈ acts, ∃ other, act = .step other) :
    ∀ act ∈ acts, IsInternal act :=
  fun act member => .inl (steps act member)

private theorem isInternal_passUntilMoments (instant rounds : Nat) (preview : Preview) :
    ∀ act ∈ passUntilMoments instant rounds preview, IsInternal act := by
  have moves (instant : Nat) : IsInternal (.moveTo instant) := .inr ⟨instant, rfl⟩
  have last : ∀ act ∈ [Act.moveTo instant], IsInternal act :=
    List.forall_mem_singleton.mpr (moves instant)
  induction rounds generalizing preview with
  | zero => exact last
  | succ rounds inductionHypothesis =>
      rw [passUntilMoments]
      split
      · split
        · split
          · exact List.forall_mem_cons.mpr ⟨moves _, inductionHypothesis _⟩
          · exact last
        · exact last
      · refine List.forall_mem_append.mpr ⟨?_, inductionHypothesis _⟩
        exact isInternal_of_steps (roundMoments_steps patience preview)

private theorem isInternal_passToEndMoments (number rounds : Nat) (preview : Preview) :
    ∀ act ∈ passToEndMoments number rounds preview, IsInternal act := by
  induction rounds generalizing preview with
  | zero => simp [passToEndMoments]
  | succ rounds inductionHypothesis =>
      rw [passToEndMoments]
      split
      · simp
      · split
        · split
          · exact List.forall_mem_cons.mpr ⟨.inr ⟨_, rfl⟩, inductionHypothesis _⟩
          · simp
        · refine List.forall_mem_append.mpr ⟨?_, inductionHypothesis _⟩
          exact isInternal_of_steps (roundMoments_steps patience preview)

/-- The moments of an act are the act itself, or steps and moves of time. -/
theorem internal_or_eq_actMoments (preview : Preview) (act : Act) :
    (∀ moment ∈ preview.actMoments act, IsInternal moment) ∨
      act.IsMoment ∧ preview.actMoments act = [act] := by
  cases act with
  | sleep milliseconds =>
      left
      rw [actMoments]
      split
      · simp
      · apply isInternal_passUntilMoments
  | finish number => exact .inl (isInternal_passToEndMoments number patience preview)
  | _ => exact .inr ⟨trivial, rfl⟩

theorem IsInternal.isMoment {act : Act} (internal : IsInternal act) : act.IsMoment := by
  rcases internal with ⟨number, rfl⟩ | ⟨instant, rfl⟩ <;> trivial

private theorem isMoment_actMoments (preview : Preview) (act : Act) :
    ∀ moment ∈ preview.actMoments act, moment.IsMoment := by
  rcases preview.internal_or_eq_actMoments act with internal | ⟨atomic, itself⟩
  · exact fun moment member => (internal moment member).isMoment
  · rw [itself]
    exact List.forall_mem_singleton.mpr atomic

theorem isMoment_moments (acts : List Act) (preview : Preview) :
    ∀ act ∈ moments acts preview, act.IsMoment := by
  induction acts generalizing preview with
  | nil => simp [moments]
  | cons act acts inductionHypothesis =>
      exact List.forall_mem_append.mpr ⟨isMoment_actMoments preview act, inductionHypothesis _⟩

/-! ## Virtual time -/

/-- If the run is going on, it rests, and the instant at which it wakes is not over. -/
def OnTime (preview : Preview) (number : Nat) : Prop :=
  ∀ run, preview.runs[number]? = some run → run.isLive → run.report = none →
    ∃ wakesAt, run.wakesAt = some wakesAt ∧ preview.now ≤ wakesAt

/-- Time does not move on past the run. -/
def KeepsTime (preview : Preview) (number : Nat) : Act → Prop
  | .moveTo instant => preview.now < instant → (preview.moveTo instant).OnTime number
  | .sleep milliseconds => 0 < milliseconds → (preview.sleep milliseconds).OnTime number
  | _ => True

/-- Time never moves on past the run. -/
def Punctual (number : Nat) : List Act → Preview → Prop
  | [], _ => True
  | act :: acts, preview => preview.KeepsTime number act ∧ Punctual number acts (preview.act act)

section

variable {number : Nat} {preview : Preview}

private theorem punctual_append {first second : List Act} :
    Punctual number (first ++ second) preview ↔
      Punctual number first preview ∧ Punctual number second (preview.follow first) := by
  induction first generalizing preview with
  | nil => simp [Punctual, follow]
  | cons act acts inductionHypothesis =>
      rw [List.cons_append, Punctual, Punctual, inductionHypothesis, follow_cons, and_assoc]

private theorem punctual_of_steps {acts : List Act}
    (steps : ∀ act ∈ acts, ∃ other, act = .step other) :
    Punctual number acts preview := by
  induction acts generalizing preview with
  | nil => trivial
  | cons act acts inductionHypothesis =>
      obtain ⟨⟨other, rfl⟩, others⟩ := List.forall_mem_cons.mp steps
      exact ⟨trivial, inductionHypothesis others⟩

/-- When nothing is ready, time moves on to the next wake, and no run is left behind. -/
theorem onTime_moveTo {wakesAt : Nat} (resting : preview.readyRuns.isEmpty)
    (wakes : preview.nextWake? = some wakesAt) : (preview.moveTo wakesAt).OnTime number := by
  intro run found live going
  have unready : ¬ run.isReady preview.now := by
    intro ready
    have member : number ∈ preview.readyRuns := mem_readyRuns_iff.mpr ⟨run, found, ready⟩
    rw [List.isEmpty_iff.mp resting] at member
    cases member
  cases own : run.wakesAt with
  | none => simp [Run.isReady, going, own] at unready
  | some ownWake =>
      have ahead : preview.now < ownWake := by
        simpa [Run.isReady, going, own, live] using unready
      have wake : run.wake? = some ownWake := by
        rw [Run.wake?, going, own]
        rfl
      have listed : ownWake ∈ preview.runs.toList.filterMap Run.wake? :=
        List.mem_filterMap.mpr ⟨run, Array.mem_toList_iff.mpr (Array.mem_of_getElem? found), wake⟩
      have least : wakesAt ≤ ownWake := (List.min?_eq_some_iff.mp wakes).2 ownWake listed
      exact ⟨ownWake, rfl, Nat.max_le.mpr ⟨Nat.le_of_lt ahead, least⟩⟩

private theorem punctual_passUntilMoments {instant rounds : Nat} (ahead : preview.now < instant)
    (onTime : (preview.passUntil instant rounds).OnTime number) :
    Punctual number (passUntilMoments instant rounds preview) preview := by
  have last {preview : Preview} (onTime : (preview.moveTo instant).OnTime number) :
      Punctual number [.moveTo instant] preview := ⟨fun _ => onTime, trivial⟩
  induction rounds generalizing preview with
  | zero => exact last onTime
  | succ rounds inductionHypothesis =>
      rw [passUntil] at onTime
      rw [passUntilMoments]
      split
      · next resting =>
          rw [if_pos resting] at onTime
          split
          · next wakesAt wakes =>
              rw [wakes] at onTime
              dsimp only at onTime
              split
              · next early =>
                  rw [if_pos early] at onTime
                  have moved : (preview.moveTo wakesAt).now < instant :=
                    Nat.max_lt.mpr ⟨ahead, early⟩
                  exact ⟨fun _ => onTime_moveTo resting wakes, inductionHypothesis moved onTime⟩
              · next late =>
                  rw [if_neg late] at onTime
                  exact last onTime
          · next none =>
              rw [none] at onTime
              exact last onTime
      · next waiting =>
          rw [if_neg waiting] at onTime
          apply punctual_append.mpr
          refine ⟨punctual_of_steps (roundMoments_steps patience preview), ?_⟩
          rw [follow_roundMoments]
          apply inductionHypothesis _ onTime
          rw [now_round]
          exact ahead

private theorem punctual_passToEndMoments (other rounds : Nat) (preview : Preview) :
    Punctual number (passToEndMoments other rounds preview) preview := by
  induction rounds generalizing preview with
  | zero => trivial
  | succ rounds inductionHypothesis =>
      rw [passToEndMoments]
      split
      · trivial
      · split
        · next resting =>
            split
            · next wakesAt wakes =>
                exact ⟨fun _ => onTime_moveTo resting wakes, inductionHypothesis _⟩
            · trivial
        · apply punctual_append.mpr
          refine ⟨punctual_of_steps (roundMoments_steps patience preview), ?_⟩
          rw [follow_roundMoments]
          apply inductionHypothesis

theorem KeepsTime.moments {act : Act} (keepsTime : preview.KeepsTime number act) :
    Punctual number (preview.actMoments act) preview := by
  cases act with
  | sleep milliseconds =>
      rw [actMoments]
      split
      · trivial
      · next some =>
          have positive := Nat.pos_of_ne_zero some
          have onTime := keepsTime positive
          rw [sleep, if_neg some] at onTime
          exact punctual_passUntilMoments (Nat.lt_add_of_pos_right positive) onTime
  | finish other => exact punctual_passToEndMoments other patience preview
  | _ => exact ⟨keepsTime, trivial⟩

/-- If time does not move on past the run, it never does so in between. -/
theorem Punctual.moments {acts : List Act} (punctual : Punctual number acts preview) :
    Punctual number (moments acts preview) preview := by
  induction acts generalizing preview with
  | nil => trivial
  | cons act acts inductionHypothesis =>
      obtain ⟨first, others⟩ := punctual
      rw [Preview.moments]
      apply punctual_append.mpr
      refine ⟨first.moments, ?_⟩
      rw [follow_actMoments]
      exact inductionHypothesis others

end

/-- A run that does not rest wakes at no instant that is over. -/
theorem ahead_of_none (now : Nat) : ∀ wakesAt, none = some wakesAt → now ≤ wakesAt := by
  intro wakesAt impossible
  cases impossible

/-- A run that is ready takes its step when it is due. -/
theorem due_of_ready {preview : Preview} {run : Run} (live : run.isLive)
    (ready : run.isReady preview.now)
    (ahead : ∀ wakesAt, run.wakesAt = some wakesAt → preview.now ≤ wakesAt) :
    run.wakesAt.getD preview.now = preview.now := by
  cases wakes : run.wakesAt with
  | none => rfl
  | some wakesAt =>
      rw [Run.isReady, wakes, Bool.and_eq_true] at ready
      have reached : wakesAt ≤ preview.now := by simpa [live] using ready.2
      exact Nat.le_antisymm reached (ahead wakesAt wakes)

/-- What a run keeps when it is stopped, it keeps in whatever happens while another run takes a
step. -/
theorem withstands_kept {number other : Nat} (different : other ≠ number) {kept : Run → Prop}
    (stops : ∀ (run : Run) (now : Nat), kept run → kept (run.stop now)) :
    Withstands other fun preview => ∃ run, preview.runs[number]? = some run ∧ kept run where
  change := by
    rintro preview change _ ⟨run, found, keeps⟩
    exact ⟨run, by rw [runs_modifyRun, if_neg different, found], keeps⟩
  record _ keeps := keeps
  setPin _ _ keeps := keeps
  stop := by
    rintro preview ⟨run, found, keeps⟩
    rw [stop]
    split
    · next current _ =>
        by_cases own : current = number
        · refine ⟨run.stop preview.now, ?_, stops run preview.now keeps⟩
          rw [stopRun, runs_modifyRun, if_pos own, found]
          rfl
        · refine ⟨run, ?_, keeps⟩
          rw [stopRun, runs_modifyRun, if_neg own, found]
    · exact ⟨run, found, keeps⟩

/-- What a run keeps when it is stopped, it keeps while a request is granted to it that is no
rest. -/
theorem grant_kept {preview : Preview} {number : Nat} {kept : Run → Prop}
    (stops : ∀ (run : Run) (now : Nat), kept run → kept (run.stop now)) {request : Request}
    (restless : ∀ milliseconds, request ≠ .rest milliseconds)
    (keeps : ∃ run, preview.runs[number]? = some run ∧ kept run) :
    ∃ run, (preview.grant number request).1.runs[number]? = some run ∧ kept run := by
  have withstands := withstands_kept (Nat.succ_ne_self number) stops
  cases request with
  | nothing => exact keeps
  | call panelCall => exact withstands.call panelCall keeps
  | drive pin high => exact withstands.call _ (withstands.setPin pin high keeps)
  | rest milliseconds => exact absurd rfl (restless milliseconds)
  | yield => exact keeps

/-- The run is there, it is stopped, and it has this property. -/
def Stopped (preview : Preview) (number : Nat) (kept : Run → Prop) : Prop :=
  ∃ run, preview.runs[number]? = some run ∧ run.isLive = false ∧ kept run

/-- A stopped run keeps a property. -/
structure StoppedKeep (kept : Run → Prop) : Prop where
  stop : ∀ {run : Run} (now : Nat), kept run → kept (run.stop now)
  unwind : ∀ {run : Run} (now : Nat), run.isLive = false → kept run → kept (run.unwind now)

section

variable {preview : Preview} {number : Nat} {kept : Run → Prop}

theorem not_isLive_unwind {run : Run} (stopped : run.isLive = false) (now : Nat) :
    (run.unwind now).isLive = false := by
  rw [Run.unwind]
  split
  · rfl
  · exact stopped

theorem StoppedKeep.withstands (keep : StoppedKeep kept) {other : Nat}
    (different : other ≠ number) : Withstands other fun preview => preview.Stopped number kept :=
  withstands_kept different fun _ now stopped => ⟨rfl, keep.stop now stopped.2⟩

theorem StoppedKeep.keeps (keep : StoppedKeep kept) :
    Keeps fun preview => preview.Stopped number kept := by
  refine ⟨⟨?_⟩, fun _ stopped => stopped⟩
  rintro preview other ⟨run, found, stopped, keeps⟩
  by_cases own : other = number
  · rw [own, step_stopped found stopped]
    split
    · exact ⟨run, found, stopped, keeps⟩
    · refine ⟨run.unwind preview.now, ?_, not_isLive_unwind stopped _, keep.unwind _ stopped keeps⟩
      rw [runs_modifyRun, if_pos rfl, found]
      rfl
  · exact (keep.withstands own).step ⟨run, found, stopped, keeps⟩

theorem Stopped.call (stopped : preview.Stopped number kept) (keep : StoppedKeep kept)
    (panelCall : PanelCall) : (preview.call panelCall).Stopped number kept :=
  (keep.withstands (Nat.succ_ne_self number)).call panelCall stopped

theorem Stopped.install (stopped : preview.Stopped number kept) (keep : StoppedKeep kept)
    (statements : Chain) : (preview.install statements).Stopped number kept := by
  obtain ⟨run, found, still⟩ :=
    (stopped.call keep (.color preview.settings.color)).call keep .clear
  refine ⟨run, ?_, still⟩
  have inside := (Array.getElem?_eq_some_iff.mp found).1
  rw [Preview.install, Array.getElem?_push, if_neg (Nat.ne_of_lt inside), found]

/-- Whatever happens, a stopped run stays stopped and keeps what it keeps. -/
theorem Stopped.act (stopped : preview.Stopped number kept) (keep : StoppedKeep kept)
    (act : Act) : (preview.act act).Stopped number kept := by
  have stop : preview.stop.Stopped number kept :=
    (keep.withstands (Nat.succ_ne_self number)).stop stopped
  cases act with
  | step other => exact keep.keeps.step other stopped
  | moveTo _ => exact stopped
  | sleep milliseconds => exact keep.keeps.sleep milliseconds stopped
  | finish other => exact keep.keeps.finish other stopped
  | run program =>
      rw [Preview.act, Preview.run]
      split
      · exact (keep.keeps.sleep _ stop).install keep program.actions
      · exact stopped.install keep program.actions
  | setPin _ _ => exact stopped
  | togglePin _ => exact stopped
  | stop => exact stop
  | stopRun other =>
      by_cases own : other = number
      · obtain ⟨run, found, _, keeps⟩ := stopped
        refine ⟨run.stop preview.now, ?_, rfl, keep.stop _ keeps⟩
        rw [own, Preview.act, stopRun, runs_modifyRun, if_pos rfl, found]
        rfl
      · exact (keep.withstands own).change (Run.fading_stop _) stopped

theorem Stopped.follow (stopped : preview.Stopped number kept) (keep : StoppedKeep kept)
    (acts : List Act) : (preview.follow acts).Stopped number kept := by
  induction acts generalizing preview with
  | nil => exact stopped
  | cons act acts inductionHypothesis => exact inductionHypothesis (stopped.act keep act)

end

end Preview

end Marquee
