import Marquee.Run.Preview

/-!
# What happens to a preview

A preview is used from outside, its runs take steps, and time moves on. Letting time pass and
waiting for an end are made of steps and moves of time, so what these keep is kept throughout, and
whatever is shown for all sequences of acts holds at every point between two steps.
-/

namespace Marquee

/-- Something that happens to a preview. -/
inductive Act where
  /-- A run takes a step. -/
  | step (number : Nat)
  /-- Time moves on. -/
  | moveTo (instant : Nat)
  | sleep (milliseconds : Nat)
  | finish (number : Nat)
  | run (program : Program)
  | setPin (pin : UInt8) (high : Bool)
  | togglePin (pin : UInt8)
  | stop
  | stopRun (number : Nat)

namespace Preview

/-- The preview after something has happened to it. -/
def act (preview : Preview) : Act → Preview
  | .step number => (preview.step number).1
  | .moveTo instant => preview.moveTo instant
  | .sleep milliseconds => preview.sleep milliseconds
  | .finish number => preview.finish number
  | .run program => preview.run program
  | .setPin pin high => preview.setPin pin high
  | .togglePin pin => preview.togglePin pin
  | .stop => preview.stop
  | .stopRun number => preview.stopRun number

/-- The preview after all this has happened to it, one after the other. -/
def follow (preview : Preview) (acts : List Act) : Preview :=
  acts.foldl act preview

theorem follow_append (preview : Preview) (first second : List Act) :
    preview.follow (first ++ second) = (preview.follow first).follow second :=
  List.foldl_append

theorem follow_snoc (preview : Preview) (acts : List Act) (last : Act) :
    preview.follow (acts ++ [last]) = (preview.follow acts).act last :=
  follow_append preview acts [last]

theorem follow_induction {motive : Preview → Prop} {acts : List Act}
    (keeps : ∀ act ∈ acts, ∀ preview, motive preview → motive (preview.act act))
    {preview : Preview} (holds : motive preview) : motive (preview.follow acts) := by
  induction acts generalizing preview with
  | nil => exact holds
  | cons act acts inductionHypothesis =>
      obtain ⟨first, others⟩ := List.forall_mem_cons.mp keeps
      exact inductionHypothesis others (first preview holds)

/-- Steps of runs keep a property. -/
structure StepsKeep (kept : Preview → Prop) : Prop where
  step : ∀ {preview : Preview} (number : Nat), kept preview → kept (preview.step number).1

/-- Steps of runs and moves of time keep a property. -/
structure Keeps (kept : Preview → Prop) : Prop extends StepsKeep kept where
  moveTo : ∀ {preview : Preview} (instant : Nat), kept preview → kept (preview.moveTo instant)

namespace StepsKeep

variable {kept : Preview → Prop} {preview : Preview}

theorem turn (keeps : StepsKeep kept) (number steps : Nat) (holds : kept preview) :
    kept (turn number steps preview) := by
  induction steps generalizing preview with
  | zero => exact holds
  | succ steps inductionHypothesis =>
      have stepped := keeps.step number holds
      rw [Preview.turn]
      split
      · next after found =>
          rw [found] at stepped
          exact inductionHypothesis stepped
      · next after found =>
          rw [found] at stepped
          exact stepped

theorem turns (keeps : StepsKeep kept) (steps : Nat) (numbers : List Nat) (holds : kept preview) :
    kept (numbers.foldl (fun preview number => preview.turn number steps) preview) := by
  induction numbers generalizing preview with
  | nil => exact holds
  | cons number numbers inductionHypothesis =>
      exact inductionHypothesis (keeps.turn number steps holds)

theorem round (keeps : StepsKeep kept) (steps : Nat) (holds : kept preview) :
    kept (preview.round steps) :=
  keeps.turns steps preview.readyRuns holds

end StepsKeep

namespace Keeps

variable {kept : Preview → Prop} {preview : Preview}

theorem passUntil (keeps : Keeps kept) (instant rounds : Nat) (holds : kept preview) :
    kept (passUntil instant rounds preview) := by
  induction rounds generalizing preview with
  | zero => exact keeps.moveTo instant holds
  | succ rounds inductionHypothesis =>
      rw [Preview.passUntil]
      split
      · split
        · split
          · exact inductionHypothesis (keeps.moveTo _ holds)
          · exact keeps.moveTo instant holds
        · exact keeps.moveTo instant holds
      · exact inductionHypothesis (keeps.round patience holds)

theorem sleep (keeps : Keeps kept) (milliseconds : Nat) (holds : kept preview) :
    kept (preview.sleep milliseconds) := by
  rw [Preview.sleep]
  split
  · exact holds
  · exact keeps.passUntil _ patience holds

theorem passToEnd (keeps : Keeps kept) (number rounds : Nat) (holds : kept preview) :
    kept (passToEnd number rounds preview) := by
  induction rounds generalizing preview with
  | zero => exact holds
  | succ rounds inductionHypothesis =>
      rw [Preview.passToEnd]
      split
      · exact holds
      · split
        · split
          · exact inductionHypothesis (keeps.moveTo _ holds)
          · exact holds
        · exact inductionHypothesis (keeps.round patience holds)

theorem finish (keeps : Keeps kept) (number : Nat) (holds : kept preview) :
    kept (preview.finish number) :=
  keeps.passToEnd number patience holds

end Keeps

/-- Runs take steps or time moves on. -/
def IsInternal (act : Act) : Prop :=
  (∃ number, act = .step number) ∨ ∃ instant, act = .moveTo instant

private theorem keeps_follow (origin : Preview) :
    Keeps fun preview => ∃ acts, (∀ act ∈ acts, IsInternal act) ∧ preview = origin.follow acts := by
  have extend (acts : List Act) (last : Act) (inner : ∀ act ∈ acts, IsInternal act)
      (internal : IsInternal last) : ∃ longer, (∀ act ∈ longer, IsInternal act) ∧
        (origin.follow acts).act last = origin.follow longer := by
    refine ⟨acts ++ [last], ?_, (follow_snoc origin acts last).symm⟩
    exact List.forall_mem_append.mpr ⟨inner, List.forall_mem_singleton.mpr internal⟩
  refine ⟨⟨?_⟩, ?_⟩
  · rintro preview number ⟨acts, inner, rfl⟩
    exact extend acts (.step number) inner (Or.inl ⟨number, rfl⟩)
  · rintro preview instant ⟨acts, inner, rfl⟩
    exact extend acts (.moveTo instant) inner (Or.inr ⟨instant, rfl⟩)

theorem sleep_eq_follow (preview : Preview) (milliseconds : Nat) :
    ∃ acts, (∀ act ∈ acts, IsInternal act) ∧ preview.sleep milliseconds = preview.follow acts :=
  (keeps_follow preview).sleep milliseconds ⟨[], List.forall_mem_nil _, rfl⟩

theorem finish_eq_follow (preview : Preview) (number : Nat) :
    ∃ acts, (∀ act ∈ acts, IsInternal act) ∧ preview.finish number = preview.follow acts :=
  (keeps_follow preview).finish number ⟨[], List.forall_mem_nil _, rfl⟩

end Preview

end Marquee
