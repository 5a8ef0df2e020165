import Mathlib.Algebra.Order.Floor.Div
import Mathlib.Order.Bounds.Basic
import Marquee.Run.Machine

/-!
# The frames of an animation

An animation counts nothing: it goes on until the clock says that it has played for long enough. How
many frames it shows is a matter of two roundings. The share of a frame is rounded down to
nanoseconds, and the rest after a frame is rounded up to milliseconds.
-/

namespace Marquee

namespace Animation

variable {animation : Animation}

/-- How many frames are shown, if time passes in rests only. -/
def count (animation : Animation) : Nat :=
  animation.playFor ⌈/⌉ animation.frameMillis

/-- For how long the frames are shown, if time passes in rests only. -/
def span (animation : Animation) : Nat :=
  animation.frameMillis * animation.count

theorem frameMillis_pos_iff : 0 < animation.frameMillis ↔ 0 < animation.frameNanos := by
  simp only [frameMillis, nanosPerMilli]
  omega

theorem frameMillis_eq (within : animation.frames < wordLimit) :
    animation.frameMillis =
      (animation.playFor * 1000000 / animation.frames) ⌈/⌉ 1000000 := by
  rw [frameMillis, frameNanos, Nat.min_eq_left (Nat.le_sub_one_of_lt within),
    Nat.ceilDiv_eq_add_pred_div, nanosPerMilli, Nat.add_sub_assoc (by decide)]

theorem frameMillis_advance : animation.advance.frameMillis = animation.frameMillis := by
  simp only [frameMillis, frameNanos, advance]

private theorem count_le_iff (paced : 0 < animation.frameMillis) {shown : Nat} :
    animation.count ≤ shown ↔ animation.playFor ≤ animation.frameMillis * shown :=
  ceilDiv_le_iff_le_mul paced

theorem playFor_le_span (paced : 0 < animation.frameMillis) :
    animation.playFor ≤ animation.span :=
  (count_le_iff paced).mp (Nat.le_refl _)

theorem span_lt (paced : 0 < animation.frameMillis) :
    animation.span < animation.playFor + animation.frameMillis := by
  have rounded : animation.frameMillis * animation.count ≤
      animation.playFor + animation.frameMillis - 1 := Nat.mul_div_le _ _
  have same : animation.span = animation.frameMillis * animation.count := rfl
  omega

/-- The span is the least time that is not below what is asked for and has room for whole rests. -/
theorem isLeast_span (paced : 0 < animation.frameMillis) :
    IsLeast {span | animation.frameMillis ∣ span ∧ animation.playFor ≤ span} animation.span := by
  refine ⟨⟨Nat.dvd_mul_right _ _, playFor_le_span paced⟩, ?_⟩
  rintro span ⟨⟨shown, rfl⟩, long⟩
  exact Nat.mul_le_mul_left _ ((count_le_iff paced).mpr long)

theorem span_eq_zero (none : animation.playFor = 0) : animation.span = 0 := by
  rw [span, count, none, zero_ceilDiv, Nat.mul_zero]

/-- No frame is shown twice unless there are more of them than nanoseconds in a millisecond. -/
theorem count_le_frames (paced : 0 < animation.frameMillis) (some : 0 < animation.frames)
    (few : animation.frames ≤ nanosPerMilli) : animation.count ≤ animation.frames := by
  have share : animation.frameNanos =
      animation.playFor * nanosPerMilli / animation.frames := by
    have within : animation.frames ≤ wordLimit - 1 := Nat.le_trans few (by decide)
    rw [frameNanos, Nat.min_eq_left within]
  have shareUp : animation.playFor * nanosPerMilli <
      animation.frames * (animation.frameNanos + 1) := by
    rw [share]
    exact Nat.lt_mul_div_succ _ some
  have restUp : animation.frameNanos ≤ animation.frameMillis * nanosPerMilli := by
    simp only [frameMillis, nanosPerMilli]
    omega
  rw [count_le_iff paced]
  -- A frame too much would last a millisecond, and all rounding together is less than that.
  by_contra short
  have missing : (animation.frameMillis * animation.frames + 1) * nanosPerMilli ≤
      animation.playFor * nanosPerMilli := Nat.mul_le_mul_right _ (Nat.not_le.mp short)
  have shares : animation.frames * animation.frameNanos ≤
      animation.frames * (animation.frameMillis * nanosPerMilli) := Nat.mul_le_mul_left _ restUp
  have same : animation.frameMillis * animation.frames * nanosPerMilli =
      animation.frames * (animation.frameMillis * nanosPerMilli) := by
    rw [Nat.mul_comm animation.frameMillis, Nat.mul_assoc]
  rw [Nat.add_mul, same, Nat.one_mul] at missing
  rw [Nat.mul_add, Nat.mul_one] at shareUp
  omega

section

variable {below : List Task} {scene : Scene} {machine : Machine}

theorem step_over (tasks : machine.tasks = .animation animation :: below)
    (long : animation.playFor ≤ scene.now - animation.startedAt) :
    machine.step scene = some (.nothing, { machine with tasks := below }) := by
  simp [Machine.step, tasks, Machine.perform, long]

private theorem step_frame (tasks : machine.tasks = .animation animation :: below)
    (short : ¬ animation.playFor ≤ scene.now - animation.startedAt)
    (paced : 0 < animation.frameMillis) (going : scene.stopped = false) :
    machine.step scene = some (.call animation.frame, { machine with
      tasks := .rest animation.frameMillis :: .animation animation.advance :: below }) := by
  have shares : animation.frameNanos ≠ 0 := Nat.pos_iff_ne_zero.mp (frameMillis_pos_iff.mp paced)
  simp [Machine.step, tasks, Machine.perform, short, going, shares, Machine.push]

theorem step_rest {milliseconds : Nat} (tasks : machine.tasks = .rest milliseconds :: below)
    (some : 0 < milliseconds) (going : scene.stopped = false) :
    machine.step scene = .some (.rest milliseconds, { machine with tasks := below }) := by
  simp [Machine.step, tasks, Machine.perform, going, Nat.pos_iff_ne_zero.mp some]

end

/-- The animation once it has shown this many frames. -/
def after (animation : Animation) (shown : Nat) : Animation :=
  { animation with shown }

private theorem frameMillis_after (shown : Nat) :
    (animation.after shown).frameMillis = animation.frameMillis := by
  simp only [frameMillis, frameNanos, after]

/-- An animation goes on above other tasks. It has shown this many frames, and takes its next step
at an instant: either it is time for a frame then, or for the rest before it. -/
inductive Playing (animation : Animation) (below : List Task) :
    List Task → Nat → Nat → Prop where
  | showing (shown : Nat) : Playing animation below
      (.animation (animation.after shown) :: below)
      (animation.startedAt + animation.frameMillis * shown) shown
  | resting {due shown : Nat}
      (next : due + animation.frameMillis = animation.startedAt + animation.frameMillis * shown) :
      Playing animation below
        (.rest animation.frameMillis :: .animation (animation.after shown) :: below) due shown

theorem playing_begun {below : List Task} (fresh : animation.shown = 0) :
    Playing animation below (.animation animation :: below) animation.startedAt 0 := by
  have begun : Playing animation below (.animation (animation.after 0) :: below)
      (animation.startedAt + animation.frameMillis * 0) 0 := .showing 0
  have same : animation.after 0 = animation := by rw [after, ← fresh]
  rwa [same, Nat.mul_zero, Nat.add_zero] at begun

theorem Playing.due_le {below tasks : List Task} {due shown : Nat}
    (playing : Playing animation below tasks due shown) :
    due ≤ animation.startedAt + animation.frameMillis * shown := by
  cases playing with
  | showing => exact Nat.le_refl _
  | resting next => exact Nat.le_of_add_right_le (Nat.le_of_eq next)

/-- What an animation that goes on does in a step: it is over, it shows a frame, or it rests. -/
inductive Playing.Steps (animation : Animation) (below : List Task) (shown now : Nat) :
    Request → List Task → Prop where
  | done (all : shown = animation.count) (due : now = animation.startedAt + animation.span) :
      Steps animation below shown now .nothing below
  | frame {tasks : List Task} (more : shown < animation.count)
      (due : now = animation.startedAt + animation.frameMillis * shown)
      (playing : Playing animation below tasks now (shown + 1)) :
      Steps animation below shown now (.call (.frame animation.folder (shown % animation.frames)))
        tasks
  | rest {tasks : List Task}
      (playing : Playing animation below tasks (now + animation.frameMillis) shown) :
      Steps animation below shown now (.rest animation.frameMillis) tasks

theorem Playing.step {below : List Task} {shown : Nat} {scene : Scene} {machine : Machine}
    (playing : Playing animation below machine.tasks scene.now shown)
    (paced : 0 < animation.frameMillis) (bound : shown ≤ animation.count)
    (going : scene.stopped = false) :
    ∃ request tasks, machine.step scene = some (request, { machine with tasks }) ∧
      Steps animation below shown scene.now request tasks := by
  generalize stack : machine.tasks = tasks, instant : scene.now = now at playing
  cases playing with
  | showing =>
      have played : scene.now - (animation.after shown).startedAt =
          animation.frameMillis * shown := by
        rw [instant]
        exact Nat.add_sub_cancel_left _ _
      by_cases long : animation.count ≤ shown
      · have all : shown = animation.count := Nat.le_antisymm bound long
        refine ⟨.nothing, below, ?_, .done all (by rw [all, span])⟩
        apply step_over stack
        rw [played]
        exact (count_le_iff paced).mp long
      · have short : ¬ (animation.after shown).playFor ≤
            scene.now - (animation.after shown).startedAt := by
          rw [played]
          exact fun enough => long ((count_le_iff paced).mpr enough)
        have pacedAfter : 0 < (animation.after shown).frameMillis := by
          rw [frameMillis_after]
          exact paced
        have stepped := step_frame stack short pacedAfter going
        rw [frameMillis_after] at stepped
        refine ⟨_, _, stepped, .frame (Nat.not_le.mp long) rfl (.resting ?_)⟩
        rw [Nat.add_assoc, ← Nat.mul_succ]
        rfl
  | resting next =>
      refine ⟨_, _, step_rest stack paced going, .rest ?_⟩
      rw [next]
      exact .showing shown

end Animation

end Marquee
