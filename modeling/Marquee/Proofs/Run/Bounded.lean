import Marquee.Proofs.Run.Schedule

/-!
# Programs without open loops

A program in which no forever and no while is executed comes to an end. How often a repeat goes
around is known only when it is entered, and an animation is bounded by nothing but the clock that
it moves on by itself, so there is no number of steps to be told beforehand: what is left to be done
comes to an end if it does so after each step that can be taken.
-/

namespace Marquee

mutual

/-- No forever and no while is executed in the chain. What a trigger or a start inside a program
carries is never executed. -/
def Chain.IsBounded : Chain → Prop
  | .nil => True
  | .link _ statement next => statement.IsBounded ∧ next.IsBounded

def Statement.IsBounded : Statement → Prop
  | .forever _ => False
  | .whileLoop _ _ => False
  | .repeatLoop _ body => body.IsBounded
  | .branch _ whenTrue whenFalse => whenTrue.IsBounded ∧ whenFalse.IsBounded
  | .gpioBranch _ _ whenTrue whenFalse => whenTrue.IsBounded ∧ whenFalse.IsBounded
  | _ => True

end

/-- A machine with these tasks comes to an end if its next step is taken at this instant or later,
whatever it evaluates and sees. Until then it is not stopped, and all that it begins ends. -/
inductive Expires : List Task → Nat → Prop where
  | intro {tasks : List Task} {due : Nat}
      (onward : ∀ (machine : Machine) (scene : Scene) (request : Request) (next : Machine),
        machine.tasks = tasks → scene.stopped = false → due ≤ scene.now →
          (∀ execution ∈ machine.begins? scene, execution.Ends) →
            machine.step scene = some (request, next) →
              Expires next.tasks (scene.now + request.pause)) :
      Expires tasks due

/-- Whatever waits below the task, everything comes to an end if that does. -/
def Task.Passes (task : Task) : Prop :=
  ∀ (rest : List Task) (due : Nat), (∀ later, due ≤ later → Expires rest later) →
    Expires (task :: rest) due

section

variable {tasks rest : List Task} {task : Task} {due : Nat}

private theorem expires_nil : Expires [] due := by
  refine .intro fun machine scene request next done _ _ _ takes => ?_
  rw [Machine.step, done] at takes
  cases takes

/-- To follow a step is to follow what is done with the first task. -/
theorem expires_cons
    (onward : ∀ (machine : Machine) (scene : Scene), machine.tasks = rest →
      scene.stopped = false → due ≤ scene.now →
        (∀ execution ∈ { machine with tasks := task :: rest }.begins? scene, execution.Ends) →
          Expires (machine.perform scene task).2.tasks
            (scene.now + (machine.perform scene task).1.pause)) :
    Expires (task :: rest) due := by
  refine .intro fun machine scene request next same unstopped reached ends takes => ?_
  rw [Machine.step, same] at takes
  have performed := onward { machine with tasks := rest } scene rfl unstopped reached
    (by rwa [← same])
  rw [Option.some.inj takes] at performed
  exact performed

/-- A task that leaves nothing to do and the machine as it is passes. -/
theorem Task.passes_of_idle
    (idle : ∀ (machine : Machine) (scene : Scene), (machine.perform scene task).2 = machine) :
    task.Passes := by
  intro rest due below
  apply expires_cons
  intro machine scene same unstopped reached _
  rw [idle, same]
  exact below _ (Nat.le_trans reached (Nat.le_add_right _ _))

private theorem Task.passes_yield : Task.Passes .yield :=
  Task.passes_of_idle fun _ _ => rfl

private theorem Task.passes_nil : Task.Passes (.chain .nil) :=
  Task.passes_of_idle fun _ _ => rfl

private theorem expires_rest {milliseconds : Nat}
    (below : ∀ later, due + milliseconds ≤ later → Expires rest later) :
    Expires (.rest milliseconds :: rest) due := by
  apply expires_cons
  intro machine scene same unstopped reached _
  rw [Machine.perform]
  split
  · next rested =>
      rw [same]
      have none : milliseconds = 0 := rested.resolve_left (Bool.eq_false_iff.mp unstopped)
      exact below _ (by rw [none]; exact Nat.le_trans reached (Nat.le_add_right _ _))
  · rw [same]
    exact below _ (Nat.add_le_add_right reached _)

private theorem Task.passes_rest (milliseconds : Nat) : Task.Passes (.rest milliseconds) := by
  intro rest due below
  apply expires_rest
  intro later passed
  exact below later (Nat.le_trans (Nat.le_add_right _ _) passed)

/-- However often a body is executed, that comes to an end if the body does. -/
theorem Task.passes_times {body : Chain} (passes : Task.Passes (.chain body)) (count : Nat) :
    Task.Passes (.times count body) := by
  induction count with
  | zero => exact Task.passes_of_idle fun _ _ => rfl
  | succ count inductionHypothesis =>
      intro rest due below
      apply expires_cons
      intro machine scene same unstopped reached _
      rw [Machine.perform, if_neg (Bool.eq_false_iff.mp unstopped)]
      subst same
      refine passes _ _ fun first begun => Task.passes_yield _ _ fun second again =>
        inductionHypothesis _ _ fun last passed => below last ?_
      rw [Request.pause_nothing] at begun
      omega

/-- An animation moves time on with each frame, and so ends. -/
theorem Task.passes_animation {animation : Animation}
    (paced : 0 < animation.playFor → 0 < animation.frameMillis) :
    Task.Passes (.animation animation) := by
  intro rest due below
  generalize measure : animation.startedAt + animation.playFor - due = left
  induction left using Nat.strong_induction_on generalizing animation due with
  | _ left inductionHypothesis =>
      apply expires_cons
      intro machine scene same unstopped reached _
      rw [Machine.perform]
      split
      · rw [same]
        exact below _ (Nat.le_trans reached (Nat.le_add_right _ _))
      · next goesOn =>
          rw [not_or] at goesOn
          obtain ⟨_, short⟩ := goesOn
          have rests : 0 < animation.frameMillis := paced (by omega)
          have shares : animation.frameNanos ≠ 0 :=
            Nat.ne_of_gt (Animation.frameMillis_pos_iff.mp rests)
          rw [if_neg shares]
          subst same
          refine expires_rest fun later passed => ?_
          have nearer : animation.startedAt + animation.playFor - later < left := by
            rw [Request.pause_call] at passed
            omega
          have pacedThen : 0 < animation.advance.playFor → 0 < animation.advance.frameMillis := by
            rw [Animation.frameMillis_advance]
            exact paced
          refine inductionHypothesis _ nearer pacedThen later (fun last onward => below last ?_) rfl
          rw [Request.pause_call] at passed
          omega

end

mutual

theorem Chain.passes {statements : Chain} (bounded : statements.IsBounded) :
    Task.Passes (.chain statements) := by
  match statements with
  | .nil => exact Task.passes_nil
  | .link id statement next =>
      intro rest due below
      apply expires_cons
      intro machine scene same unstopped reached ends
      have running : ¬ scene.stopped := Bool.eq_false_iff.mp unstopped
      have own : Execution.Ends ⟨scene,
          { machine with tasks := .chain (.link id statement next) :: rest }, statement⟩ := by
        apply ends
        simp [Machine.begins?, unstopped]
      rw [Machine.perform, if_neg running]
      apply statement.expires_execute bounded.1 own
      intro later passed
      subst same
      refine next.passes bounded.2 _ _ fun last onward => below last ?_
      exact Nat.le_trans (Nat.le_trans reached passed) onward

/-- What is left after a statement was executed comes to an end, if what was left before does. -/
theorem Statement.expires_execute {statement : Statement} (bounded : statement.IsBounded)
    {machine begun : Machine} {scene : Scene} (ends : Execution.Ends ⟨scene, begun, statement⟩)
    (below : ∀ later, scene.now ≤ later → Expires machine.tasks later) :
    Expires (machine.execute scene statement).2.tasks
      (scene.now + (machine.execute scene statement).1.pause) := by
  have here : Expires machine.tasks scene.now := below _ (Nat.le_refl _)
  match statement with
  | .displayImage filename => exact here
  | .playAnimation folder playFor =>
      rw [Machine.execute]
      split
      · exact here
      · next someFrames =>
          apply Task.passes_animation _ _ _ below
          exact fun some => ends (Nat.pos_of_ne_zero someFrames) some
  | .wait time => exact Task.passes_rest _ _ _ below
  | .setColor color =>
      obtain ⟨pause, tasks, _⟩ := machine.setColor_keeps scene color
      rw [Machine.execute, pause, tasks]
      exact here
  | .setVariable name value => exact here
  | .gpio pin level =>
      rw [Machine.execute]
      split <;> exact here
  | .branch condition whenTrue whenFalse =>
      rw [Machine.execute]
      apply (_ : Task.Passes _) _ _ below
      split
      · exact whenTrue.passes bounded.1
      · exact whenFalse.passes bounded.2
  | .gpioBranch pin level whenTrue whenFalse =>
      rw [Machine.execute]
      apply (_ : Task.Passes _) _ _ below
      split
      · exact whenTrue.passes bounded.1
      · exact whenFalse.passes bounded.2
  | .repeatLoop times body =>
      exact Task.passes_times (body.passes bounded) _ _ _ below
  | .forever body => exact bounded.elim
  | .whileLoop condition body => exact bounded.elim
  | .breakLoop => exact here
  | .gpioTrigger pin trigger actions => exact here
  | .start actions => exact here
  | .value expression => exact here

end

/-- A machine that starts with bounded statements comes to an end, whenever it begins. -/
theorem expires_start {statements : Chain} (bounded : statements.IsBounded) (due : Nat) :
    Expires [.chain statements] due :=
  Chain.passes bounded [] due fun _ _ => expires_nil

/-- An animation ends if each of its frames lasts for a nanosecond at least. -/
theorem Execution.ends_of_share {execution : Execution}
    (share : ∀ folder playFor, execution.statement = .playAnimation folder playFor →
      playFor = 0 ∨ execution.scene.frames folder = 0 ∨
        min (execution.scene.frames folder) (wordLimit - 1) ≤ playFor.toNat * 1000000) :
    execution.Ends := by
  rw [Ends]
  split
  · next folder playFor plays =>
      intro frames someFrames some
      have shared := share folder playFor plays
      rw [Animation.frameMillis_pos_iff, Animation.frameNanos]
      refine Nat.div_pos ?_ (Nat.lt_min.mpr ⟨someFrames, by decide⟩)
      rcases shared with rfl | none | enough
      · cases some
      · exact absurd none (Nat.ne_of_gt someFrames)
      · exact enough
  · trivial

end Marquee
