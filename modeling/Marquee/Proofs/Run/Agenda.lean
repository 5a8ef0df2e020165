import Marquee.Proofs.Run.Tasks

/-!
# What is left to be done

Stacks of tasks that are cut at different places can come to the same. The agenda of a machine lists
what is left for it one by one: the statements of its chains, and the body of a repeat as often as
it has yet to be executed. Machines with the same agenda, variables and dice ask for the same; what
else they do is to cut their tasks, and never without end.
-/

namespace Marquee

namespace Chain

/-- A chain written out so many times. -/
def copies (body : Chain) : Nat → Chain
  | 0 => .nil
  | count + 1 => body ++ body.copies count

theorem nil_append (rest : Chain) : .nil ++ rest = rest := rfl

theorem link_append (id : Option String) (statement : Statement) (next rest : Chain) :
    .link id statement next ++ rest = .link id statement (next ++ rest) := rfl

private theorem length_append (first second : Chain) :
    (first ++ second).length = first.length + second.length := by
  induction first using Chain.length.induct with
  | case1 => exact (Nat.zero_add _).symm
  | case2 id statement next inductionHypothesis =>
      rw [link_append, length, length, inductionHypothesis]
      omega

/-- Only nothing can be put before a chain without changing it. -/
theorem eq_nil_of_append_eq {first second : Chain} (same : first ++ second = second) :
    first = .nil := by
  have lengths := length_append first second
  rw [same] at lengths
  cases first with
  | nil => rfl
  | link id statement next =>
      rw [length] at lengths
      omega

end Chain

/-- What a statement is on an agenda: a loop that evaluates nothing when it is entered is the task
of looping, and an id is of no account. -/
def Statement.task : Statement → Task
  | .forever body => .forever body
  | .whileLoop condition body => .whileHolds condition body
  | statement => .chain (.link none statement .nil)

def Chain.agenda : Chain → List Task
  | .nil => []
  | .link _ statement next => statement.task :: next.agenda

theorem Chain.agenda_append (first second : Chain) :
    (first ++ second).agenda = first.agenda ++ second.agenda := by
  induction first using Chain.length.induct with
  | case1 => rfl
  | case2 id statement next inductionHypothesis =>
      rw [link_append, agenda, agenda, inductionHypothesis]
      rfl

/-- What is left to be done of a task, one by one. -/
def Task.agenda : Task → List Task
  | .chain statements => statements.agenda
  | .yield => []
  | .times left body => (body.copies left).agenda
  | task => [task]

namespace Machine

def agenda (machine : Machine) : List Task :=
  machine.tasks.flatMap Task.agenda

/-- Machines that have the same left to be done, and the same variables and dice. -/
structure Agrees (first second : Machine) : Prop where
  agenda : second.agenda = first.agenda
  store : second.store = first.store
  dice : second.dice = first.dice

theorem Agrees.symm {first second : Machine} (agrees : first.Agrees second) :
    second.Agrees first :=
  ⟨agrees.agenda.symm, agrees.store.symm, agrees.dice.symm⟩

/-- The machine with more tasks below its own, and with more statements begun. -/
def onto (below : List Task) (count : Nat) (machine : Machine) : Machine :=
  { machine with tasks := machine.tasks ++ below, executed := machine.executed + count }

/-- The machine without its tasks. -/
def bare (machine : Machine) : Machine :=
  ⟨[], machine.store, machine.dice, 0⟩

section

variable (below : List Task) (count : Nat) (scene : Scene) (machine : Machine)

private theorem push_onto (tasks : List Task) :
    (machine.onto below count).push tasks = (machine.push tasks).onto below count := by
  rw [push, push, onto, onto, List.append_assoc]

private theorem agenda_onto :
    (machine.onto below count).agenda = machine.agenda ++ below.flatMap Task.agenda :=
  List.flatMap_append

/-- A statement is executed without a look at the tasks that wait. -/
theorem execute_onto (statement : Statement) :
    (machine.onto below count).execute scene statement =
      (machine.execute scene statement).map id (onto below count) := by
  cases statement with
  | playAnimation folder playFor =>
      rw [execute, execute]
      split <;> rfl
  | gpio pin level =>
      rw [execute, execute]
      split <;> rfl
  | setColor color => exact machine.setColor_mapWork (· ++ below) (· + count) scene color
  | wait time => rfl
  | branch condition whenTrue whenFalse => rfl
  | forever body => rfl
  | repeatLoop times body => rfl
  | whileLoop condition body => rfl
  | gpioBranch pin level whenTrue whenFalse => rfl
  | displayImage filename => rfl
  | setVariable name value => rfl
  | breakLoop => rfl
  | start actions => rfl
  | gpioTrigger pin trigger actions => rfl
  | value expression => rfl

/-- A task is performed without a look at those below it. -/
theorem perform_onto (task : Task) :
    (machine.onto below count).perform scene task =
      (machine.perform scene task).map id (onto below count) := by
  cases task with
  | chain statements =>
      cases statements with
      | nil => rfl
      | link name statement next =>
          rw [perform, perform]
          split
          · rfl
          · rw [← execute_onto, push_onto]
            have counted : machine.executed + count + 1 = machine.executed + 1 + count := by
              omega
            rw [onto, onto]
            dsimp only
            rw [counted]
            rfl
  | yield => rfl
  | rest milliseconds =>
      rw [perform, perform]
      split <;> rfl
  | times left body =>
      cases left with
      | zero => rfl
      | succ left =>
          rw [perform, perform]
          split <;> rfl
  | forever body =>
      rw [perform, perform]
      split <;> rfl
  | whileHolds condition body =>
      rw [perform, perform]
      split
      · rfl
      · have evaluated : (machine.onto below count).evaluate condition =
            (machine.evaluate condition).map id (onto below count) := rfl
        rw [evaluated]
        obtain ⟨value, after⟩ := machine.evaluate condition
        dsimp only [Prod.map_apply, id]
        split
        · rw [push_onto]
          rfl
        · rfl
  | animation animation =>
      rw [perform, perform]
      split
      · rfl
      · dsimp only
        rw [push_onto]
        rfl

end

end Machine

namespace Task

/-- A task whose turn only cuts it, if it is not stopped. -/
inductive Cuts : Task → Prop where
  | nil : Cuts (.chain .nil)
  | forever (id : Option String) (body next : Chain) : Cuts (.chain (.link id (.forever body) next))
  | whileLoop (id : Option String) (condition : Input) (body next : Chain) :
      Cuts (.chain (.link id (.whileLoop condition body) next))
  | yield : Cuts .yield
  | times (left : Nat) (body : Chain) : Cuts (.times left body)

/-- A task at whose turn something is done: what that is, and what it leaves for later. -/
inductive Leads : Task → Task → List Task → Prop where
  | statement {id : Option String} {statement : Statement} {next : Chain}
      (own : statement.task = .chain (.link none statement .nil)) :
      Leads (.chain (.link id statement next)) statement.task next.agenda
  | whole {task : Task} (own : task.agenda = [task]) : Leads task task []

theorem cuts_or_leads (task : Task) : task.Cuts ∨ ∃ item later, task.Leads item later := by
  cases task with
  | chain statements =>
      cases statements with
      | nil => exact .inl .nil
      | link id statement next =>
          cases statement with
          | forever body => exact .inl (.forever id body next)
          | whileLoop condition body => exact .inl (.whileLoop id condition body next)
          | _ => exact .inr ⟨_, _, .statement rfl⟩
  | yield => exact .inl .yield
  | times left body => exact .inl (.times left body)
  | rest milliseconds => exact .inr ⟨_, _, .whole rfl⟩
  | forever body => exact .inr ⟨_, _, .whole rfl⟩
  | whileHolds condition body => exact .inr ⟨_, _, .whole rfl⟩
  | animation animation => exact .inr ⟨_, _, .whole rfl⟩

theorem Leads.agenda {task item : Task} {later : List Task} (leads : task.Leads item later) :
    task.agenda = item :: later := by
  cases leads with
  | statement own => rfl
  | whole own => exact own

/-- How often a task can be cut. -/
def weight : Task → Nat
  | .chain statements => 2 * statements.length + 1
  | .times left body => left * (2 * body.length + 3) + 1
  | _ => 1

end Task

namespace Machine

/-- How often the tasks of a machine can be cut before something is done. -/
def weight (machine : Machine) : Nat :=
  machine.tasks.foldr (fun task below => task.weight + below) 0

variable {scene : Scene} {machine first second : Machine} {task : Task} {rest : List Task}

theorem step_cons (scene : Scene) (task : Task) (rest : List Task) (store : Variables)
    (dice : Dice) (executed : Nat) :
    (Machine.mk (task :: rest) store dice executed).step scene =
      some ((Machine.mk rest store dice executed).perform scene task) := rfl

/-- A step that cuts a task asks for nothing, or for a turn of others, and leaves all that is left
to be done as it is. -/
theorem step_of_cuts (unstopped : scene.stopped = false) (tasks : machine.tasks = task :: rest)
    (cuts : task.Cuts) :
    ∃ request after, machine.step scene = some (request, after) ∧
      (request = .nothing ∨ request = .yield) ∧ machine.Agrees after ∧
      after.weight < machine.weight := by
  have running : ¬ scene.stopped := ne_true_of_eq_false unstopped
  obtain ⟨_, store, dice, executed⟩ := machine
  cases tasks
  cases cuts with
  | nil =>
      refine ⟨.nothing, _, rfl, .inl rfl, ⟨rfl, rfl, rfl⟩, ?_⟩
      simp [weight, Task.weight, Chain.length]
  | forever id body next =>
      rw [step_cons, perform, if_neg running]
      refine ⟨.nothing, _, rfl, .inl rfl, ⟨rfl, rfl, rfl⟩, ?_⟩
      simp [push, weight, Task.weight, Chain.length]
      omega
  | whileLoop id condition body next =>
      rw [step_cons, perform, if_neg running]
      refine ⟨.nothing, _, rfl, .inl rfl, ⟨rfl, rfl, rfl⟩, ?_⟩
      simp [push, weight, Task.weight, Chain.length]
      omega
  | yield =>
      refine ⟨.yield, _, rfl, .inr rfl, ⟨rfl, rfl, rfl⟩, ?_⟩
      simp [weight, Task.weight]
  | times left body =>
      cases left with
      | zero =>
          refine ⟨.nothing, _, rfl, .inl rfl, ⟨rfl, rfl, rfl⟩, ?_⟩
          simp [weight, Task.weight]
      | succ left =>
          rw [step_cons, perform, if_neg running]
          refine ⟨.nothing, _, rfl, .inl rfl, ⟨?_, rfl, rfl⟩, ?_⟩
          · simp [push, agenda, Task.agenda, Chain.copies, Chain.agenda_append]
          · simp only [push, weight, Task.weight, List.cons_append, List.nil_append,
              List.foldr_cons, Nat.succ_mul]
            omega

/-- What is done at a step is up to the first item of the agenda; all others are left as they
are. -/
theorem step_of_leads (unstopped : scene.stopped = false) (tasks : machine.tasks = task :: rest)
    {item : Task} {later : List Task} (leads : task.Leads item later) :
    ∃ after, machine.step scene = some ((machine.bare.perform scene item).1, after) ∧
      after.agenda =
        (machine.bare.perform scene item).2.agenda ++ (later ++ rest.flatMap Task.agenda) ∧
      after.store = (machine.bare.perform scene item).2.store ∧
      after.dice = (machine.bare.perform scene item).2.dice := by
  have running : ¬ scene.stopped := ne_true_of_eq_false unstopped
  obtain ⟨_, store, dice, executed⟩ := machine
  cases tasks
  cases leads with
  | @statement name statement next own =>
      -- Both steps execute the same statement, on other tasks that wait.
      have stepped : (Machine.mk (.chain (.link name statement next) :: rest) store dice
          executed).step scene = some (((Machine.mk [] store dice 0).execute scene statement).map id
            (onto (.chain next :: rest) (executed + 1))) := by
        rw [← execute_onto, step_cons, perform, if_neg running, onto, Nat.zero_add]
        rfl
      have bared : (Machine.mk [] store dice 0).perform scene (.chain (.link none statement .nil)) =
          ((Machine.mk [] store dice 0).execute scene statement).map id (onto [.chain .nil] 1) := by
        rw [← execute_onto, perform, if_neg running]
        rfl
      rw [own, stepped, bare, bared]
      obtain ⟨request, after⟩ := (Machine.mk [] store dice 0).execute scene statement
      refine ⟨_, rfl, ?_, rfl, rfl⟩
      rw [Prod.map_snd, agenda_onto, agenda_onto, List.append_assoc]
      rfl
  | whole own =>
      have stepped : (Machine.mk (task :: rest) store dice executed).step scene =
          some (((Machine.mk [] store dice 0).perform scene task).map id (onto rest executed)) := by
        rw [← perform_onto, step_cons, onto, Nat.zero_add]
        rfl
      rw [stepped]
      exact ⟨_, rfl, agenda_onto _ _ _, rfl, rfl⟩

end Machine

end Marquee
