import Marquee.Proofs.Run.Agenda
import Marquee.Proofs.Run.Schedule
import Marquee.Proofs.Run.Tasks

/-!
# Statements that a run passes over

A break, a trigger, a start inside a program and a value in a chain do nothing when they are
executed. They can be taken out of a program: the chain closes up around them, and loops and
branches may be left without statements. A machine takes one step for each such statement, with
which it counts it, and all other steps are those of a machine that has none.
-/

namespace Marquee

/-- A statement that does nothing when it is executed, whatever it carries. -/
def Statement.isInert : Statement → Bool
  | .breakLoop => true
  | .gpioTrigger _ _ _ => true
  | .start _ => true
  | .value _ => true
  | _ => false

mutual

/-- The chain without the inert statements in it, at any depth. -/
def Chain.withoutInert : Chain → Chain
  | .nil => .nil
  | .link id statement next =>
    if statement.isInert then next.withoutInert
    else .link id statement.withoutInert next.withoutInert

def Statement.withoutInert : Statement → Statement
  | .branch condition whenTrue whenFalse =>
    .branch condition whenTrue.withoutInert whenFalse.withoutInert
  | .forever body => .forever body.withoutInert
  | .repeatLoop times body => .repeatLoop times body.withoutInert
  | .whileLoop condition body => .whileLoop condition body.withoutInert
  | .gpioBranch pin level whenTrue whenFalse =>
    .gpioBranch pin level whenTrue.withoutInert whenFalse.withoutInert
  | .start actions => .start actions.withoutInert
  | .gpioTrigger pin trigger actions => .gpioTrigger pin trigger actions.withoutInert
  | .displayImage filename => .displayImage filename
  | .playAnimation folder playFor => .playAnimation folder playFor
  | .wait time => .wait time
  | .setVariable name value => .setVariable name value
  | .breakLoop => .breakLoop
  | .gpio pin level => .gpio pin level
  | .setColor color => .setColor color
  | .value expression => .value expression

end

def Program.withoutInert (program : Program) : Program :=
  { program with
    actions := program.actions.withoutInert
    next := program.next.withoutInert }

def Task.withoutInert : Task → Task
  | .chain statements => .chain statements.withoutInert
  | .yield => .yield
  | .rest milliseconds => .rest milliseconds
  | .times left body => .times left body.withoutInert
  | .forever body => .forever body.withoutInert
  | .whileHolds condition body => .whileHolds condition body.withoutInert
  | .animation shown => .animation shown

private theorem Statement.isInert_withoutInert (statement : Statement) :
    statement.withoutInert.isInert = statement.isInert := by
  cases statement <;> rfl

private theorem Chain.withoutInert_of_inert {id : Option String} {statement : Statement}
    {next : Chain} (inert : statement.isInert) :
    (Chain.link id statement next).withoutInert = next.withoutInert := by
  rw [withoutInert, if_pos inert]

private theorem Chain.withoutInert_of_not_inert {id : Option String} {statement : Statement}
    {next : Chain} (effective : statement.isInert = false) :
    (Chain.link id statement next).withoutInert =
      .link id statement.withoutInert next.withoutInert := by
  rw [withoutInert, if_neg (Bool.eq_false_iff.mp effective)]

mutual

/-- There is nothing inert in the chain, at any depth. -/
def Chain.IsEffective : Chain → Prop
  | .nil => True
  | .link _ statement next =>
    statement.isInert = false ∧ statement.IsEffective ∧ next.IsEffective

def Statement.IsEffective : Statement → Prop
  | .branch _ whenTrue whenFalse => whenTrue.IsEffective ∧ whenFalse.IsEffective
  | .forever body => body.IsEffective
  | .repeatLoop _ body => body.IsEffective
  | .whileLoop _ body => body.IsEffective
  | .gpioBranch _ _ whenTrue whenFalse => whenTrue.IsEffective ∧ whenFalse.IsEffective
  | .start actions => actions.IsEffective
  | .gpioTrigger _ _ actions => actions.IsEffective
  | _ => True

end

mutual

theorem Chain.isEffective_withoutInert (statements : Chain) :
    statements.withoutInert.IsEffective := by
  match statements with
  | .nil => trivial
  | .link id statement next =>
      cases inert : statement.isInert with
      | true =>
          rw [Chain.withoutInert_of_inert inert]
          exact next.isEffective_withoutInert
      | false =>
          rw [Chain.withoutInert_of_not_inert inert]
          exact ⟨statement.isInert_withoutInert.trans inert, statement.isEffective_withoutInert,
            next.isEffective_withoutInert⟩

theorem Statement.isEffective_withoutInert (statement : Statement) :
    statement.withoutInert.IsEffective := by
  match statement with
  | .branch _ whenTrue whenFalse =>
      exact ⟨whenTrue.isEffective_withoutInert, whenFalse.isEffective_withoutInert⟩
  | .gpioBranch _ _ whenTrue whenFalse =>
      exact ⟨whenTrue.isEffective_withoutInert, whenFalse.isEffective_withoutInert⟩
  | .forever body => exact body.isEffective_withoutInert
  | .repeatLoop _ body => exact body.isEffective_withoutInert
  | .whileLoop _ body => exact body.isEffective_withoutInert
  | .start actions => exact actions.isEffective_withoutInert
  | .gpioTrigger _ _ actions => exact actions.isEffective_withoutInert
  | .displayImage _ => trivial
  | .playAnimation _ _ => trivial
  | .wait _ => trivial
  | .setVariable _ _ => trivial
  | .breakLoop => trivial
  | .gpio _ _ => trivial
  | .setColor _ => trivial
  | .value _ => trivial

end

namespace Machine

variable (machine : Machine) (scene : Scene)

/-- A statement that is not inert does the same to a machine without inert statements. -/
theorem execute_withoutInert {statement : Statement} (effective : statement.isInert = false) :
    (machine.mapTasks Task.withoutInert).execute scene statement.withoutInert =
      (machine.execute scene statement).map id (mapTasks Task.withoutInert) := by
  cases statement with
  | displayImage filename => rfl
  | playAnimation folder playFor =>
      rw [Statement.withoutInert, execute, execute]
      split
      · rfl
      · rw [map_push]
        rfl
  | wait time =>
      rw [Statement.withoutInert, execute, execute, evaluate_mapTasks, map_push]
      rfl
  | branch condition whenTrue whenFalse =>
      rw [Statement.withoutInert, execute, execute, evaluate_mapTasks, map_push]
      obtain ⟨value, after⟩ := machine.evaluate condition
      dsimp only [Prod.map_apply, id]
      split <;> rfl
  | setVariable name value => rfl
  | forever body =>
      rw [Statement.withoutInert, execute, execute, map_push]
      rfl
  | repeatLoop times body =>
      rw [Statement.withoutInert, execute, execute, evaluate_mapTasks, map_push]
      rfl
  | whileLoop condition body =>
      rw [Statement.withoutInert, execute, execute, map_push]
      rfl
  | gpio pin level =>
      rw [Statement.withoutInert, execute, execute]
      split <;> rfl
  | gpioBranch pin level whenTrue whenFalse =>
      rw [Statement.withoutInert, execute, execute, map_push]
      cases scene.pins.isHigh pin == level.isHigh <;> rfl
  | setColor color => exact machine.setColor_mapTasks Task.withoutInert scene color
  | breakLoop => cases effective
  | start actions => cases effective
  | gpioTrigger pin trigger actions => cases effective
  | value expression => cases effective

/-- An inert statement leaves everything as it is. -/
theorem execute_of_inert {statement : Statement} (inert : statement.isInert) :
    machine.execute scene statement = (.nothing, machine) := by
  cases statement with
  | breakLoop => rfl
  | start actions => rfl
  | gpioTrigger pin trigger actions => rfl
  | value expression => rfl
  | _ => cases inert

/-- The machine begins an inert statement with its next step. -/
def skips : Bool :=
  (machine.begins? scene).any fun execution => execution.statement.isInert

private theorem perform_withoutInert {task : Task} {rest : List Task}
    (tasks : machine.tasks = task :: rest) (keeps : machine.skips scene = false) :
    ({ machine with tasks := rest }.mapTasks Task.withoutInert).perform scene task.withoutInert =
      ({ machine with tasks := rest }.perform scene task).map id (mapTasks Task.withoutInert) := by
  obtain ⟨_, store, dice, executed⟩ := machine
  cases tasks
  cases task with
  | chain statements =>
      cases statements with
      | nil => rfl
      | link name statement next =>
          cases stopped : scene.stopped with
          | true =>
              have dropped (statements : Chain) (machine : Machine) :
                  machine.perform scene (.chain statements) = (.nothing, machine) := by
                cases statements with
                | nil => rfl
                | link name statement next => exact if_pos stopped
              rw [Task.withoutInert, dropped, dropped]
              rfl
          | false =>
              have effective : statement.isInert = false := by
                simpa [skips, begins?, stopped] using keeps
              rw [Task.withoutInert, Chain.withoutInert_of_not_inert effective, perform, perform,
                if_neg (Bool.eq_false_iff.mp stopped), if_neg (Bool.eq_false_iff.mp stopped)]
              exact execute_withoutInert ⟨.chain next :: rest, store, dice, executed + 1⟩ scene
                effective
  | yield => rfl
  | rest milliseconds =>
      rw [Task.withoutInert, perform, perform]
      split <;> rfl
  | times left body =>
      cases left with
      | zero => rfl
      | succ left =>
          rw [Task.withoutInert, perform, perform]
          split
          · rfl
          · rw [map_push]
            rfl
  | forever body =>
      rw [Task.withoutInert, perform, perform]
      split
      · rfl
      · rw [map_push]
        rfl
  | whileHolds condition body =>
      rw [Task.withoutInert, perform, perform, evaluate_mapTasks]
      split
      · rfl
      · obtain ⟨value, after⟩ := evaluate ⟨rest, store, dice, executed⟩ condition
        dsimp only [Prod.map_apply, id]
        split
        · rw [map_push]
          rfl
        · rfl
  | animation shown =>
      rw [Task.withoutInert, perform, perform]
      split
      · rfl
      · rw [map_push]
        dsimp only
        split <;> rfl

/-- A machine that begins nothing inert takes the same step as one without inert statements. -/
theorem step_withoutInert (keeps : machine.skips scene = false) :
    (machine.mapTasks Task.withoutInert).step scene =
      (machine.step scene).map (Prod.map id (mapTasks Task.withoutInert)) := by
  cases tasks : machine.tasks with
  | nil => rw [step, step, mapTasks, tasks, List.map_nil, Option.map_none]
  | cons task rest =>
      have performed := machine.perform_withoutInert scene tasks keeps
      rw [step, step, mapTasks, tasks]
      exact congrArg some performed

/-- The second machine has no inert statements, and has begun so many statements less. -/
structure Trails (count : Nat) (first second : Machine) : Prop where
  tasks : second.tasks = first.tasks.map Task.withoutInert
  store : second.store = first.store
  dice : second.dice = first.dice
  executed : first.executed = second.executed + count

variable {count : Nat} {first second : Machine} {scene}

theorem Trails.mapTasks_eq (trails : Trails count first second) :
    first.mapTasks Task.withoutInert = second.onto [] count := by
  rw [mapTasks, onto, trails.tasks, trails.store, trails.dice, trails.executed, List.append_nil]

private theorem trails_of_mapTasks_eq
    (same : first.mapTasks Task.withoutInert = second.onto [] count) :
    Trails count first second := by
  have tasks := congrArg Machine.tasks same
  rw [onto, List.append_nil] at tasks
  exact ⟨tasks.symm, (congrArg Machine.store same).symm, (congrArg Machine.dice same).symm,
    congrArg Machine.executed same⟩

/-- The number of statements in the chain that the machine is about to execute. -/
def headLength (machine : Machine) : Nat :=
  match machine.tasks with
  | .chain statements :: _ => statements.length
  | _ => 0

private theorem headLength_of_tasks {statements : Chain} {rest : List Task}
    (tasks : first.tasks = .chain statements :: rest) : first.headLength = statements.length := by
  rw [headLength, tasks]

/-- The first machine passes over an inert statement, and the second one has none there. -/
theorem Trails.exists_skip (trails : Trails count first second) (skips : first.skips scene) :
    ∃ next, first.step scene = some (.nothing, next) ∧ Trails (count + 1) next second ∧
      next.headLength < first.headLength := by
  rw [Machine.skips, begins?] at skips
  split at skips
  · next id statement next rest tasks =>
      split at skips
      · cases skips
      · next running =>
          have inert : statement.isInert := by simpa using skips
          refine ⟨⟨.chain next :: rest, first.store, first.dice, first.executed + 1⟩, ?_,
            ⟨?_, trails.store, trails.dice, ?_⟩, ?_⟩
          · rw [Machine.step, tasks]
            simp only [perform, if_neg running]
            rw [execute_of_inert _ _ inert]
            rfl
          · rw [trails.tasks, tasks, List.map_cons, List.map_cons, Task.withoutInert,
              Chain.withoutInert_of_inert inert, Task.withoutInert]
          · rw [trails.executed, Nat.add_assoc]
          · rw [headLength_of_tasks tasks]
            exact Nat.lt_succ_self _
  · cases skips

theorem Trails.step (trails : Trails count first second) (keeps : first.skips scene = false) :
    first.step scene = none ∧ second.step scene = none ∨ ∃ request next other,
      first.step scene = some (request, next) ∧ second.step scene = some (request, other) ∧
        Trails count next other := by
  have stepped := first.step_withoutInert scene keeps
  rw [trails.mapTasks_eq] at stepped
  obtain ⟨tasks, store, dice, executed⟩ := second
  cases tasks with
  | nil =>
      left
      have ended : first.step scene = none := Option.map_eq_none_iff.mp stepped.symm
      exact ⟨ended, rfl⟩
  | cons task rest =>
      right
      have performed : (onto [] count ⟨task :: rest, store, dice, executed⟩).step scene =
          some (((Machine.mk rest store dice executed).perform scene task).map id
            (onto [] count)) := by
        rw [← perform_onto]
        rfl
      rw [performed] at stepped
      obtain ⟨⟨request, next⟩, takes, same⟩ := Option.map_eq_some_iff.mp stepped.symm
      generalize outcome : (Machine.mk rest store dice executed).perform scene task = taken at same
      obtain ⟨asked, other⟩ := taken
      obtain ⟨rfl, machines⟩ := Prod.mk.inj same
      exact ⟨request, next, other, takes, congrArg some outcome, trails_of_mapTasks_eq machines⟩

end Machine

end Marquee
