import Marquee.Program.Walk
import Marquee.Proofs.Editor.Accounting

/-!
# What a clean report says

Nothing inside the root is left out of a load that reuses and skips nothing: every statement and
every value in there has got a block of its own. A load does not come to what follows the root, and
does not count it as skipped, so it takes a root that nothing follows for the report to account for
the whole program.
-/

namespace Marquee

open Loading

/-- A block is of the kind that a walk counts. A text is counted as a custom color, also where it
is a preset one. -/
def Kind.StandsFor (made counted : Kind) : Prop :=
  made = counted ∨ made = .colorValue ∧ counted = .customColor

/-- There is one block for each of the kinds, in their order. -/
def StandFor (made counted : List Kind) : Prop :=
  List.Forall₂ Kind.StandsFor made counted

namespace StandFor

theorem nil : StandFor [] [] :=
  List.Forall₂.nil

theorem cons {made counted : List Kind} (kind : Kind) (rest : StandFor made counted) :
    StandFor (kind :: made) (kind :: counted) :=
  List.Forall₂.cons (Or.inl rfl) rest

theorem append {made counted more others : List Kind} (first : StandFor made counted)
    (second : StandFor more others) : StandFor (made ++ more) (counted ++ others) :=
  List.rel_append first second

end StandFor

private theorem standsFor_literalKind (parent : Kind) (text : String) :
    (literalKind parent text).StandsFor .customColor := by
  rw [literalKind]
  split
  · exact Or.inr ⟨rfl, rfl⟩
  · exact Or.inl rfl

mutual

theorem Input.standFor_kinds (parent : Kind) (input : Input) :
    StandFor ((input.blocks parent).map Prod.snd) input.kinds := by
  match input with
  | .empty => exact .nil
  | .number _ => exact .cons _ .nil
  | .text text => exact List.Forall₂.cons (standsFor_literalKind parent text) .nil
  | .block _ expression => exact expression.standFor_kinds

theorem Expression.standFor_kinds (expression : Expression) :
    StandFor (expression.kind :: expression.blocks.map Prod.snd) expression.kinds := by
  match expression with
  | .number _ => exact .cons _ .nil
  | .randomRange _ _ => exact .cons _ .nil
  | .getVariable _ => exact .cons _ .nil
  | .compare left _ right =>
      rw [Expression.blocks, List.map_append]
      exact .cons _ ((left.standFor_kinds _).append (right.standFor_kinds _))
  | .colorValue _ => exact .cons _ .nil
  | .customColor _ => exact .cons _ .nil
  | .rgbColor _ => exact .cons _ .nil

end

mutual

theorem Statement.standFor_kinds (statement : Statement) :
    StandFor (statement.kind :: statement.blocks.map Prod.snd) statement.kinds := by
  match statement with
  | .start actions => exact .cons _ actions.standFor_kinds
  | .displayImage _ => exact .cons _ .nil
  | .playAnimation _ _ => exact .cons _ .nil
  | .wait time => exact .cons _ (time.standFor_kinds _)
  | .branch condition whenTrue whenFalse =>
      have all := ((condition.standFor_kinds .branch).append whenTrue.standFor_kinds).append
        whenFalse.standFor_kinds
      rw [Statement.blocks, ← List.append_assoc, List.map_append, List.map_append]
      exact .cons _ all
  | .setVariable _ value => exact .cons _ (value.standFor_kinds _)
  | .forever body => exact .cons _ body.standFor_kinds
  | .repeatLoop times body =>
      rw [Statement.blocks, List.map_append]
      exact .cons _ ((times.standFor_kinds _).append body.standFor_kinds)
  | .whileLoop condition body =>
      rw [Statement.blocks, List.map_append]
      exact .cons _ ((condition.standFor_kinds _).append body.standFor_kinds)
  | .breakLoop => exact .cons _ .nil
  | .gpio _ _ => exact .cons _ .nil
  | .gpioBranch _ _ whenTrue whenFalse =>
      rw [Statement.blocks, List.map_append]
      exact .cons _ (whenTrue.standFor_kinds.append whenFalse.standFor_kinds)
  | .gpioTrigger _ _ actions => exact .cons _ actions.standFor_kinds
  | .setColor color => exact .cons _ (color.standFor_kinds _)
  | .value expression => exact expression.standFor_kinds

theorem Chain.standFor_kinds (chain : Chain) :
    StandFor (chain.blocks.map Prod.snd) chain.kinds := by
  match chain with
  | .nil => exact .nil
  | .link _ statement next =>
      rw [Chain.blocks, List.map_cons, List.map_append, ← List.cons_append]
      exact statement.standFor_kinds.append next.standFor_kinds

end

private theorem Expression.kinds_ne_nil (expression : Expression) : expression.kinds ≠ [] := by
  cases expression <;> exact List.cons_ne_nil _ _

private theorem Statement.kinds_ne_nil (statement : Statement) : statement.kinds ≠ [] := by
  cases statement with
  | value expression => exact expression.kinds_ne_nil
  | _ => exact List.cons_ne_nil _ _

private theorem Chain.kinds_eq_nil_iff {chain : Chain} : chain.kinds = [] ↔ chain = .nil := by
  cases chain with
  | nil => exact iff_of_true rfl rfl
  | link _ statement next =>
      refine iff_of_false (fun none => ?_) (by nofun)
      exact statement.kinds_ne_nil (List.append_eq_nil_iff.mp none).1

/-- What a walk from the root comes to. -/
theorem Program.size_eq (program : Program) :
    program.size = (Statement.start program.actions).kinds.length + program.next.kinds.length :=
  List.length_append

/-- A load that gives a clean report, and the same load into an editor that keeps a log of the calls
it answers. One block was made for every statement and every value in the root, in their order, and
none for those that follow the root. So the blocks that were made are as many as the statements and
values of the program exactly if nothing follows the root. -/
theorem Program.clean_load {σ β : Type} {sink : Sink σ β} {program : Program} {editor after : σ}
    {root : β} {created : Nat}
    (loaded : program.load sink editor = (.ok (root, ⟨created, 0, 0⟩), after)) :
    (∃ log, program.load sink.logged (editor, []) = (.ok (root, ⟨created, 0, 0⟩), (after, log)) ∧
      created = (madeKinds log).length ∧
      StandFor (madeKinds log) (Statement.start program.actions).kinds) ∧
    created + program.next.kinds.length = program.size ∧
    (created = program.size ↔ program.next = .nil) := by
  obtain ⟨log, entries, logged, _, report, books⟩ := program.exists_books sink loaded
  have noneReused : (program.loading sink.logged (editor, [])).report.reused = 0 :=
    congrArg LoadReport.reused report
  have noneSkipped : (program.loading sink.logged (editor, [])).report.skipped = 0 :=
    congrArg LoadReport.skipped report
  have complete : entries.map Made.wanted = program.blocks := books.complete noneReused noneSkipped
  have kinds : madeKinds log = program.blocks.map Prod.snd := by
    rw [← books.kinds, ← complete, List.map_map]
    rfl
  have stand : StandFor (madeKinds log) (Statement.start program.actions).kinds := by
    rw [kinds]
    exact (Statement.start program.actions).standFor_kinds
  have counted : created = (madeKinds log).length := by
    have blocks : _ = 0 + (madeBlocks log).length := books.created
    rw [Nat.zero_add, report, ← books.handles, List.length_map] at blocks
    rw [← books.kinds, List.length_map]
    exact blocks
  have size : created + program.next.kinds.length = program.size := by
    rw [program.size_eq, counted, stand.length_eq]
  refine ⟨⟨log, logged, counted, stand⟩, size, ?_⟩
  rw [← Chain.kinds_eq_nil_iff, ← List.length_eq_zero_iff]
  omega

/-- A program with a chain after its root. -/
def trailing : Program where
  id := none
  actions := .link none (.setColor (.text "#FF0000")) .nil
  next := .link none .breakLoop .nil

theorem clean_load_trailing :
    (trailing.load Workspace.sink .empty).1 = .ok (0, ⟨3, 0, 0⟩) ∧ 3 + 1 = trailing.size := by
  have loaded : trailing.load Workspace.sink .empty =
      (.ok (0, ⟨3, 0, 0⟩), (trailing.load Workspace.sink .empty).2) := rfl
  exact ⟨rfl, (Program.clean_load loaded).2.1⟩

/-- What follows the root is lost without a word. -/
theorem break_lost_trailing :
    (trailing.load Workspace.sink .empty).1 = .ok (0, ⟨3, 0, 0⟩) ∧ trailing.size = 4 ∧
      (trailing.load Workspace.sink .empty).2.ofKind .breakLoop = [] :=
  ⟨rfl, rfl, rfl⟩

end Marquee
