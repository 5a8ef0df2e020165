import Marquee.Proofs.Editor.Filling
import Marquee.Proofs.Editor.Numbering
import Marquee.Proofs.Editor.Repeats

/-!
# A load follows the walk

A walk through a program and a load of it come to the same blocks in the same order, whatever is
inside what. They differ only in what they take a text for: a walk reports every text as a custom
color, and a load asks for a color block where a preset color stands directly in a block that sets
the color.
-/

namespace Marquee

/-- What a walk comes to: a block, or a text in an input of a block of some kind. -/
inductive Visit where
  | block (kind : Kind)
  | text (parent : Kind) (text : String)
  deriving DecidableEq

namespace Visit

/-- The kind that a walk reports. -/
def reported : Visit → Kind
  | block kind => kind
  | text _ _ => .customColor

/-- A preset color, directly in a block that sets the color. -/
def isPreset : Visit → Bool
  | block _ => false
  | text parent literal => parent = .setColor ∧ literal ∈ presetColors

/-- The kind of block that a load asks for. -/
def asked (visit : Visit) : Kind :=
  if visit.isPreset then .colorValue else visit.reported

private theorem asked_text (parent : Kind) (literal : String) :
    (text parent literal).asked = literalKind parent literal := by
  simp only [asked, isPreset, literalKind, decide_eq_true_eq, reported]

end Visit

mutual

def Input.visits (parent : Kind) : Input → List Visit
  | .empty => []
  | .number _ => [.block .number]
  | .text text => [.text parent text]
  | .block _ expression => .block expression.kind :: expression.visits

/-- What a walk comes to inside a value block. -/
def Expression.visits : Expression → List Visit
  | .compare left _ right => left.visits .compare ++ right.visits .compare
  | .number _ => []
  | .randomRange _ _ => []
  | .getVariable _ => []
  | .colorValue _ => []
  | .customColor _ => []
  | .rgbColor _ => []

end

mutual

/-- What a walk comes to inside a statement. -/
def Statement.visits : Statement → List Visit
  | .start actions => actions.visits
  | .displayImage _ => []
  | .playAnimation _ _ => []
  | .wait time => time.visits .wait
  | .branch condition whenTrue whenFalse =>
    condition.visits .branch ++ (whenTrue.visits ++ whenFalse.visits)
  | .setVariable _ value => value.visits .setVariable
  | .forever body => body.visits
  | .repeatLoop times body => times.visits .repeatLoop ++ body.visits
  | .whileLoop condition body => condition.visits .whileLoop ++ body.visits
  | .breakLoop => []
  | .gpio _ _ => []
  | .gpioBranch _ _ whenTrue whenFalse => whenTrue.visits ++ whenFalse.visits
  | .gpioTrigger _ _ actions => actions.visits
  | .setColor color => color.visits .setColor
  | .value expression => expression.visits

def Chain.visits : Chain → List Visit
  | .nil => []
  | .link _ statement next => .block statement.kind :: (statement.visits ++ next.visits)

end

/-- What a walk comes to in a program, but for what follows the root. -/
def Program.visits (program : Program) : List Visit :=
  .block .start :: program.actions.visits

private theorem Expression.visits_eq (expression : Expression) :
    expression.visits =
      expression.inputs.flatMap fun socket => socket.2.visits expression.kind := by
  cases expression <;> simp [visits, inputs, kind]

private theorem Statement.visits_eq (statement : Statement) :
    statement.visits =
      (statement.inputs.flatMap fun socket => socket.2.visits statement.kind) ++
        statement.chains.flatMap fun socket => socket.2.visits := by
  cases statement with
  | value expression => simp [visits, kind, inputs, chains, expression.visits_eq]
  | _ => simp [visits, kind, inputs, chains]

private theorem Input.map_reported (parent : Kind) (input : Input) :
    (input.visits parent).map Visit.reported = input.kinds := by
  induction input using Input.socketInduction generalizing parent with
  | empty => rfl
  | number value => rfl
  | text literal => rfl
  | block id expression inductionHypothesis =>
      rw [Input.visits, Input.kinds, expression.kinds_eq, expression.visits_eq, List.map_cons,
        List.map_flatMap]
      refine congrArg (List.cons expression.kind) (List.flatMap_congr fun socket member => ?_)
      exact inductionHypothesis socket.1 socket.2 member expression.kind

private theorem Statement.map_reported {statement : Statement}
    (inside : ∀ chain ∈ statement.slots, chain.visits.map Visit.reported = chain.kinds) :
    statement.kind :: statement.visits.map Visit.reported = statement.kinds := by
  have chains : (statement.chains.flatMap fun socket => socket.2.visits.map Visit.reported) =
      statement.chains.flatMap fun socket => socket.2.kinds :=
    List.flatMap_congr fun socket member => inside _ (Statement.mem_slots_of_chains member)
  rw [statement.kinds_eq, statement.visits_eq, List.map_append, List.map_flatMap, List.map_flatMap,
    chains]
  simp only [Input.map_reported]

private theorem Chain.map_reported (chain : Chain) :
    chain.visits.map Visit.reported = chain.kinds := by
  induction chain using Chain.socketInduction with
  | nil => rfl
  | link id statement next inside after =>
      rw [Chain.visits, Chain.kinds, ← Statement.map_reported inside, List.map_cons,
        List.map_append, after]
      rfl

private theorem Program.map_reported {program : Program} (alone : program.next = .nil) :
    program.visits.map Visit.reported = program.root.kinds := by
  rw [Program.root, Node.kinds, alone, Chain.kinds, List.append_nil, Statement.kinds,
    ← program.actions.map_reported]
  rfl

section

variable {σ β : Type}

/-- The kind of the block that the call asks for. -/
def Call.askedKind? : Call β → Option Kind
  | allocate kind _ => some kind
  | _ => none

/-- The kinds of the blocks that were asked for, in order. -/
def askedKinds (log : List (Call β)) : List Kind :=
  log.filterMap Call.askedKind?

namespace Loading

variable {sink : Sink σ β} {kinds : List Kind}

/-- Work on a load that asks the editor for blocks of these kinds, in this order. -/
def Asks (kinds : List Kind)
    (work : Loading (σ × List (Call β)) β → Loading (σ × List (Call β)) β) : Prop :=
  ∀ before, askedKinds (work before).editor.2 = askedKinds before.editor.2 ++ kinds

section

variable {more : List Kind}
  {work next : Loading (σ × List (Call β)) β → Loading (σ × List (Call β)) β}

theorem Asks.nothing : Asks (σ := σ) (β := β) [] fun loading => loading :=
  fun _ => (List.append_nil _).symm

theorem Asks.andThen (early : Asks kinds work) (late : Asks more next) :
    Asks (kinds ++ more) fun loading => next (work loading) := by
  intro before
  rw [late, early, List.append_assoc]

/-- The work may end with steps that ask for no block. -/
theorem Asks.close (early : Asks kinds work) (late : Asks [] next) :
    Asks kinds fun loading => next (work loading) := by
  have both := early.andThen late
  rwa [List.append_nil] at both

theorem Asks.foldl {α : Type} {kindsOf : α → List Kind}
    {work : Loading (σ × List (Call β)) β → α → Loading (σ × List (Call β)) β} (items : List α)
    (each : ∀ item ∈ items, Asks (kindsOf item) (work · item)) :
    Asks (items.flatMap kindsOf) (items.foldl work) := by
  induction items with
  | nil => exact Asks.nothing
  | cons item items inductionHypothesis =>
      obtain ⟨here, others⟩ := List.forall_mem_cons.mp each
      exact here.andThen (inductionHypothesis others)

end

private theorem asks_setField (block : β) (field : String) (value : FieldValue) :
    Asks [] (setField sink.logged block field value) := by
  intro before
  exact List.filterMap_append

private theorem asks_setFields (block : β) (fields : List (String × FieldValue)) :
    Asks [] (setFields sink.logged block fields) := by
  have each : Asks (fields.flatMap fun _ => []) (setFields sink.logged block fields) :=
    Asks.foldl fields fun field _ => asks_setField block field.1 field.2
  rwa [List.flatMap_eq_nil_iff.mpr fun _ _ => rfl] at each

/-- A connection asks for no block, whether it is granted or not. -/
theorem asks_settle (connection : Connection β) :
    Asks [] fun loading => loading.settle (sink.logged.connect connection loading.editor) := by
  intro before
  simp only [Sink.connect_logged, Sink.log, settle]
  cases (sink.connect connection before.editor.1).1 <;> exact List.filterMap_append

variable (lenient : sink.Lenient)

include lenient

/-- A block without an id is asked for, and made. -/
theorem asks_make (kind : Kind)
    {build : β → Loading (σ × List (Call β)) β → Loading (σ × List (Call β)) β}
    (builds : ∀ block, Asks kinds (build block)) :
    Asks (kind :: kinds) (make sink.logged none kind build) := by
  intro before
  obtain ⟨block, made⟩ := lenient.allocate kind before.editor.1
  have allocated : sink.logged.allocate kind before.editor = (.ok block,
      (sink.allocate kind before.editor.1).2,
      before.editor.2 ++ [.allocate kind (sink.allocate kind before.editor.1).1]) := by
    rw [← made]
    rfl
  simp only [make, place, Option.bind_none, allocated]
  rw [builds, askedKinds, List.filterMap_append, List.append_assoc]
  rfl

private theorem asks_follow (previous block : β)
    {rest : Loading (σ × List (Call β)) β → Loading (σ × List (Call β)) β}
    (rests : Asks kinds rest) : Asks kinds (follow sink.logged previous block rest) := by
  intro before
  have connected : sink.logged.connectNext previous block before.editor = (.ok (),
      (sink.connectNext previous block before.editor.1).2,
      before.editor.2 ++ [.connect (.next previous block) (.ok ())]) := by
    have granted : (sink.connectNext previous block before.editor.1).1 = .ok () :=
      lenient.connect (.next previous block) before.editor.1
    rw [← granted]
    rfl
  simp only [follow, connected]
  rw [rests, askedKinds, List.filterMap_append]
  exact congrArg (· ++ kinds) (List.append_nil _)

end Loading

open Loading

variable {sink : Sink σ β}

private theorem Expression.asks_load (block : β) (expression : Expression)
    (inputs : ∀ socket held, (socket, held) ∈ expression.inputs →
      Asks ((held.visits expression.kind).map Visit.asked)
        (held.stripIds.load sink.logged block expression.kind socket)) :
    Asks (expression.visits.map Visit.asked) (expression.stripIds.load sink.logged block) := by
  intro before
  rw [expression.load_stripIds, expression.visits_eq, List.map_flatMap]
  have plugged := Asks.foldl expression.inputs fun socket member =>
    inputs socket.1 socket.2 member
  exact (asks_setFields block _).andThen plugged before

variable (lenient : sink.Lenient)

include lenient

private theorem Input.asks_load (parent : β) (parentKind : Kind) (socket : String) (input : Input) :
    Asks ((input.visits parentKind).map Visit.asked)
      (input.stripIds.load sink.logged parent parentKind socket) := by
  induction input using Input.socketInduction generalizing parent parentKind socket with
  | empty => exact Asks.nothing
  | number value =>
      rw [Input.stripIds, Input.load_number]
      exact asks_make lenient _ fun block =>
        (asks_setField block "NUMBER" (.number value)).andThen
          (asks_settle (.value parent socket block))
  | text literal =>
      rw [Input.stripIds, Input.load_text, Input.visits, List.map_singleton, Visit.asked_text]
      exact asks_make lenient _ fun block =>
        (asks_setField block "COLOR" (.text literal)).andThen
          (asks_settle (.value parent socket block))
  | block id expression inductionHypothesis =>
      rw [Input.stripIds, Input.load_block, expression.kind_stripIds, Input.visits, List.map_cons]
      refine asks_make lenient _ fun block => ?_
      have built := expression.asks_load block fun socket held member =>
        inductionHypothesis socket held member block expression.kind socket
      exact built.close (asks_settle (.value parent socket block))

private theorem Statement.asks_load (block : β) (statement : Statement)
    (chains : ∀ chain ∈ statement.slots, ∀ socket,
      Asks (chain.visits.map Visit.asked) (chain.stripIds.loadSlot sink.logged block socket)) :
    Asks (statement.visits.map Visit.asked) (statement.stripIds.load sink.logged block) := by
  intro before
  rw [statement.load_stripIds, statement.visits_eq, List.map_append, List.map_flatMap,
    List.map_flatMap]
  have inputs := Asks.foldl statement.inputs fun socket _ =>
    socket.2.asks_load lenient block statement.kind socket.1
  have plugged := Asks.foldl statement.chains fun socket member =>
    chains socket.2 (Statement.mem_slots_of_chains member) socket.1
  exact (asks_setFields block _).andThen (inputs.andThen plugged) before

private theorem Chain.asks_load (chain : Chain) :
    (∀ parent socket, Asks (chain.visits.map Visit.asked)
      (chain.stripIds.loadSlot sink.logged parent socket)) ∧
    ∀ previous, Asks (chain.visits.map Visit.asked)
      (chain.stripIds.loadAfter sink.logged previous) := by
  -- Both at once, as what follows a statement is loaded after it, wherever the chain began.
  induction chain using Chain.socketInduction with
  | nil => exact ⟨fun _ _ => Asks.nothing, fun _ => Asks.nothing⟩
  | link id statement next inside after =>
      have built (block : β) := statement.asks_load lenient block
        fun chain member socket => (inside chain member).1 block socket
      rw [Chain.stripIds, Chain.visits, List.map_cons, List.map_append]
      refine ⟨fun parent socket => ?_, fun previous => ?_⟩
      · rw [Chain.loadSlot_link, statement.kind_stripIds]
        refine asks_make lenient _ fun block => ?_
        exact ((built block).andThen (after.2 block)).close
          (asks_settle (.statement parent socket block))
      · rw [Chain.loadAfter_link, statement.kind_stripIds]
        refine asks_make lenient _ fun block => ?_
        exact (built block).andThen (asks_follow lenient previous block (after.2 block))

private theorem Program.asked_loading (program : Program) (editor : σ) :
    askedKinds (program.stripIds.loading sink.logged (editor, [])).editor.2 =
      program.visits.map Visit.asked :=
  asks_make lenient .start (fun block => (program.actions.asks_load lenient).1 block "DO")
    (.start (editor, []))

/-- A load of a program with different ids into an editor that refuses nothing asks for one block
for each thing that a walk comes to, in the order of the walk. The kinds are those that the walk
reports, but for preset colors that stand directly in a block that sets the color: for them it asks
for a color block. -/
theorem Program.load_walks {program : Program} (alone : program.next = .nil)
    (distinct : program.ids.Nodup) (editor : σ) :
    ∃ root report after log,
      program.load sink editor = (.ok (root, report), after) ∧
      program.load sink.logged (editor, []) = (.ok (root, report), (after, log)) ∧
      program.visits.map Visit.reported = program.root.kinds ∧
      askedKinds log = program.visits.map fun visit =>
        if visit.isPreset then .colorValue else visit.reported := by
  obtain ⟨root, allowed⟩ := lenient.allocate .start editor
  have loaded := program.load_eq_loading sink allowed
  obtain ⟨log, entries, logged, -⟩ := program.exists_books sink loaded
  refine ⟨root, _, _, log, loaded, logged, Program.map_reported alone, ?_⟩
  -- As the ids are different, the load makes the calls that it makes without them.
  have stripped : program.stripIds.load sink.logged (editor, []) = _ :=
    program.stripIds.load_eq_loading sink.logged allowed
  rw [Program.load_stripIds sink.logged distinct, logged] at stripped
  have same : log = (program.stripIds.loading sink.logged (editor, [])).editor.2 :=
    congrArg (fun outcome => outcome.2.2) stripped
  rw [same]
  exact program.asked_loading lenient editor

end

/-- A program with values and a start block for statements, and with a preset color in a block that
sets the color and in one that compares. -/
def strolling : Program where
  id := some "s"
  actions :=
    .link (some "a") (.setColor (.text "#FF0000")) <|
    .link none (.value (.compare (.text "#FF0000") .eq
      (.block (some "c") (.compare (.number 1) .lt .empty)))) <|
    .link (some "b") (.start (.link none (.setColor (.text "#123456")) .nil)) <|
    .link none (.branch (.block none (.getVariable "x"))
      (.link none .breakLoop .nil) (.link none (.wait (.text "RANDOM")) .nil)) .nil
  next := .nil

theorem load_walks_strolling :
    strolling.root.kinds =
        [.start, .setColor, .customColor, .compare, .customColor, .compare, .number, .start,
          .setColor, .customColor, .branch, .getVariable, .breakLoop, .wait, .customColor] ∧
      askedKinds (strolling.load counting.logged (0, [])).2.2 =
        [.start, .setColor, .colorValue, .compare, .customColor, .compare, .number, .start,
          .setColor, .customColor, .branch, .getVariable, .breakLoop, .wait, .customColor] := by
  have alone : strolling.next = .nil := rfl
  have distinct : strolling.ids.Nodup := by decide
  obtain ⟨_, _, _, log, -, logged, reported, asked⟩ :=
    Program.load_walks lenient_counting alone distinct 0
  rw [← reported, logged, asked]
  decide

end Marquee
