import Marquee.Proofs.Editor.Forest
import Marquee.Proofs.Editor.Unbounded
import Marquee.Proofs.Program.Sockets

/-!
# What is saved of which block

A way leads down from the start block, from place to place, and the same way leads down in the
program that is saved. At the end of a way stands a block in the workspace exactly if what is saved
of it stands there in the program; where there is no block there is nothing, or a literal that the
block above has as its default. To every block in the tree of the start block leads one way only.
-/

open Relation

namespace Marquee

/-- What stands at a place of a program. -/
inductive Branch where
  | chain (chain : Chain)
  | input (held : Input)

namespace Branch

/-- What stands at a place of a branch. -/
def child? (place : Place) : Branch → Option Branch
  | chain .nil => none
  | chain (.link _ statement next) =>
    match place with
    | .after => some (chain next)
    | .socket name =>
      ((statement.chains.lookup name).map chain).or ((statement.inputs.lookup name).map input)
  | input (.block _ expression) =>
    match place with
    | .after => none
    | .socket name => (expression.inputs.lookup name).map input
  | input _ => none

/-- What stands at the end of a way. -/
def along : List Place → Branch → Option Branch
  | [], branch => some branch
  | place :: way, branch => (branch.child? place).bind (along way)

end Branch

/-- The program as a chain that begins with the start block. -/
def Program.branch (program : Program) : Branch :=
  .chain program.root.toChain

namespace Source

variable {β : Type} {source : Source β} {depth : Nat} {block : β} {chainIn : String → Chain}

/-- What is saved for an empty value socket of a block of a kind. -/
def filler (source : Source β) (block : β) : Kind → Input
  | .wait => .number (source.intOr 0 block "NUMBER")
  | .repeatLoop => .number 1
  | .setColor => source.ownColor block
  | _ => .empty

theorem inputs_saveExpression {inputIn : String → Input} {kind : Kind} {expression : Expression}
    (found : source.saveExpression inputIn block kind = some expression) :
    expression.inputs = kind.valueSockets.map fun socket => (socket, inputIn socket) := by
  cases kind <;> cases found <;> rfl

private theorem inputs_saveFields {kind : Kind} {statement : Statement}
    (found : source.saveFields depth block chainIn kind = some statement) :
    statement.inputs = kind.valueSockets.map fun socket =>
      (socket, source.inputOr (source.filler block kind) depth block socket) := by
  cases kind <;> cases found <;> rfl

private theorem chains_saveFields {kind : Kind} {statement : Statement}
    (found : source.saveFields depth block chainIn kind = some statement) :
    statement.chains = kind.statementSockets.map fun socket => (socket, chainIn socket) := by
  cases kind <;> cases found <;> rfl

end Source

private theorem Source.filler_of_isValue {β : Type} {source : Source β} {block : β} {kind : Kind}
    (value : kind.isValue = true) : source.filler block kind = .empty := by
  cases kind <;> first | rfl | cases value

private theorem Branch.child?_asInput (id : Option String) (expression : Expression)
    (name : String) :
    (Branch.input (Source.asInput id expression)).child? (.socket name) =
      (expression.inputs.lookup name).map .input := by
  cases expression <;> rfl

private theorem Branch.child?_asInput_after (id : Option String) (expression : Expression) :
    (Branch.input (Source.asInput id expression)).child? .after = none := by
  cases expression <;> rfl

private theorem lookup_map_of_not_mem {α : Type} {names : List String} {name : String}
    (absent : name ∉ names) (value : String → α) :
    (names.map fun other => (other, value other)).lookup name = none := by
  rw [List.lookup_eq_none_iff]
  intro entry member
  obtain ⟨other, among, rfl⟩ := List.mem_map.mp member
  rw [bne_iff_ne]
  rintro rfl
  exact absent among

theorem Kind.statementSockets_of_isValue {kind : Kind} (value : kind.isValue = true) :
    kind.statementSockets = [] := by
  cases kind <;> first | rfl | cases value

theorem Kind.not_hasNext_of_isValue {kind : Kind} (value : kind.isValue = true) :
    ¬ kind.hasNext = true := by
  cases kind <;> first | decide | cases value

namespace Workspace

/-- The block at the end of a way. -/
def along (workspace : Workspace) : List Place → Nat → Option Nat
  | [], handle => some handle
  | place :: way, handle => (workspace.held? handle place).bind (workspace.along way)

/-- The first thing in a branch is what is saved of a block: a statement or an object with its id
and kind, or a literal with its value. -/
def Tells (workspace : Workspace) (handle : Nat) : Branch → Prop
  | .chain .nil => False
  | .chain (.link id statement _) =>
    id = workspace.id? handle ∧ workspace.kind? handle = some statement.kind
  | .input .empty => False
  | .input (.number value) =>
    workspace.kind? handle = some .number ∧ value = workspace.source.intOr 0 handle "NUMBER"
  | .input (.text color) =>
    (workspace.kind? handle = some .colorValue ∨ workspace.kind? handle = some .customColor) ∧
      color = workspace.source.color handle
  | .input (.block id expression) =>
    id = workspace.id? handle ∧ workspace.kind? handle = some expression.kind

/-- What stands where a block holds nothing: nothing, or the default that it has for itself. -/
def Vacant (workspace : Workspace) (handle : Nat) (branch : Branch) : Prop :=
  branch = .chain .nil ∨
    ∃ kind, workspace.kind? handle = some kind ∧
      branch = .input (workspace.source.filler handle kind)

/-- A branch that is saved of a block, at a depth that is enough for what is below. -/
inductive Written (workspace : Workspace) (handle : Nat) : Branch → Prop
  | chain {depth : Nat} {kind : Kind} : workspace.Spare (depth + 1) handle →
      workspace.kind? handle = some kind →
      Written workspace handle (.chain (workspace.source.saveChain (depth + 1) (some handle)))
  | input {depth : Nat} {kind : Kind} : workspace.Spare (depth + 1) handle →
      workspace.kind? handle = some kind → kind.isValue = true →
      Written workspace handle (.input (workspace.source.saveInput (depth + 1) handle))

variable {workspace : Workspace} {handle : Nat} {kind : Kind}

/-- A chain that is saved of a block begins with its statement. -/
theorem exists_saveChain (found : workspace.kind? handle = some kind) (depth : Nat) :
    ∃ statement,
      workspace.source.saveChain (depth + 1) (some handle) =
        .link (workspace.id? handle) statement
          (workspace.source.saveChain depth (workspace.source.next handle)) ∧
      statement.kind = kind ∧
      statement.inputs = (kind.valueSockets.map fun socket => (socket,
        workspace.source.inputOr (workspace.source.filler handle kind) depth handle socket)) ∧
      statement.chains = kind.statementSockets.map fun socket => (socket,
        workspace.source.saveChain depth (workspace.source.statement handle socket)) := by
  obtain ⟨statement, saved, same⟩ := workspace.source.exists_saveFields depth handle
    (fun socket => workspace.source.saveChain depth (workspace.source.statement handle socket)) kind
  refine ⟨statement, ?_, same, Source.inputs_saveFields saved, Source.chains_saveFields saved⟩
  rw [Source.saveChain_succ, source_kind?, found, Option.bind_some, saved]
  rfl

theorem exists_saveInput (found : workspace.kind? handle = some kind)
    (value : kind.isValue = true) (depth : Nat) :
    ∃ expression,
      workspace.source.saveInput (depth + 1) handle =
        Source.asInput (workspace.id? handle) expression ∧
      workspace.source.saveExpression (workspace.source.inputOr .empty depth handle) handle kind =
        some expression := by
  obtain ⟨expression, saved⟩ := workspace.source.exists_saveExpression
    (workspace.source.inputOr .empty depth handle) handle value
  refine ⟨expression, ?_, saved⟩
  rw [Source.saveInput_succ, source_kind?, found, Option.bind_some, saved]
  rfl

theorem Written.of_chainable (linked : workspace.Linked) {depth : Nat}
    (spare : workspace.Spare depth handle) (chainable : workspace.Chainable handle) :
    workspace.Written handle (.chain (workspace.source.saveChain depth (some handle))) := by
  obtain ⟨kind, found, _⟩ := chainable
  cases depth with
  | zero => exact absurd (spare.pos linked (lt_size_of_kind? found)) (Nat.lt_irrefl 0)
  | succ depth => exact .chain spare found

theorem Written.of_value (linked : workspace.Linked) {depth : Nat}
    (spare : workspace.Spare depth handle) (found : workspace.kind? handle = some kind)
    (value : kind.isValue = true) :
    workspace.Written handle (.input (workspace.source.saveInput depth handle)) := by
  cases depth with
  | zero => exact absurd (spare.pos linked (lt_size_of_kind? found)) (Nat.lt_irrefl 0)
  | succ depth => exact .input spare found value

theorem Written.tells {branch : Branch} (written : workspace.Written handle branch) :
    workspace.Tells handle branch := by
  cases written with
  | @chain depth kind spare found =>
      obtain ⟨statement, saved, same, _⟩ := exists_saveChain found depth
      rw [saved]
      exact ⟨rfl, by rw [found, same]⟩
  | @input depth kind spare found value =>
      obtain ⟨expression, saved, computes⟩ := exists_saveInput found value depth
      rw [saved]
      cases kind with
      | number =>
          cases computes
          exact ⟨found, rfl⟩
      | colorValue =>
          cases computes
          exact ⟨Or.inl found, rfl⟩
      | customColor =>
          cases computes
          exact ⟨Or.inr found, rfl⟩
      | randomRange | getVariable | compare | rgbColor =>
          cases computes
          exact ⟨rfl, found⟩
      | _ => cases value

/-- What hangs at a place of a block is saved at that place. -/
theorem Written.child (linked : workspace.Linked) (fitting : workspace.Fitting) {branch : Branch}
    (written : workspace.Written handle branch) {place : Place} {child : Nat}
    (holds : workspace.held? handle place = some child) :
    ∃ inner, branch.child? place = some inner ∧ workspace.Written child inner := by
  obtain ⟨kind, below, found, kindBelow, joins⟩ := fitting.joins holds
  cases written with
  | @chain depth _ spare _ =>
      have deep := spare.held linked holds
      obtain ⟨statement, saved, _, inputs, chains⟩ := exists_saveChain found depth
      rw [saved]
      cases place with
      | after =>
          refine ⟨_, rfl, ?_⟩
          rw [source_next, holds]
          exact .of_chainable linked deep (fitting.chainable_of_next found holds).2
      | socket name =>
          rw [Branch.child?, chains, inputs]
          rcases joins with ⟨has, _⟩ | ⟨has, value⟩
          · refine ⟨.chain (workspace.source.saveChain depth (some child)), ?_,
              .of_chainable linked deep (fitting.chainable_of_held found has holds)⟩
            rw [List.lookup_graph _ has, source_statement found has, holds]
            rfl
          · refine ⟨.input (workspace.source.saveInput depth child), ?_,
              .of_value linked deep kindBelow value⟩
            rw [lookup_map_of_not_mem (Kind.not_mem_statementSockets has),
              List.lookup_graph _ has, Source.inputOr, source_value found has, holds]
            rfl
  | @input depth _ spare known value =>
      have deep := spare.held linked holds
      cases found.symm.trans known
      obtain ⟨expression, saved, computes⟩ := exists_saveInput found value depth
      rw [saved]
      cases place with
      | after => exact absurd joins.1 (Kind.not_hasNext_of_isValue value)
      | socket name =>
          rw [Branch.child?_asInput, Source.inputs_saveExpression computes]
          rcases joins with ⟨statement, _⟩ | ⟨has, valueBelow⟩
          · rw [Kind.statementSockets_of_isValue value] at statement
            cases statement
          · refine ⟨.input (workspace.source.saveInput depth child), ?_,
              .of_value linked deep kindBelow valueBelow⟩
            rw [List.lookup_graph _ has, Source.inputOr, source_value found has, holds]
            rfl

private theorem vacant_saveChain (depth : Nat) :
    workspace.Vacant handle (.chain (workspace.source.saveChain depth none)) :=
  Or.inl (congrArg Branch.chain (by cases depth <;> rfl))

/-- Where a block holds nothing, nothing is saved but what it has as its default. -/
theorem Written.vacant {branch inner : Branch} (written : workspace.Written handle branch)
    {place : Place} (free : workspace.held? handle place = none)
    (there : branch.child? place = some inner) : workspace.Vacant handle inner := by
  cases written with
  | @chain depth kind spare found =>
      obtain ⟨statement, saved, _, inputs, chains⟩ := exists_saveChain found depth
      rw [saved] at there
      cases place with
      | after =>
          cases there
          rw [source_next, free]
          exact vacant_saveChain depth
      | socket name =>
          rw [Branch.child?, chains, inputs] at there
          by_cases has : name ∈ kind.statementSockets
          · rw [List.lookup_graph _ has, source_statement found has, free] at there
            cases there
            exact vacant_saveChain depth
          · rw [lookup_map_of_not_mem has] at there
            by_cases also : name ∈ kind.valueSockets
            · rw [List.lookup_graph _ also, Source.inputOr, source_value found also, free] at there
              cases there
              exact Or.inr ⟨kind, found, rfl⟩
            · rw [lookup_map_of_not_mem also] at there
              cases there
  | @input depth kind spare found value =>
      obtain ⟨expression, saved, computes⟩ := exists_saveInput found value depth
      rw [saved] at there
      cases place with
      | after =>
          rw [Branch.child?_asInput_after] at there
          cases there
      | socket name =>
          rw [Branch.child?_asInput, Source.inputs_saveExpression computes] at there
          by_cases has : name ∈ kind.valueSockets
          · rw [List.lookup_graph _ has, Source.inputOr, source_value found has, free] at there
            cases there
            refine Or.inr ⟨kind, found, ?_⟩
            rw [Source.filler_of_isValue value]
          · rw [lookup_map_of_not_mem has] at there
            cases there

/-! ## All the way down -/

theorem Vacant.child?_eq_none {branch : Branch} (vacant : workspace.Vacant handle branch)
    (place : Place) : branch.child? place = none := by
  rcases vacant with rfl | ⟨kind, _, rfl⟩
  · rfl
  · cases kind with
    | setColor =>
        simp only [Source.filler, Source.ownColor]
        cases workspace.source.text? handle "COLOR" <;> rfl
    | _ => rfl

private theorem along_append (workspace : Workspace) (way further : List Place) (handle : Nat) :
    workspace.along (way ++ further) handle =
      (workspace.along way handle).bind (workspace.along further) := by
  induction way generalizing handle with
  | nil => rfl
  | cons place way inductionHypothesis =>
      simp only [List.cons_append, along]
      cases workspace.held? handle place with
      | none => rfl
      | some child => exact inductionHypothesis child

/-- Down the same way, a block in the workspace and what is saved of it in the program. -/
theorem Written.along (linked : workspace.Linked) (fitting : workspace.Fitting) {branch : Branch}
    (written : workspace.Written handle branch) {way : List Place} {lower : Nat}
    (leads : workspace.along way handle = some lower) :
    ∃ inner, branch.along way = some inner ∧ workspace.Written lower inner := by
  induction way generalizing handle branch with
  | nil =>
      cases leads
      exact ⟨branch, rfl, written⟩
  | cons place way inductionHypothesis =>
      obtain ⟨child, holds, further⟩ := Option.bind_eq_some_iff.mp leads
      obtain ⟨inner, there, below⟩ := written.child linked fitting holds
      obtain ⟨last, reached, saved⟩ := inductionHypothesis below further
      refine ⟨last, ?_, saved⟩
      rw [Branch.along, there]
      exact reached

/-- A way in the program that leads to no block ends at a place of one. -/
theorem Written.vacant_along (linked : workspace.Linked) (fitting : workspace.Fitting)
    {branch inner : Branch} (written : workspace.Written handle branch) {way : List Place}
    (there : branch.along way = some inner) (missing : workspace.along way handle = none) :
    ∃ above place holder, way = above ++ [place] ∧ workspace.along above handle = some holder ∧
      workspace.held? holder place = none ∧ workspace.Vacant holder inner := by
  induction way generalizing handle branch with
  | nil => cases missing
  | cons place way inductionHypothesis =>
      obtain ⟨next, first, further⟩ := Option.bind_eq_some_iff.mp there
      cases holds : workspace.held? handle place with
      | none =>
          have vacant := written.vacant holds first
          cases way with
          | nil =>
              cases further
              exact ⟨[], place, handle, rfl, rfl, holds, vacant⟩
          | cons second way =>
              rw [Branch.along, vacant.child?_eq_none] at further
              cases further
      | some child =>
          obtain ⟨same, taken, below⟩ := written.child linked fitting holds
          cases first.symm.trans taken
          rw [Workspace.along, holds] at missing
          obtain ⟨above, last, holder, rfl, reached, free, vacant⟩ :=
            inductionHypothesis below further missing
          refine ⟨place :: above, last, holder, rfl, ?_, free, vacant⟩
          rw [Workspace.along, holds]
          exact reached

theorem Linked.climb_of_along (linked : workspace.Linked) {way : List Place} {top lower : Nat}
    (leads : workspace.along way top = some lower) :
    workspace.climb way.length lower = some top := by
  induction way generalizing top with
  | nil =>
      cases leads
      rfl
  | cons place way inductionHypothesis =>
      obtain ⟨child, holds, further⟩ := Option.bind_eq_some_iff.mp leads
      exact linked.climb_of_held holds (inductionHypothesis further)

theorem Linked.along_ne_top (linked : workspace.Linked) (place : Place) (rest : List Place)
    (top : Nat) : workspace.along (place :: rest) top ≠ some top :=
  fun circle => linked.acyclic top (transGen_of_climb (linked.climb_of_along circle))

theorem Linked.way_unique (linked : workspace.Linked) {way other : List Place} {top lower : Nat}
    (leads : workspace.along way top = some lower)
    (also : workspace.along other top = some lower) : way = other := by
  induction way generalizing top other with
  | nil =>
      cases leads
      cases other with
      | nil => rfl
      | cons place rest => exact absurd also (linked.along_ne_top place rest _)
  | cons place way inductionHypothesis =>
      cases other with
      | nil =>
          cases also
          exact absurd leads (linked.along_ne_top place way _)
      | cons otherPlace rest =>
          obtain ⟨child, holds, further⟩ := Option.bind_eq_some_iff.mp leads
          obtain ⟨otherChild, otherHolds, otherFurther⟩ := Option.bind_eq_some_iff.mp also
          have same := linked.siblings_eq holds otherHolds ⟨_, linked.climb_of_along further⟩
            ⟨_, linked.climb_of_along otherFurther⟩
          subst same
          cases linked.place_unique holds otherHolds
          exact congrArg (List.cons place) (inductionHypothesis further otherFurther)

theorem Linked.exists_way_iff (linked : workspace.Linked) {top lower : Nat} :
    (∃ way, workspace.along way top = some lower) ↔
      ReflTransGen workspace.HangsOn lower top := by
  constructor
  · rintro ⟨way, leads⟩
    exact exists_climb_iff.mp ⟨_, linked.climb_of_along leads⟩
  · intro path
    induction path using ReflTransGen.head_induction_on with
    | refl => exact ⟨[], rfl⟩
    | head hangs _ inductionHypothesis =>
        obtain ⟨way, leads⟩ := inductionHypothesis
        obtain ⟨place, holds⟩ := linked.held_of_parent hangs
        refine ⟨way ++ [place], ?_⟩
        rw [along_append, leads]
        simp [along, holds]

/-- A program that is saved of a workspace has in it every block of the tree of a start block once,
and no other. -/
structure SavedOnce (workspace : Workspace) (start : Nat) (content : Program) : Prop where
  begins : workspace.source.start? = some start
  /-- One way leads to each block of the tree. -/
  way : ∀ handle, ReflTransGen workspace.HangsOn handle start →
    ∃! way, workspace.along way start = some handle
  /-- No way leads to another block. -/
  below : ∀ way handle, workspace.along way start = some handle →
    ReflTransGen workspace.HangsOn handle start
  tells : ∀ way handle, workspace.along way start = some handle →
    ∃ branch, content.branch.along way = some branch ∧ workspace.Tells handle branch
  vacant : ∀ way branch, content.branch.along way = some branch →
    workspace.along way start = none →
    ∃ above place holder, way = above ++ [place] ∧
      workspace.along above start = some holder ∧ workspace.held? holder place = none ∧
      workspace.Vacant holder branch
  distinct : content.ids.Nodup

private theorem written_saveProgram (fitting : workspace.Fitting) {start : Nat}
    (found : workspace.kind? start = some .start) :
    workspace.Written start (workspace.source.saveProgram start).branch := by
  have alone : workspace.source.next start = none := by
    cases follows : workspace.source.next start with
    | none => rfl
    | some child => cases (fitting.chainable_of_next found follows).1
  have same : workspace.source.saveChain (workspace.blocks.size + 1) (some start) =
      (workspace.source.saveProgram start).root.toChain := by
    have empty : workspace.source.saveChain workspace.blocks.size none = .nil := by
      cases workspace.blocks.size <;> rfl
    rw [Source.saveChain_succ, source_kind?, found, alone, empty]
    rfl
  have written := Written.chain (Spare.start (Nat.le_succ _) start) found
  rw [same] at written
  exact written

private theorem savedOnce_save {base : Nat} (grown : workspace.Grown base) {content : Program}
    (saved : workspace.save = .program content) : ∃ start, workspace.SavedOnce start content := by
  have distinct := (editable_save grown saved).1.distinct
  have linked := grown.linked
  rw [save, Source.save] at saved
  cases begins : workspace.source.start? with
  | none =>
      rw [begins] at saved
      cases saved
  | some start =>
      rw [begins] at saved
      cases saved
      have written := written_saveProgram grown.fitting (start_of_start? begins)
      refine ⟨start, begins, ?_, ?_, ?_, ?_, distinct⟩
      · intro handle below
        obtain ⟨way, leads⟩ := linked.exists_way_iff.mpr below
        exact ⟨way, leads, fun other also => linked.way_unique also leads⟩
      · intro way handle leads
        exact linked.exists_way_iff.mp ⟨way, leads⟩
      · intro way handle leads
        obtain ⟨branch, there, below⟩ := written.along linked grown.fitting leads
        exact ⟨branch, there, below.tells⟩
      · intro way branch there missing
        exact written.vacant_along linked grown.fitting there missing

/-- Whatever was done to a workspace, the search for what lies above a block ends, and so do the
walks that save a block or the program, for all handles. If there is a program then every block in
the tree of the first start block is in it once, as a statement, an object or a literal, no other
block is in it, and its ids are different. -/
theorem walks_end_and_save_once (edits : List Edit) :
    let workspace := empty.edited edits
    (∀ candidate handle,
      workspace.Ascends candidate handle (workspace.isAncestor candidate handle)) ∧
      (∀ head, workspace.source.WritesChain head
        (workspace.source.saveChain workspace.source.height head)) ∧
      ∀ content, workspace.save = .program content →
        ∃ start, workspace.SavedOnce start content := by
  have none : empty.blocks = #[] := rfl
  have new : empty.Grown 0 := grown_of_no_blocks none
  obtain ⟨base, grown⟩ := exists_grown_edited new edits
  refine ⟨ascends_isAncestor grown.linked, fun head => ?_, fun content => savedOnce_save grown⟩
  exact writes_saveChain grown.linked fun handle _ _ => Spare.start (Nat.le_refl _) handle

/-- Work that leaves a loop without its number of rounds, and a number and a second start block
that are not in the tree. -/
def scattering : List Edit :=
  [.add .number, .add .start, .add .repeatLoop, .add .branch, .add .compare, .add .getVariable,
    .add .customColor, .add .setColor, .add .start, .connectStatement 1 "DO" 2,
    .connectStatement 2 "DO" 3, .connectValue 3 "CONDITION" 4, .connectValue 4 "RIGHT" 5,
    .connectNext 3 7, .connectValue 7 "COLOR" 6]

def scattered : Program where
  id := some "b2"
  actions :=
    .link (some "b3") (.repeatLoop (.number 1) <|
      .link (some "b4")
        (.branch (.block (some "b5") (.compare .empty .eq (.block (some "b6")
          (.getVariable "myVar")))) .nil .nil) <|
      .link (some "b8") (.setColor (.text "#FF0000")) .nil) .nil
  next := .nil

theorem save_once_scattering :
    (empty.edited scattering).save = .program scattered ∧
      ∃ start, (empty.edited scattering).SavedOnce start scattered := by
  have saved : (empty.edited scattering).save = .program scattered := by
    decide
  exact ⟨saved, (walks_end_and_save_once scattering).2.2 _ saved⟩

end Workspace

end Marquee
