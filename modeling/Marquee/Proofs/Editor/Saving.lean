import Marquee.Proofs.Editor.Subtree
import Marquee.Proofs.Editor.Shown

/-!
# What is saved

What is saved of a workspace can be built again as it is: everything stands where it can stand,
numbers are in their range, there is nothing left to fill in, and no id comes twice. It is shown
for the statement of one block from what is saved in its sockets, kind by kind, and then for all
that hangs below a block, by the depth that is left.
-/

open Relation

namespace Marquee

/-- An input that comes back from an editor as it is, also where an absent one would be filled
in. -/
structure Input.Settled (input : Input) : Prop where
  normal : input.normal = input
  present : input ≠ .empty

structure Statement.Settled (statement : Statement) : Prop where
  placed : statement.Placed
  inRange : statement.InRange
  normal : statement.normal = statement

/-- A chain that an editor takes completely and gives back as it is. -/
structure Chain.Settled (chain : Chain) : Prop where
  placed : chain.Placed
  inRange : chain.InRange
  normal : chain.normal = chain

theorem Input.Settled.or {input : Input} (settled : input.Settled) (default : Input) :
    input.normal.or default = input := by
  rw [settled.normal]
  cases input with
  | empty => exact absurd rfl settled.present
  | _ => rfl

private theorem Chain.settled_nil : Chain.nil.Settled :=
  ⟨trivial, trivial, rfl⟩

private theorem Source.settled_asInput (id : Option String) {expression : Expression}
    (normal : expression.normal = expression) : (asInput id expression).Settled := by
  cases expression with
  | compare left relation right => exact ⟨congrArg (Input.block id) normal, Input.noConfusion⟩
  | _ => exact ⟨rfl, Input.noConfusion⟩

namespace Source

variable {β : Type} {source : Source β} {depth : Nat} {block : β} {chainIn : String → Chain}

private theorem ids_asInput (id : Option String) (expression : Expression) :
    (asInput id expression).ids.Sublist (id.toList ++ expression.ids) := by
  cases expression with
  | number value => exact List.nil_sublist _
  | colorValue color => exact List.nil_sublist _
  | customColor color => exact List.nil_sublist _
  | _ => exact List.Sublist.refl _

private theorem ids_inputOr {default : Input} (unnamed : default.ids = []) (depth : Nat) (block : β)
    (socket : String) :
    (source.inputOr default depth block socket).ids =
      (source.inputOr .empty depth block socket).ids := by
  simp only [inputOr]
  cases source.value block socket with
  | none => exact unnamed
  | some child => rfl

private theorem ids_inputOr_number (value : Int64) (depth : Nat) (block : β) (socket : String) :
    (source.inputOr (.number value) depth block socket).ids =
      (source.inputOr .empty depth block socket).ids :=
  ids_inputOr rfl depth block socket

private theorem ids_inputOr_ownColor (depth : Nat) (block : β) (socket : String) :
    (source.inputOr (source.ownColor block) depth block socket).ids =
      (source.inputOr .empty depth block socket).ids := by
  refine ids_inputOr ?_ depth block socket
  simp only [ownColor]
  cases source.text? block "COLOR" <;> rfl

private theorem ids_saveExpression {inputIn : String → Input} {kind : Kind}
    {expression : Expression} (found : source.saveExpression inputIn block kind = some expression) :
    expression.ids = kind.valueSockets.flatMap fun socket => (inputIn socket).ids := by
  cases kind <;> cases found <;> simp [Expression.ids, Kind.valueSockets]

/-- The ids in a statement are those in its sockets, in reading order. -/
theorem ids_saveFields {kind : Kind} {statement : Statement}
    (found : source.saveFields depth block chainIn kind = some statement) :
    statement.ids =
      (kind.valueSockets.flatMap fun socket => (source.inputOr .empty depth block socket).ids) ++
        kind.statementSockets.flatMap fun socket => (chainIn socket).ids := by
  cases kind <;> cases found <;>
    simp [Statement.ids, Expression.ids, Kind.valueSockets, Kind.statementSockets,
      ids_inputOr_number, ids_inputOr_ownColor]

/-! ## One block -/

theorem exists_saveExpression (inputIn : String → Input) (block : β) {kind : Kind}
    (value : kind.isValue = true) :
    ∃ expression, source.saveExpression inputIn block kind = some expression := by
  cases kind <;> first | exact ⟨_, rfl⟩ | cases value

theorem exists_saveFields (depth : Nat) (block : β) (chainIn : String → Chain) (kind : Kind) :
    ∃ statement, source.saveFields depth block chainIn kind = some statement ∧
      statement.kind = kind := by
  cases kind <;> exact ⟨_, rfl, rfl⟩

private theorem normal_inputOr {default : Input} (normal : default.normal = default)
    {socket : String}
    (held : ∀ child ∈ source.value block socket, (source.saveInput depth child).Settled) :
    (source.inputOr default depth block socket).normal =
      source.inputOr default depth block socket := by
  simp only [inputOr]
  cases found : source.value block socket with
  | none => exact normal
  | some child => exact (held child found).normal

private theorem settled_inputOr (value : Int64) {socket : String}
    (held : ∀ child ∈ source.value block socket, (source.saveInput depth child).Settled) :
    (source.inputOr (.number value) depth block socket).Settled := by
  simp only [inputOr]
  cases found : source.value block socket with
  | none => exact ⟨rfl, Input.noConfusion⟩
  | some child => exact held child found

private theorem normal_ownColor (block : β) :
    (source.ownColor block).normal = source.ownColor block := by
  simp only [ownColor]
  cases source.text? block "COLOR" <;> rfl

private theorem normal_saveExpression {kind : Kind} {expression : Expression}
    (inputs : ∀ socket ∈ kind.valueSockets, ∀ child ∈ source.value block socket,
      (source.saveInput depth child).Settled)
    (found : source.saveExpression (source.inputOr .empty depth block) block kind =
      some expression) : expression.normal = expression := by
  cases kind with
  | compare =>
      cases found
      have left : (source.inputOr .empty depth block "LEFT").normal = _ :=
        normal_inputOr rfl (inputs "LEFT" (by decide))
      have right : (source.inputOr .empty depth block "RIGHT").normal = _ :=
        normal_inputOr rfl (inputs "RIGHT" (by decide))
      rw [Expression.normal, left, right]
  | _ => cases found <;> rfl

private theorem byteUpTo_le (highest : UInt8) (block : β) (field : String) :
    source.byteUpTo highest block field ≤ highest := by
  have bound := highest.toNat_lt
  rw [byteUpTo, UInt8.le_iff_toNat_le, UInt8.toNat_ofNat']
  omega

private theorem duration_lt (block : β) (field : String) :
    (source.duration block field).toNat < signedLimit := by
  simp only [duration]
  cases source.int? block field with
  | none => decide
  | some milliseconds =>
      have bound := milliseconds.toInt_lt
      simp only [UInt64.toNat_ofNat', signedLimit]
      omega

/-- The statement of a block is settled if what is saved in its sockets is. -/
theorem settled_saveFields {kind : Kind} {statement : Statement}
    (inputs : ∀ socket ∈ kind.valueSockets, ∀ child ∈ source.value block socket,
      (source.saveInput depth child).Settled)
    (chains : ∀ socket ∈ kind.statementSockets, (chainIn socket).Settled)
    (found : source.saveFields depth block chainIn kind = some statement) :
    statement.Settled := by
  by_cases value : kind.isValue
  · have same : source.saveFields depth block chainIn kind =
        (source.saveExpression (source.inputOr .empty depth block) block kind).map .value := by
      cases kind <;> first | rfl | cases value
    rw [same] at found
    obtain ⟨expression, saved, rfl⟩ := Option.map_eq_some_iff.mp found
    exact ⟨trivial, trivial, congrArg Statement.value (normal_saveExpression inputs saved)⟩
  cases kind with
  | start =>
      cases found
      have inside := chains "DO" (by decide)
      exact ⟨inside.placed, inside.inRange, congrArg Statement.start inside.normal⟩
  | displayImage =>
      cases found
      exact ⟨trivial, trivial, rfl⟩
  | playAnimation =>
      cases found
      exact ⟨trivial, duration_lt block _, rfl⟩
  | wait =>
      cases found
      have time := settled_inputOr (source.intOr 0 block "NUMBER") (inputs "TIME" (by decide))
      refine ⟨trivial, trivial, ?_⟩
      rw [Statement.normal, time.or]
  | branch =>
      cases found
      have whenTrue := chains "TRUE" (by decide)
      have whenFalse := chains "FALSE" (by decide)
      have condition : (source.inputOr .empty depth block "CONDITION").normal = _ :=
        normal_inputOr rfl (inputs "CONDITION" (by decide))
      refine ⟨⟨whenTrue.placed, whenFalse.placed⟩, ⟨whenTrue.inRange, whenFalse.inRange⟩, ?_⟩
      rw [Statement.normal, condition, whenTrue.normal, whenFalse.normal]
  | setVariable =>
      cases found
      have value : (source.inputOr .empty depth block "VALUE").normal = _ :=
        normal_inputOr rfl (inputs "VALUE" (by decide))
      refine ⟨trivial, trivial, ?_⟩
      rw [Statement.normal, value]
  | forever =>
      cases found
      have body := chains "DO" (by decide)
      exact ⟨body.placed, body.inRange, congrArg Statement.forever body.normal⟩
  | repeatLoop =>
      cases found
      have body := chains "DO" (by decide)
      have times := settled_inputOr 1 (inputs "TIMES" (by decide))
      refine ⟨body.placed, body.inRange, ?_⟩
      rw [Statement.normal, times.or, body.normal]
  | whileLoop =>
      cases found
      have body := chains "DO" (by decide)
      have condition : (source.inputOr .empty depth block "CONDITION").normal = _ :=
        normal_inputOr rfl (inputs "CONDITION" (by decide))
      refine ⟨body.placed, body.inRange, ?_⟩
      rw [Statement.normal, condition, body.normal]
  | breakLoop =>
      cases found
      exact ⟨trivial, trivial, rfl⟩
  | gpio =>
      cases found
      exact ⟨trivial, byteUpTo_le maxPin block _, rfl⟩
  | gpioBranch =>
      cases found
      have whenTrue := chains "TRUE" (by decide)
      have whenFalse := chains "FALSE" (by decide)
      refine ⟨⟨whenTrue.placed, whenFalse.placed⟩,
        ⟨byteUpTo_le maxPin block _, whenTrue.inRange, whenFalse.inRange⟩, ?_⟩
      rw [Statement.normal, whenTrue.normal, whenFalse.normal]
  | gpioTrigger =>
      cases found
      have actions := chains "DO" (by decide)
      refine ⟨actions.placed, ⟨byteUpTo_le maxPin block _, actions.inRange⟩, ?_⟩
      rw [Statement.normal, actions.normal]
  | setColor =>
      cases found
      have color : (source.inputOr (source.ownColor block) depth block "COLOR").normal = _ :=
        normal_inputOr (normal_ownColor block) (inputs "COLOR" (by decide))
      refine ⟨trivial, trivial, ?_⟩
      rw [Statement.normal, color]
  | _ => exact absurd rfl value

end Source

/-! ## All that hangs below a block -/

theorem Kind.not_mem_statementSockets {kind : Kind} {socket : String}
    (has : socket ∈ kind.valueSockets) : socket ∉ kind.statementSockets := by
  revert socket
  cases kind <;> decide

private theorem Kind.not_mem_valueSockets {kind : Kind} {socket : String}
    (has : socket ∈ kind.statementSockets) : socket ∉ kind.valueSockets :=
  fun also => not_mem_statementSockets also has

namespace Workspace

variable {workspace : Workspace}

section

variable {handle : Nat} {kind : Kind} {socket : String}

theorem exists_block?_of_kind? (found : workspace.kind? handle = some kind) :
    ∃ block, workspace.block? handle = some block ∧ block.kind = kind := by
  obtain ⟨own, there, same⟩ := Option.map_eq_some_iff.mp found
  obtain ⟨block, inside, rfl⟩ := Option.map_eq_some_iff.mp there
  exact ⟨block, inside, same⟩

theorem source_kind? : workspace.source.kind? handle = workspace.kind? handle := by
  simp only [Source.kind?, source, Workspace.kind?, own?]
  cases workspace.block? handle with
  | none => rfl
  | some block => exact block.kind.ofName?_name

theorem source_value (found : workspace.kind? handle = some kind)
    (has : socket ∈ kind.valueSockets) :
    workspace.source.value handle socket = workspace.held? handle (.socket socket) := by
  obtain ⟨block, there, rfl⟩ := exists_block?_of_kind? found
  simp [source, valueIn?, plugged?, held?, there, has, Block.held?]

theorem source_statement (found : workspace.kind? handle = some kind)
    (has : socket ∈ kind.statementSockets) :
    workspace.source.statement handle socket = workspace.held? handle (.socket socket) := by
  obtain ⟨block, there, rfl⟩ := exists_block?_of_kind? found
  simp [source, statementIn?, plugged?, held?, there, has, Block.held?]

theorem source_next : workspace.source.next handle = workspace.held? handle .after := rfl

theorem held?_of_plugged? {sockets : Kind → List String} {handle child : Nat} {socket : String}
    (plugged : workspace.plugged? sockets handle socket = some child) :
    workspace.held? handle (.socket socket) = some child := by
  simp only [plugged?] at plugged
  simp only [held?]
  cases found : workspace.block? handle with
  | none =>
      rw [found] at plugged
      cases plugged
  | some block =>
      rw [found] at plugged
      dsimp only at plugged
      split at plugged
      · exact plugged
      · cases plugged

theorem Fitting.value_of_held (fitting : workspace.Fitting)
    (found : workspace.kind? handle = some kind) (has : socket ∈ kind.valueSockets) {child : Nat}
    (holds : workspace.held? handle (.socket socket) = some child) :
    ∃ below, workspace.kind? child = some below ∧ below.isValue = true := by
  obtain ⟨above, below, kindAbove, kindBelow, joins⟩ := fitting.joins holds
  rw [found] at kindAbove
  cases kindAbove
  rcases joins with ⟨statement, _⟩ | ⟨_, value⟩
  · exact absurd statement (Kind.not_mem_statementSockets has)
  · exact ⟨below, kindBelow, value⟩

/-- A block that a chain can go on with, or begin with. -/
def Chainable (workspace : Workspace) (handle : Nat) : Prop :=
  ∃ kind, workspace.kind? handle = some kind ∧ kind.hasPrevious = true

theorem Fitting.chainable_of_held (fitting : workspace.Fitting)
    (found : workspace.kind? handle = some kind) (has : socket ∈ kind.statementSockets)
    {child : Nat} (holds : workspace.held? handle (.socket socket) = some child) :
    workspace.Chainable child := by
  obtain ⟨above, below, kindAbove, kindBelow, joins⟩ := fitting.joins holds
  rw [found] at kindAbove
  cases kindAbove
  rcases joins with ⟨_, previous⟩ | ⟨value, _⟩
  · exact ⟨below, kindBelow, previous⟩
  · exact absurd value (Kind.not_mem_valueSockets has)

theorem Fitting.chainable_of_next (fitting : workspace.Fitting)
    (found : workspace.kind? handle = some kind) {child : Nat}
    (holds : workspace.held? handle .after = some child) :
    kind.hasNext = true ∧ workspace.Chainable child := by
  obtain ⟨above, below, kindAbove, kindBelow, follows, previous⟩ := fitting.joins holds
  rw [found] at kindAbove
  cases kindAbove
  exact ⟨follows, below, kindBelow, previous⟩

end

/-- The depth that is left at a block is enough for all ways down from it: so many steps were made
from some block above it. -/
def Spare (workspace : Workspace) (depth handle : Nat) : Prop :=
  ∃ steps top, workspace.climb steps handle = some top ∧
    workspace.blocks.size ≤ steps + depth

theorem Spare.start {depth : Nat} (enough : workspace.blocks.size ≤ depth) (handle : Nat) :
    workspace.Spare depth handle :=
  ⟨0, handle, rfl, by rwa [Nat.zero_add]⟩

theorem Spare.pos (linked : workspace.Linked) {depth handle : Nat}
    (spare : workspace.Spare depth handle) (inside : handle < workspace.blocks.size) :
    0 < depth := by
  obtain ⟨steps, top, reached, enough⟩ := spare
  have bounded := climb_lt_size linked inside reached
  omega

theorem Spare.held (linked : workspace.Linked) {depth handle child : Nat} {place : Place}
    (spare : workspace.Spare (depth + 1) handle)
    (holds : workspace.held? handle place = some child) : workspace.Spare depth child := by
  obtain ⟨steps, top, reached, enough⟩ := spare
  refine ⟨steps + 1, top, ?_, by omega⟩
  rw [climb, linked.parent_of_held holds]
  exact reached

variable {base : Nat}

private theorem settled_saveInput (grown : workspace.Grown base) {depth handle : Nat} {kind : Kind}
    (spare : workspace.Spare depth handle) (found : workspace.kind? handle = some kind)
    (value : kind.isValue = true) : (workspace.source.saveInput depth handle).Settled := by
  induction depth generalizing handle kind with
  | zero => exact absurd (spare.pos grown.linked (lt_size_of_kind? found)) (Nat.lt_irrefl 0)
  | succ depth inductionHypothesis =>
      obtain ⟨expression, saved⟩ := workspace.source.exists_saveExpression
        (workspace.source.inputOr .empty depth handle) handle value
      rw [Source.saveInput_succ, source_kind?, found, Option.bind_some, saved]
      refine Source.settled_asInput _ (Source.normal_saveExpression ?_ saved)
      intro socket has child plugged
      rw [source_value found has] at plugged
      obtain ⟨below, kindBelow, valueBelow⟩ := grown.fitting.value_of_held found has plugged
      exact inductionHypothesis (spare.held grown.linked plugged) kindBelow valueBelow

private theorem settled_saveChain (grown : workspace.Grown base) {depth : Nat} {head : Option Nat}
    (hung : ∀ handle ∈ head, workspace.Spare depth handle ∧ workspace.Chainable handle) :
    (workspace.source.saveChain depth head).Settled := by
  induction depth generalizing head with
  | zero => exact Chain.settled_nil
  | succ depth inductionHypothesis =>
      cases head with
      | none => exact Chain.settled_nil
      | some handle =>
          obtain ⟨spare, kind, found, previous⟩ := hung handle rfl
          have below {place : Place} {child : Nat}
              (holds : workspace.held? handle place = some child)
              (chainable : workspace.Chainable child) :
              workspace.Spare depth child ∧ workspace.Chainable child :=
            ⟨spare.held grown.linked holds, chainable⟩
          have rest : (workspace.source.saveChain depth (workspace.source.next handle)).Settled :=
            inductionHypothesis fun child follows => by
              have holds : workspace.held? handle .after = some child := follows
              exact below holds (grown.fitting.chainable_of_next found holds).2
          obtain ⟨statement, saved, same⟩ := workspace.source.exists_saveFields depth handle
            (fun socket =>
              workspace.source.saveChain depth (workspace.source.statement handle socket)) kind
          have settled : statement.Settled := by
            refine Source.settled_saveFields ?_ ?_ saved
            · intro socket has child plugged
              rw [source_value found has] at plugged
              obtain ⟨_, kindBelow, value⟩ := grown.fitting.value_of_held found has plugged
              exact settled_saveInput grown (spare.held grown.linked plugged) kindBelow value
            · intro socket has
              refine inductionHypothesis fun child plugged => ?_
              rw [source_statement found has] at plugged
              exact below plugged (grown.fitting.chainable_of_held found has plugged)
          have last : kind = .breakLoop →
              workspace.source.saveChain depth (workspace.source.next handle) = .nil := by
            rintro rfl
            cases follows : workspace.source.next handle with
            | none => cases depth <;> rfl
            | some child => cases (grown.fitting.chainable_of_next found follows).1
          have notStart : kind ≠ .start := by
            rintro rfl
            cases previous
          have isStatement : kind.isValue = false := by
            cases value : kind.isValue with
            | false => rfl
            | true => simp [Kind.hasPrevious, value] at previous
          rw [Source.saveChain_succ, source_kind?, found, Option.bind_some, saved]
          refine ⟨⟨⟨?_, ?_, ?_⟩, settled.placed, rest.placed⟩, ⟨settled.inRange, rest.inRange⟩, ?_⟩
          · rw [same]
            exact notStart
          · rw [same]
            exact isStatement
          · rw [same]
            exact last
          · show Chain.link _ statement.normal _ = _
            rw [settled.normal, rest.normal]

/-- The ids below a place of a block. -/
def idsBelow (workspace : Workspace) (depth handle : Nat) (place : Place) : List String :=
  (workspace.subtree depth (workspace.held? handle place)).filterMap workspace.id?

private theorem ids_subtree_succ {handle : Nat} {kind : Kind}
    (found : workspace.kind? handle = some kind) (depth : Nat) :
    (workspace.subtree (depth + 1) (some handle)).filterMap workspace.id? =
      (workspace.id? handle).toList ++
        ((kind.valueSockets.flatMap fun socket =>
            workspace.idsBelow depth handle (.socket socket)) ++
          ((kind.statementSockets.flatMap fun socket =>
              workspace.idsBelow depth handle (.socket socket)) ++
            workspace.idsBelow depth handle .after)) := by
  rw [subtree_succ found, ← List.singleton_append, List.filterMap_append, List.filterMap_flatMap,
    Kind.places, List.flatMap_append, List.flatMap_append, List.flatMap_map, List.flatMap_map,
    List.flatMap_singleton]
  cases named : workspace.id? handle with
  | none =>
      rw [List.filterMap_cons_none named]
      rfl
  | some id =>
      rw [List.filterMap_cons_some named]
      rfl

private theorem ids_inputs {handle : Nat} {kind : Kind} {depth : Nat}
    (found : workspace.kind? handle = some kind)
    (inside : ∀ child, (workspace.source.saveInput depth child).ids.Sublist
      ((workspace.subtree depth (some child)).filterMap workspace.id?)) :
    (kind.valueSockets.flatMap fun socket =>
        (workspace.source.inputOr .empty depth handle socket).ids).Sublist
      (kind.valueSockets.flatMap fun socket =>
        workspace.idsBelow depth handle (.socket socket)) := by
  refine List.Sublist.flatMap_right _ fun socket has => ?_
  rw [Source.inputOr, source_value found has, idsBelow]
  cases workspace.held? handle (.socket socket) with
  | none => exact List.nil_sublist _
  | some child => exact inside child

private theorem ids_saveInput (depth handle : Nat) :
    (workspace.source.saveInput depth handle).ids.Sublist
      ((workspace.subtree depth (some handle)).filterMap workspace.id?) := by
  induction depth generalizing handle with
  | zero => exact List.nil_sublist _
  | succ depth inductionHypothesis =>
      rw [Source.saveInput_succ, source_kind?]
      cases found : workspace.kind? handle with
      | none => exact List.nil_sublist _
      | some kind =>
          rw [Option.bind_some, ids_subtree_succ found]
          cases saved : workspace.source.saveExpression
              (workspace.source.inputOr .empty depth handle) handle kind with
          | none => exact List.nil_sublist _
          | some expression =>
              have inputs := ids_inputs found inductionHypothesis
              rw [← Source.ids_saveExpression saved] at inputs
              refine (Source.ids_asInput _ expression).trans ?_
              exact (List.Sublist.refl _).append
                (inputs.trans (List.sublist_append_left _ _))

private theorem ids_saveChain (depth : Nat) (head : Option Nat) :
    (workspace.source.saveChain depth head).ids.Sublist
      ((workspace.subtree depth head).filterMap workspace.id?) := by
  induction depth generalizing head with
  | zero => exact List.nil_sublist _
  | succ depth inductionHypothesis =>
      cases head with
      | none => exact List.nil_sublist _
      | some handle =>
          rw [Source.saveChain_succ, source_kind?]
          cases found : workspace.kind? handle with
          | none =>
              have outside : workspace.block? handle = none :=
                Option.map_eq_none_iff.mp (Option.map_eq_none_iff.mp found)
              have alone : workspace.source.next handle = none := by
                rw [source_next, held?, outside]
                rfl
              rw [subtree_of_kind?_eq_none found]
              show (workspace.source.saveChain depth (workspace.source.next handle)).ids.Sublist _
              rw [alone]
              cases depth <;> exact List.nil_sublist _
          | some kind =>
              obtain ⟨statement, saved, _⟩ := workspace.source.exists_saveFields depth handle
                (fun socket =>
                  workspace.source.saveChain depth (workspace.source.statement handle socket)) kind
              have inputs := ids_inputs found (ids_saveInput depth)
              have chains : (kind.statementSockets.flatMap fun socket =>
                  (workspace.source.saveChain depth
                    (workspace.source.statement handle socket)).ids).Sublist
                  (kind.statementSockets.flatMap fun socket =>
                    workspace.idsBelow depth handle (.socket socket)) := by
                refine List.Sublist.flatMap_right _ fun socket has => ?_
                rw [source_statement found has]
                exact inductionHypothesis _
              have rest := inductionHypothesis (workspace.source.next handle)
              rw [Option.bind_some, saved, ids_subtree_succ found]
              refine (List.Sublist.refl _).append ?_
              rw [Source.ids_saveFields saved, List.append_assoc]
              exact inputs.append (chains.append rest)

theorem start_of_start? {handle : Nat} (found : workspace.source.start? = some handle) :
    workspace.kind? handle = some .start := by
  have named := List.find?_some found
  simp only [source, beq_iff_eq, Option.map_eq_some_iff] at named
  obtain ⟨block, there, same⟩ := named
  rw [kind?_of_block? there, Kind.name_inj.mp same]

/-- The program that is saved of a workspace can be built, and comes back as it is. -/
theorem editable_save (grown : workspace.Grown base) {content : Program}
    (saved : workspace.save = .program content) :
    content.Editable ∧ content.normal = content := by
  have hasDo : "DO" ∈ Kind.start.statementSockets := by decide
  rw [save, Source.save] at saved
  cases begin : workspace.source.start? with
  | none =>
      rw [begin] at saved
      cases saved
  | some handle =>
      rw [begin] at saved
      cases saved
      have found := start_of_start? begin
      have settled : (workspace.source.saveChain workspace.blocks.size
          (workspace.source.statement handle "DO")).Settled := by
        refine settled_saveChain grown fun child plugged => ?_
        rw [source_statement found hasDo] at plugged
        exact ⟨Spare.start (Nat.le_refl _) child,
          grown.fitting.chainable_of_held found hasDo plugged⟩
      have distinct := nodup_ids_subtree grown (workspace.blocks.size + 1) (some handle)
      have inside := @ids_saveChain workspace workspace.blocks.size
        (workspace.source.statement handle "DO")
      rw [source_statement found hasDo] at inside
      refine ⟨⟨rfl, settled.placed, settled.inRange, distinct.sublist ?_⟩, ?_⟩
      · rw [ids_subtree_succ found, Program.ids, Source.saveProgram, source_statement found hasDo]
        refine (List.Sublist.refl _).append ?_
        exact (inside.append (List.Sublist.refl [])).trans (List.sublist_append_left _ _)
      · exact congrArg (fun actions => (⟨_, actions, .nil⟩ : Program)) settled.normal

end Workspace

end Marquee
