import Marquee.Proofs.Editor.Adjoining
import Marquee.Proofs.Editor.Saving
import Marquee.Proofs.Editor.Shown

/-!
# Work on loose blocks

What is saved hangs on the first start block. A connection that is made between other blocks takes a
block away from where it was, and another one out of its way, but in a forest neither of the two, nor
what held them, lies below the start block. So work on blocks that do not lie there leaves the saved
program as it is.
-/

open Relation

namespace Marquee

namespace Source

variable {β : Type} {first second : Source β} {block : β}

private theorem saveExpression_congr (fields : first.field block = second.field block)
    (inputIn : String → Input) (kind : Kind) :
    first.saveExpression inputIn block kind = second.saveExpression inputIn block kind := by
  cases kind <;>
    simp only [saveExpression, intOr, int?, byteUpTo, choice, variableName, color, textOr, text?,
      fields]

private theorem saveFields_congr {depth more : Nat}
    (fields : first.field block = second.field block)
    (inputs : ∀ default, first.inputOr default depth block = second.inputOr default more block)
    (chainIn : String → Chain) (kind : Kind) :
    first.saveFields depth block chainIn kind = second.saveFields more block chainIn kind := by
  cases kind <;>
    simp only [saveFields, saveExpression_congr fields, intOr, int?, pin, byteUpTo, level, choice,
      duration, variableName, ownColor, textOr, text?, fields, inputs]

end Source

namespace Workspace

/-- A block and all that is below it. -/
def tree (workspace : Workspace) (top : Nat) : Set Nat :=
  {handle | ReflTransGen workspace.HangsOn handle top}

/-- No block that is asked for lies in the tree. Clearing asks for all blocks, and a load for none
but those that it makes. -/
def Edit.Spares (tree : Set Nat) : Edit → Prop
  | .add _ => True
  | .setField handle _ _ => handle ∉ tree
  | .connectStatement parent _ child => parent ∉ tree ∧ child ∉ tree
  | .connectValue parent _ child => parent ∉ tree ∧ child ∉ tree
  | .connectNext previous next => previous ∉ tree ∧ next ∉ tree
  | .clear => False
  | .load _ => True
  | .loadText _ => True

section

variable {workspace : Workspace} {top handle : Nat}

private theorem top_mem_tree (workspace : Workspace) (top : Nat) : top ∈ workspace.tree top :=
  .refl

theorem Linked.mem_tree_of_held (linked : workspace.Linked) {holder child : Nat} {place : Place}
    (inside : holder ∈ workspace.tree top) (holds : workspace.held? holder place = some child) :
    child ∈ workspace.tree top :=
  .head (linked.parent_of_held holds) inside

private theorem mem_tree_of_parent (topmost : workspace.parent? top = none) {parent : Nat}
    (inside : handle ∈ workspace.tree top) (hangs : workspace.parent? handle = some parent) :
    parent ∈ workspace.tree top := by
  rcases ReflTransGen.cases_head inside with rfl | ⟨above, step, path⟩
  · rw [topmost] at hangs
    cases hangs
  · have same : some above = some parent := step.symm.trans hangs
    cases same
    exact path

private theorem lt_size_of_mem_tree (topInside : top < workspace.blocks.size)
    (inside : handle ∈ workspace.tree top) : handle < workspace.blocks.size := by
  rcases ReflTransGen.cases_head inside with rfl | ⟨above, step, _⟩
  · exact topInside
  · exact lt_size_of_parent? step

end

/-! ## What work elsewhere leaves as it was -/

/-- Nothing has changed at the blocks of a tree: not what they are, nor what they hold or hang on.
The other blocks are still of their kinds. -/
structure Untouched (tree : Set Nat) (before after : Workspace) : Prop where
  size : before.blocks.size ≤ after.blocks.size
  kind? : ∀ handle < before.blocks.size, after.kind? handle = before.kind? handle
  own? : ∀ handle ∈ tree, after.own? handle = before.own? handle
  held? : ∀ holder ∈ tree, after.held? holder = before.held? holder
  parent? : ∀ handle ∈ tree, after.parent? handle = before.parent? handle

namespace Untouched

variable {before now after : Workspace} {top : Nat}

theorem refl (tree : Set Nat) (workspace : Workspace) : Untouched tree workspace workspace :=
  ⟨Nat.le_refl _, fun _ _ => rfl, fun _ _ => rfl, fun _ _ => rfl, fun _ _ => rfl⟩

theorem trans {tree : Set Nat} (earlier : Untouched tree before now)
    (later : Untouched tree now after) : Untouched tree before after where
  size := Nat.le_trans earlier.size later.size
  kind? handle inside :=
    (later.kind? handle (Nat.lt_of_lt_of_le inside earlier.size)).trans
      (earlier.kind? handle inside)
  own? handle inside := (later.own? handle inside).trans (earlier.own? handle inside)
  held? holder inside := (later.held? holder inside).trans (earlier.held? holder inside)
  parent? handle inside := (later.parent? handle inside).trans (earlier.parent? handle inside)

/-- Blocks that are kept as they are, with others added behind them. -/
theorem of_kept {tree : Set Nat} (bounded : ∀ handle ∈ tree, handle < before.blocks.size)
    (size : before.blocks.size ≤ after.blocks.size)
    (kept : ∀ handle < before.blocks.size, after.block? handle = before.block? handle) :
    Untouched tree before after where
  size := size
  kind? handle inside := by rw [Workspace.kind?, Workspace.kind?, Workspace.own?,
    Workspace.own?, kept handle inside]
  own? handle inside := by rw [Workspace.own?, Workspace.own?, kept handle (bounded handle inside)]
  held? holder inside := by
    funext place
    rw [Workspace.held?, Workspace.held?, kept holder (bounded holder inside)]
  parent? handle inside := by
    rw [Workspace.parent?, Workspace.parent?, kept handle (bounded handle inside)]

theorem writeField {tree : Set Nat} {handle : Nat} (outside : handle ∉ tree) (field : String)
    (value : FieldValue) : Untouched tree before (before.writeField handle field value) where
  size := Nat.le_of_eq (size_modify ..).symm
  kind? _ _ := by rw [kind?_writeField]
  own? other inside := by
    have elsewhere : handle ≠ other := fun same => outside (same ▸ inside)
    rw [own?_writeField, if_neg elsewhere]
  held? _ _ := by rw [held?_writeField]
  parent? _ _ := by rw [parent?_writeField]

/-- Neither the block that moves, nor the one that makes way for it, nor what held them before is in
the tree. -/
theorem attach (linked : before.Linked) (topmost : before.parent? top = none)
    {parent child : Nat} (parentInside : parent < before.blocks.size)
    (childInside : child < before.blocks.size) (parentApart : parent ∉ before.tree top)
    (childApart : child ∉ before.tree top) (place : Place) :
    Untouched (before.tree top) before (before.attach parent place child) where
  size := Nat.le_of_eq (sameBlocks_attach ..).size.symm
  kind? _ _ := by rw [(sameBlocks_attach ..).kind?]
  own? _ _ := by rw [(sameBlocks_attach ..).own?]
  held? holder inside := by
    funext other
    have elsewhere : ¬ (holder = parent ∧ other = place) := fun here =>
      parentApart (here.1 ▸ inside)
    have notMoved : before.held? holder other ≠ some child := fun holds =>
      childApart (linked.mem_tree_of_held inside holds)
    rw [held?_attach linked parentInside, if_neg elsewhere, if_neg notMoved]
  parent? other inside := by
    have notMoved : other ≠ child := fun same => childApart (same ▸ inside)
    have notBumped : before.held? parent place ≠ some other := fun holds =>
      parentApart (mem_tree_of_parent topmost inside (linked.parent_of_held holds))
    rw [parent?_attach linked childInside, if_neg notMoved, if_neg notBumped]

theorem connect (linked : before.Linked) (topmost : before.parent? top = none)
    (connection : Connection Nat) (parentApart : connection.parent ∉ before.tree top)
    (childApart : connection.child ∉ before.tree top) :
    Untouched (before.tree top) before (sink.connect connection before).2 := by
  rw [sink_connect]
  cases asked : before.refusal? connection with
  | some refusal => exact .refl _ _
  | none =>
      obtain ⟨above, below, kindAbove, kindBelow, _⟩ :=
        (allowed_iff linked).mp ((refusal?_eq_none_iff linked).mp asked)
      exact attach linked topmost (lt_size_of_kind? kindAbove) (lt_size_of_kind? kindBelow)
        parentApart childApart connection.place

theorem load (topInside : top < before.blocks.size) (program : Program) :
    Untouched (before.tree top) before (program.load sink before).2 := by
  obtain ⟨_, _, part, whole, _, loaded, beside⟩ := program.load_beside before
  rw [loaded]
  refine of_kept (fun handle inside => lt_size_of_mem_tree topInside inside) ?_ beside.kept
  rw [beside.size]
  exact Nat.le_add_left _ _

/-- A step of work that spares the tree of a top block leaves it untouched. -/
theorem edit (linked : before.Linked) (topInside : top < before.blocks.size)
    (topmost : before.parent? top = none) {step : Edit} (spares : step.Spares (before.tree top)) :
    Untouched (before.tree top) before (before.edit step) := by
  have bounded : ∀ handle ∈ before.tree top, handle < before.blocks.size :=
    fun _ inside => lt_size_of_mem_tree topInside inside
  cases step with
  | add kind =>
      refine of_kept bounded ?_ fun handle inside => ?_
      · change before.blocks.size ≤ (before.blocks.push _).size
        rw [Array.size_push]
        exact Nat.le_succ _
      · exact (block?_add before kind handle).trans (if_neg (Nat.ne_of_lt inside))
  | setField handle field value =>
      change Untouched _ before (before.answer (before.setField handle field value)).2
      cases asked : before.setField handle field value with
      | error refusal => exact .refl _ _
      | ok changed =>
          obtain ⟨_, rfl⟩ := setField_eq_ok_iff.mp asked
          exact writeField spares field value
  | connectStatement parent socket child =>
      exact connect linked topmost (.statement parent socket child) spares.1 spares.2
  | connectValue parent socket child =>
      exact connect linked topmost (.value parent socket child) spares.1 spares.2
  | connectNext previous next =>
      exact connect linked topmost (.next previous next) spares.1 spares.2
  | clear => exact spares.elim
  | load program => exact load topInside program
  | loadText text =>
      rw [Workspace.edit, Document.load]
      split
      · exact load topInside _
      · exact .refl _ _

/-- The tree of an untouched block is still the same. -/
theorem tree_eq (linked : before.Linked) (linkedAfter : after.Linked)
    (untouched : Untouched (before.tree top) before after) : after.tree top = before.tree top := by
  ext handle
  constructor
  · intro path
    induction path using ReflTransGen.head_induction_on with
    | refl => exact top_mem_tree before top
    | head hangs _ above =>
        obtain ⟨place, holds⟩ := linkedAfter.held_of_parent hangs
        rw [untouched.held? _ above] at holds
        exact linked.mem_tree_of_held above holds
  · intro path
    induction path using ReflTransGen.head_induction_on with
    | refl => exact top_mem_tree after top
    | @head lower upper hangs path above =>
        have inside : lower ∈ before.tree top := .head hangs path
        exact .head ((untouched.parent? lower inside).trans hangs) above

/-- Any number of steps leave it untouched. -/
theorem edited {base : Nat} (grown : before.Grown base) (topInside : top < before.blocks.size)
    (topmost : before.parent? top = none) {work : List Edit}
    (loose : ∀ step ∈ work, step.Spares (before.tree top)) :
    Untouched (before.tree top) before (before.edited work) := by
  induction work generalizing before base with
  | nil => exact .refl _ _
  | cons step work inductionHypothesis =>
      obtain ⟨here, rest⟩ := List.forall_mem_cons.mp loose
      obtain ⟨_, grownNow⟩ := exists_grown_edit grown step
      have first := edit grown.linked topInside topmost here
      have tree := tree_eq grown.linked grownNow.linked first
      rw [← tree] at rest
      have others := inductionHypothesis grownNow (Nat.lt_of_lt_of_le topInside first.size)
        ((first.parent? top (top_mem_tree before top)).trans topmost) rest
      rw [tree] at others
      exact first.trans others

end Untouched

/-! ## What is saved of an untouched tree -/

private theorem plugged?_congr {before after : Workspace} {handle : Nat}
    (kinds : after.kind? handle = before.kind? handle)
    (holdings : after.held? handle = before.held? handle) (sockets : Kind → List String) :
    after.plugged? sockets handle = before.plugged? sockets handle := by
  have read (workspace : Workspace) (socket : String) :
      workspace.plugged? sockets handle socket =
        (workspace.kind? handle).bind fun kind =>
          if (sockets kind).contains socket then workspace.held? handle (.socket socket)
          else none := by
    simp only [plugged?, kind?, own?, held?]
    cases workspace.block? handle <;> rfl
  funext socket
  rw [read, read, kinds, holdings]

namespace Untouched

variable {before after : Workspace} {top handle : Nat}

section

variable {tree : Set Nat} (untouched : Untouched tree before after) (inside : handle ∈ tree)
include untouched inside

theorem kind?_of_mem : after.kind? handle = before.kind? handle :=
  congrArg (Option.map Block.Own.kind) (untouched.own? handle inside)

theorem source_kind? : after.source.kind? handle = before.source.kind? handle := by
  rw [Workspace.source_kind?, Workspace.source_kind?, untouched.kind?_of_mem inside]

theorem source_id : after.source.id handle = before.source.id handle := by
  have read (workspace : Workspace) :
      workspace.source.id handle = (workspace.own? handle).map Block.Own.id := by
    rw [source, Workspace.own?, Option.map_map]
    rfl
  rw [read, read, untouched.own? handle inside]

theorem source_field : after.source.field handle = before.source.field handle := by
  have read (workspace : Workspace) (field : String) :
      workspace.source.field handle field =
        (workspace.own? handle).bind fun own => own.fields.get? field := by
    rw [source, Workspace.own?, Option.bind_map]
    rfl
  funext field
  rw [read, read, untouched.own? handle inside]

theorem source_value : after.source.value handle = before.source.value handle :=
  plugged?_congr (untouched.kind?_of_mem inside) (untouched.held? handle inside) _

theorem source_statement : after.source.statement handle = before.source.statement handle :=
  plugged?_congr (untouched.kind?_of_mem inside) (untouched.held? handle inside) _

theorem source_next : after.source.next handle = before.source.next handle :=
  congrFun (untouched.held? handle inside) .after

theorem inputOr {depth more : Nat}
    (children : ∀ place child, before.held? handle place = some child →
      after.source.saveInput more child = before.source.saveInput depth child) (default : Input) :
    after.source.inputOr default more handle = before.source.inputOr default depth handle := by
  funext socket
  rw [Source.inputOr, Source.inputOr, untouched.source_value inside]
  cases plugged : before.source.value handle socket with
  | none => rfl
  | some child => exact children _ child (held?_of_plugged? plugged)

end

/-- Where the depth is enough, more of it makes no difference. -/
theorem saveInput (linked : before.Linked) (topInside : top < before.blocks.size)
    (untouched : Untouched (before.tree top) before after) (more : Nat) {depth : Nat}
    (spare : before.Spare depth handle) (inside : handle ∈ before.tree top) :
    after.source.saveInput (depth + more) handle = before.source.saveInput depth handle := by
  induction depth generalizing handle with
  | zero =>
      have deep := spare.pos linked (lt_size_of_mem_tree topInside inside)
      exact absurd deep (Nat.lt_irrefl 0)
  | succ depth inductionHypothesis =>
      have inputs : after.source.inputOr .empty (depth + more) handle =
          before.source.inputOr .empty depth handle := by
        refine untouched.inputOr inside (fun place child holds => ?_) .empty
        exact inductionHypothesis (spare.held linked holds) (linked.mem_tree_of_held inside holds)
      rw [Nat.add_right_comm, Source.saveInput_succ, Source.saveInput_succ,
        untouched.source_kind? inside, untouched.source_id inside, inputs]
      simp only [Source.saveExpression_congr (untouched.source_field inside)]

theorem saveChain (linked : before.Linked) (topInside : top < before.blocks.size)
    (untouched : Untouched (before.tree top) before after) (more : Nat) {depth : Nat}
    {head : Option Nat}
    (hung : ∀ handle ∈ head, before.Spare depth handle ∧ handle ∈ before.tree top) :
    after.source.saveChain (depth + more) head = before.source.saveChain depth head := by
  induction depth generalizing head with
  | zero =>
      cases head with
      | none => cases more <;> rfl
      | some handle =>
          obtain ⟨spare, inside⟩ := hung handle rfl
          have deep := spare.pos linked (lt_size_of_mem_tree topInside inside)
          exact absurd deep (Nat.lt_irrefl 0)
  | succ depth inductionHypothesis =>
      rw [Nat.add_right_comm]
      cases head with
      | none => rfl
      | some handle =>
          obtain ⟨spare, inside⟩ := hung handle rfl
          have below {place : Place} {child : Nat}
              (holds : before.held? handle place = some child) :
              before.Spare depth child ∧ child ∈ before.tree top :=
            ⟨spare.held linked holds, linked.mem_tree_of_held inside holds⟩
          have inputs (default : Input) : after.source.inputOr default (depth + more) handle =
              before.source.inputOr default depth handle := by
            refine untouched.inputOr inside (fun place child holds => ?_) default
            obtain ⟨spareBelow, insideBelow⟩ := below holds
            exact untouched.saveInput linked topInside more spareBelow insideBelow
          have chains : (fun socket => after.source.saveChain (depth + more)
                (after.source.statement handle socket)) =
              fun socket => before.source.saveChain depth
                (before.source.statement handle socket) := by
            funext socket
            rw [untouched.source_statement inside]
            exact inductionHypothesis fun child plugged => below (held?_of_plugged? plugged)
          have rest : after.source.saveChain (depth + more) (before.source.next handle) =
              before.source.saveChain depth (before.source.next handle) := by
            refine inductionHypothesis fun child follows => ?_
            have holds : before.held? handle .after = some child := follows
            exact below holds
          rw [Source.saveChain_succ, Source.saveChain_succ, untouched.source_kind? inside,
            untouched.source_id inside, untouched.source_next inside, rest, chains]
          simp only [Source.saveFields_congr (untouched.source_field inside) inputs]

end Untouched

private theorem handlesWhere_eq (workspace : Workspace) (test : Block → Bool) :
    workspace.handlesWhere test =
      (List.range workspace.blocks.size).filter fun handle =>
        (workspace.block? handle).any test := by
  refine List.filter_congr fun handle _ => ?_
  cases workspace.block? handle <;> rfl

private theorem any_kind (workspace : Workspace) (kind : Kind) (handle : Nat) :
    ((workspace.block? handle).any fun block => block.kind == kind) =
      decide (workspace.kind? handle = some kind) := by
  cases found : workspace.block? handle with
  | none => simp [kind?, own?, found]
  | some block =>
      rw [kind?_of_block? found, Option.any_some, Bool.beq_eq_decide_eq]
      simp

private theorem head?_ofKind_eq_some_iff {workspace : Workspace} {kind : Kind} {handle : Nat} :
    (workspace.ofKind kind).head? = some handle ↔
      workspace.kind? handle = some kind ∧
        ∀ earlier < handle, workspace.kind? earlier ≠ some kind := by
  rw [ofKind, handlesWhere_eq, List.head?_filter, List.find?_range_eq_some]
  simp only [any_kind, decide_eq_true_eq, Bool.not_eq_true', decide_eq_false_iff_not,
    List.mem_range]
  refine and_congr_right fun here => ?_
  rw [and_iff_right (lt_size_of_kind? here)]

/-- A start block hangs on nothing. -/
theorem Grown.parent?_start {base : Nat} {workspace : Workspace} (grown : workspace.Grown base)
    {start : Nat} (found : workspace.kind? start = some .start) :
    workspace.parent? start = none := by
  cases hangs : workspace.parent? start with
  | none => rfl
  | some parent =>
      obtain ⟨place, holds⟩ := grown.linked.held_of_parent hangs
      obtain ⟨above, below, _, kindBelow, joins⟩ := grown.fitting.joins holds
      rw [found] at kindBelow
      cases kindBelow
      cases place with
      | socket name =>
          rcases joins with ⟨_, impossible⟩ | ⟨_, impossible⟩
          · cases impossible
          · cases impossible
      | after => cases joins.2

/-- The program hangs on the first block of kind start. -/
theorem Grown.start?_of_first {base : Nat} {workspace : Workspace} (grown : workspace.Grown base)
    {start : Nat} (first : (workspace.ofKind .start).head? = some start) :
    workspace.source.start? = some start := by
  obtain ⟨found, none⟩ := head?_ofKind_eq_some_iff.mp first
  obtain ⟨block, there, kind⟩ := exists_block?_of_kind? found
  have top := grown.parent?_start found
  rw [parent?, there, Option.bind_some] at top
  have tops : workspace.source.tops = (List.range workspace.blocks.size).filter fun handle =>
      (workspace.block? handle).any fun block => block.parent.isNone :=
    handlesWhere_eq workspace _
  rw [Source.start?, tops, List.find?_filter, List.find?_range_eq_some]
  refine ⟨?_, List.mem_range.mpr (lt_size_of_block? there), fun earlier before => ?_⟩
  · simp [source, there, top, kind]
  · cases earlierFound : workspace.block? earlier with
    | none => rfl
    | some other =>
        have different : other.kind ≠ .start := fun same =>
          none earlier before ((kind?_of_block? earlierFound).trans (congrArg some same))
        have unnamed : other.kind.name ≠ Kind.start.name := mt Kind.name_inj.mp different
        simp [source, earlierFound, unnamed]

/-- What is saved hangs on the first start block, and stays the same as long as nothing changes
below it. -/
theorem Untouched.save {base : Nat} {before after : Workspace} (grown : before.Grown base)
    {baseAfter : Nat} (grownAfter : after.Grown baseAfter) {start : Nat}
    (first : (before.ofKind .start).head? = some start)
    (untouched : Untouched (before.tree start) before after) :
    (after.ofKind .start).head? = some start ∧ after.save = before.save := by
  obtain ⟨found, none⟩ := head?_ofKind_eq_some_iff.mp first
  have startInside := lt_size_of_kind? found
  have inside := top_mem_tree before start
  have firstAfter : (after.ofKind .start).head? = some start := by
    refine head?_ofKind_eq_some_iff.mpr ⟨(untouched.kind? start startInside).trans found, ?_⟩
    intro earlier earlierBefore
    rw [untouched.kind? earlier (Nat.lt_trans earlierBefore startInside)]
    exact none earlier earlierBefore
  refine ⟨firstAfter, ?_⟩
  obtain ⟨more, size⟩ := Nat.exists_eq_add_of_le untouched.size
  have hasDo : "DO" ∈ Kind.start.statementSockets := by decide
  have chain : after.source.saveChain (before.blocks.size + more)
        (before.source.statement start "DO") =
      before.source.saveChain before.blocks.size (before.source.statement start "DO") := by
    refine untouched.saveChain grown.linked startInside more fun child plugged => ?_
    rw [Workspace.source_statement found hasDo] at plugged
    exact ⟨Spare.start (Nat.le_refl _) child, grown.linked.mem_tree_of_held inside plugged⟩
  rw [Workspace.save, Workspace.save, Source.save, Source.save, grown.start?_of_first first,
    grownAfter.start?_of_first firstAfter]
  dsimp only
  have height : after.source.height = before.blocks.size + more := size
  rw [Source.saveProgram, Source.saveProgram, untouched.source_id inside,
    untouched.source_statement inside, height, chain]
  rfl

/-- Work on blocks that do not lie below the first start block, in whatever order and granted or
not, leaves that block the first one, its tree as it was, and what is saved the same. -/
theorem save_edited_of_loose (edits : List Edit) {start : Nat}
    (first : ((empty.edited edits).ofKind .start).head? = some start) {work : List Edit}
    (loose : ∀ step ∈ work, step.Spares ((empty.edited edits).tree start)) :
    let before := empty.edited edits
    let after := before.edited work
    (after.ofKind .start).head? = some start ∧ Untouched (before.tree start) before after ∧
      after.tree start = before.tree start ∧ after.save = before.save := by
  intro before after
  have none : empty.blocks = #[] := rfl
  obtain ⟨_, grown⟩ := exists_grown_edited (grown_of_no_blocks none) edits
  obtain ⟨_, grownAfter⟩ := exists_grown_edited grown work
  have found := (head?_ofKind_eq_some_iff.mp first).1
  have untouched : Untouched (before.tree start) before after :=
    .edited grown (lt_size_of_kind? found) (grown.parent?_start found) loose
  obtain ⟨firstAfter, save⟩ := untouched.save grown grownAfter first
  exact ⟨firstAfter, untouched, untouched.tree_eq grown.linked grownAfter.linked, save⟩

/-- Two start blocks, the first with an image, and the second with a wait for a number. -/
def cluttering : List Edit :=
  [.add .start, .add .displayImage, .connectStatement 0 "DO" 1, .add .start, .add .wait,
    .add .number, .connectStatement 2 "DO" 3, .connectValue 3 "TIME" 4]

/-- The number gives way to another one, and a loop takes the wait. A third start block cannot go
after the loop, and there is no block twelve. -/
def tidying : List Edit :=
  [.add .number, .connectValue 3 "TIME" 5, .add .forever, .connectStatement 6 "DO" 3,
    .setField 5 "NUMBER" (.number 7), .add .start, .connectNext 6 7, .connectNext 6 12]

theorem save_edited_of_loose_tidying :
    let before := empty.edited cluttering
    let after := before.edited tidying
    (before.ofKind .start).head? = some 0 ∧ (∀ step ∈ tidying, step.Spares (before.tree 0)) ∧
      after.save = before.save ∧ after.parent? 4 = none ∧ after.parent? 3 = some 6 := by
  intro before after
  have none : empty.blocks = #[] := rfl
  obtain ⟨_, grown⟩ := exists_grown_edited (grown_of_no_blocks none) cluttering
  have first : (before.ofKind .start).head? = some 0 := by decide +kernel
  have apart : ∀ handle ∈ [3, 5, 6, 7, 12], handle ∉ before.tree 0 := by
    have free : ∀ handle ∈ [3, 5, 6, 7, 12], before.isAncestor 0 handle = false := by
      decide +kernel
    intro handle member inside
    have above := free handle member
    rw [(isAncestor_iff grown.linked).mpr inside] at above
    cases above
  have loose : ∀ step ∈ tidying, step.Spares (before.tree 0) := by
    simp [tidying, Edit.Spares, apart]
  obtain ⟨_, _, _, save⟩ := save_edited_of_loose cluttering first loose
  exact ⟨first, loose, save, by decide +kernel, by decide +kernel⟩

end Workspace

end Marquee
