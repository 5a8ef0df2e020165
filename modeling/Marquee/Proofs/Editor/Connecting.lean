import Marquee.Proofs.Editor.Forest
import Marquee.Proofs.Editor.Logging

/-!
# What a connection does

A request for a connection is granted exactly if it fits, and then it changes the connections of
the two blocks, and nothing else. The work on it is done in steps that look up a block each and
would fail if it were not there: in a workspace that has grown by requests no step fails once the
request has passed the checks, so that a request is done as a whole or not at all.
-/

open Relation

namespace Marquee

namespace Connection

/-- Where the child is to hang. -/
def place {β : Type} : Connection β → Place
  | statement _ socket _ => .socket socket
  | value _ socket _ => .socket socket
  | next _ _ => .after

/-- The parent has the place that is asked for, and the child the connection that goes with it. -/
def Fits {β : Type} (above below : Kind) : Connection β → Prop
  | statement _ socket _ => socket ∈ above.statementSockets ∧ below.hasPrevious = true
  | value _ socket _ => socket ∈ above.valueSockets ∧ below.isValue = true
  | next _ _ => above.hasNext = true ∧ below.hasPrevious = true

/-- Both blocks are there, they fit, and the child is neither the parent nor above it. -/
def Allowed (connection : Connection Nat) (workspace : Workspace) : Prop :=
  (∃ above below, workspace.kind? connection.parent = some above ∧
    workspace.kind? connection.child = some below ∧ connection.Fits above below) ∧
  connection.child ≠ connection.parent ∧
  ¬ TransGen workspace.HangsOn connection.parent connection.child

end Connection

/-- A block that holds another at one of its places. -/
structure Edge where
  holder : Nat
  place : Place
  child : Nat
  deriving DecidableEq

def Connection.edge (connection : Connection Nat) : Edge :=
  ⟨connection.parent, connection.place, connection.child⟩

namespace Workspace

def edges (workspace : Workspace) : Set Edge :=
  {edge | workspace.held? edge.holder edge.place = some edge.child}

/-- What a connection that is granted makes of a workspace. -/
structure Connected (connection : Connection Nat) (before after : Workspace) : Prop where
  /-- The child leaves its old place, and what was at its new place leaves that. -/
  edges : after.edges =
    insert connection.edge
      ((before.edges \ {edge | edge.child = connection.child}) \
        {edge | edge.holder = connection.parent ∧ edge.place = connection.place})
  /-- The blocks know it. -/
  parent? : ∀ other, after.parent? other =
    if other = connection.child then some connection.parent
    else if before.held? connection.parent connection.place = some other then none
    else before.parent? other
  displaced : ∀ occupant, before.held? connection.parent connection.place = some occupant →
    occupant ≠ connection.child → occupant ∈ after.tops
  sameBlocks : SameBlocks before after

theorem allowed_iff {workspace : Workspace} (linked : workspace.Linked)
    {connection : Connection Nat} :
    connection.Allowed workspace ↔
      ∃ above below, workspace.kind? connection.parent = some above ∧
        workspace.kind? connection.child = some below ∧ connection.Fits above below ∧
        workspace.isAncestor connection.child connection.parent = false := by
  have free : workspace.isAncestor connection.child connection.parent = false ↔
      connection.child ≠ connection.parent ∧
        ¬ TransGen workspace.HangsOn connection.parent connection.child := by
    rw [← Bool.not_eq_true, isAncestor_iff linked, reflTransGen_iff_eq_or_transGen, not_or]
  simp only [Connection.Allowed, free, ← exists_and_right, and_assoc]

def refusal? (workspace : Workspace) : Connection Nat → Option Refusal
  | .statement parent socket child =>
    workspace.plugRefusal? Kind.statementSockets statementFault? parent socket child
  | .value parent socket child =>
    workspace.plugRefusal? Kind.valueSockets valueFault? parent socket child
  | .next previous child => workspace.linkRefusal? previous child

theorem refusal?_eq_none_iff {workspace : Workspace} (linked : workspace.Linked)
    {connection : Connection Nat} :
    workspace.refusal? connection = none ↔ connection.Allowed workspace := by
  rw [allowed_iff linked]
  cases connection with
  | statement parent socket child =>
      simp only [refusal?, plugRefusal?_eq_none_iff, statementFault?_eq_none_iff,
        Connection.parent, Connection.child, Connection.Fits, and_assoc]
  | value parent socket child =>
      simp only [refusal?, plugRefusal?_eq_none_iff, valueFault?_eq_none_iff, Connection.parent,
        Connection.child, Connection.Fits, and_assoc]
  | next previous child =>
      simp only [refusal?, linkRefusal?_eq_none_iff, Connection.parent, Connection.child,
        Connection.Fits, and_assoc]

/-- All connections are made in one way, when their checks are passed. -/
theorem sink_connect (workspace : Workspace) (connection : Connection Nat) :
    sink.connect connection workspace =
      match workspace.refusal? connection with
      | some refusal => (.error refusal, workspace)
      | none =>
        (.ok (), workspace.attach connection.parent connection.place connection.child) := by
  cases connection with
  | statement parent socket child =>
      simp only [Sink.connect, sink, connectStatement, refusal?, plug_eq_attach]
      cases workspace.plugRefusal? Kind.statementSockets statementFault? parent socket child <;> rfl
  | value parent socket child =>
      simp only [Sink.connect, sink, connectValue, refusal?, plug_eq_attach]
      cases workspace.plugRefusal? Kind.valueSockets valueFault? parent socket child <;> rfl
  | next previous child =>
      simp only [Sink.connect, sink, connectNext, refusal?, link_eq_attach]
      cases workspace.linkRefusal? previous child <;> rfl

theorem edges_attach {workspace : Workspace} (linked : workspace.Linked) {parent : Nat}
    (inside : parent < workspace.blocks.size) (place : Place) (child : Nat) :
    (workspace.attach parent place child).edges =
      insert ⟨parent, place, child⟩
        ((workspace.edges \ {edge | edge.child = child}) \
          {edge | edge.holder = parent ∧ edge.place = place}) := by
  ext ⟨holder, other, held⟩
  simp only [edges, Set.mem_ofPred_eq, held?_attach linked inside, Set.mem_insert_iff,
    Set.mem_sdiff, Edge.mk.injEq]
  by_cases here : holder = parent ∧ other = place
  · simp [here, eq_comm]
  · rw [if_neg here]
    have elsewhere : ¬ (holder = parent ∧ other = place ∧ held = child) :=
      fun same => here ⟨same.1, same.2.1⟩
    by_cases moved : workspace.held? holder other = some child
    · rw [if_pos moved, moved]
      constructor
      · intro nothing
        cases nothing
      · rintro (same | ⟨⟨holds, different⟩, _⟩)
        · exact absurd same elsewhere
        · exact absurd (Option.some.inj holds).symm different
    · rw [if_neg moved]
      constructor
      · intro holds
        refine Or.inr ⟨⟨holds, ?_⟩, here⟩
        rintro rfl
        exact moved holds
      · rintro (same | ⟨⟨holds, _⟩, _⟩)
        · exact absurd same elsewhere
        · exact holds

theorem connected_attach {workspace : Workspace} (linked : workspace.Linked)
    {connection : Connection Nat} (parentInside : connection.parent < workspace.blocks.size)
    (childInside : connection.child < workspace.blocks.size) :
    Connected connection workspace
      (workspace.attach connection.parent connection.place connection.child) where
  edges := edges_attach linked parentInside _ _
  parent? := parent?_attach linked childInside _
  displaced occupant holds different := by
    rw [mem_tops_iff, (sameBlocks_attach ..).size, parent?_attach linked childInside,
      if_neg different, if_pos holds]
    exact ⟨lt_size_of_parent? (linked.parent_of_held holds), rfl⟩
  sameBlocks := sameBlocks_attach ..

/-- Work on a workspace that may fail at any step. What was done before stays. -/
abbrev Steps : Type → Type :=
  ExceptT Refusal (StateM Workspace)

namespace Steps

def look (handle : Nat) : Steps Block := do
  match (← get).block? handle with
  | some block => pure block
  | none => throw .unknownBlock

def change (handle : Nat) (rewrite : Block → Block) : Steps Unit := do
  let _ ← look handle
  set ((← get).modify handle rewrite)

def detach (child : Nat) : Steps Unit := do
  match (← look child).parent with
  | none => pure ()
  | some parent => do
    change parent (Block.release child)
    change child (Block.hangOn none)

def vacate (parent : Nat) (place : Place) : Steps Unit := do
  match (← look parent).held? place with
  | none => pure ()
  | some occupant => detach occupant

def fasten (parent : Nat) (place : Place) (child : Nat) : Steps Unit := do
  change parent (Block.hold place child)
  change child (Block.hangOn (some parent))

/-- The checks come first. -/
def connect (connection : Connection Nat) : Steps Unit := do
  match (← get).refusal? connection with
  | some refusal => throw refusal
  | none => do
    detach connection.child
    vacate connection.parent connection.place
    fasten connection.parent connection.place connection.child

/-- The work is done, and makes one workspace of another. -/
def Does {α : Type} (work : Steps α) (before : Workspace) (value : α) (after : Workspace) : Prop :=
  work.run.run before = (.ok value, after)

section

variable {α γ : Type} {work : Steps α} {rest : α → Steps γ} {before middle after : Workspace}
  {value : α} {result : γ}

theorem Does.run_bind (first : Does work before value middle) (rest : α → Steps γ) :
    (work >>= rest).run.run before = (rest value).run.run middle := by
  unfold Does at first
  rw [ExceptT.run_bind, StateT.run_bind, first]
  rfl

theorem Does.andThen (first : Does work before value middle)
    (second : Does (rest value) middle result after) : Does (work >>= rest) before result after :=
  (first.run_bind rest).trans second

end

private theorem does_look {workspace : Workspace} {handle : Nat} {block : Block}
    (found : workspace.block? handle = some block) :
    Does (look handle) workspace block workspace := by
  have read : Does get workspace workspace workspace := rfl
  refine read.andThen ?_
  rw [found]
  rfl

private theorem does_change {workspace : Workspace} {handle : Nat}
    (inside : handle < workspace.blocks.size) (rewrite : Block → Block) :
    Does (change handle rewrite) workspace () (workspace.modify handle rewrite) := by
  obtain ⟨block, found⟩ := exists_block? inside
  exact (does_look found).andThen rfl

/-- Nothing is missing where the two ends of a connection are known to each other. -/
theorem does_detach {workspace : Workspace} (linked : workspace.Linked) {child : Nat}
    (inside : child < workspace.blocks.size) :
    Does (detach child) workspace () (workspace.detach child) := by
  obtain ⟨block, found⟩ := exists_block? inside
  refine (does_look found).andThen ?_
  have above : workspace.parent? child = block.parent := by
    rw [Workspace.parent?, found, Option.bind_some]
  cases hangs : block.parent with
  | none =>
      rw [hangs] at above
      rw [detach_of_top above]
      rfl
  | some parent =>
      rw [hangs] at above
      obtain ⟨place, holds⟩ := linked.held_of_parent above
      rw [detach_of_parent above]
      refine (does_change (lt_size_of_held? holds) _).andThen (does_change ?_ _)
      rw [size_modify]
      exact inside

private theorem does_vacate {workspace : Workspace} (linked : workspace.Linked) {parent : Nat}
    (inside : parent < workspace.blocks.size) (place : Place) :
    Does (vacate parent place) workspace () (workspace.vacate parent place) := by
  obtain ⟨block, found⟩ := exists_block? inside
  refine (does_look found).andThen ?_
  have here : workspace.held? parent place = block.held? place := by
    rw [Workspace.held?, found, Option.bind_some]
  rw [Workspace.vacate, here]
  cases holds : block.held? place with
  | none => rfl
  | some occupant =>
      rw [holds] at here
      exact does_detach linked (lt_size_of_parent? (linked.parent_of_held here))

private theorem does_fasten {workspace : Workspace} {parent child : Nat}
    (parentInside : parent < workspace.blocks.size) (childInside : child < workspace.blocks.size)
    (place : Place) :
    Does (fasten parent place child) workspace () (workspace.fasten parent place child) := by
  refine (does_change parentInside _).andThen (does_change ?_ _)
  rw [size_modify]
  exact childInside

/-- Past the checks no step fails, and the steps together are the request. -/
theorem run_connect {workspace : Workspace} (linked : workspace.Linked)
    (connection : Connection Nat) :
    (connect connection).run.run workspace = sink.connect connection workspace := by
  have read : Does get workspace workspace workspace := rfl
  rw [sink_connect]
  refine (read.run_bind _).trans ?_
  cases refused : workspace.refusal? connection with
  | some refusal => rfl
  | none =>
      obtain ⟨⟨above, below, kindAbove, kindBelow, _⟩, _⟩ :=
        (refusal?_eq_none_iff linked).mp refused
      have detached := linked_detach linked connection.child
      have size := (sameBlocks_detach workspace connection.child).size
      have sizeBumped :=
        (sameBlocks_vacate (workspace.detach connection.child) connection.parent
          connection.place).size.trans size
      refine (does_detach linked (lt_size_of_kind? kindBelow)).andThen ?_
      refine (does_vacate detached ?_ connection.place).andThen (does_fasten ?_ ?_ _)
      · rw [size]
        exact lt_size_of_kind? kindAbove
      · rw [sizeBumped]
        exact lt_size_of_kind? kindAbove
      · rw [sizeBumped]
        exact lt_size_of_kind? kindBelow

end Steps

/-- Whatever was asked of a new workspace before: a connection is made exactly if it is allowed, it
changes the connections of the two blocks and the place of what was in the way, and nothing changes
when it is refused. This is also what the steps of the work do, one after the other. -/
theorem connect_exact (edits : List Edit) (connection : Connection Nat) :
    let before := empty.edited edits
    let answer := sink.connect connection before
    (answer.1 = .ok () ↔ connection.Allowed before) ∧
      (answer.1 = .ok () → Connected connection before answer.2) ∧
      (∀ refusal, answer.1 = .error refusal → answer.2 = before) ∧
      (Steps.connect connection).run.run before = answer := by
  intro before answer
  have noBlocks : empty.blocks = #[] := rfl
  have fresh : empty.Grown 0 := grown_of_no_blocks noBlocks
  obtain ⟨base, grown⟩ := exists_grown_edited fresh edits
  have linked : before.Linked := grown.linked
  have allowed : before.refusal? connection = none ↔ connection.Allowed before :=
    refusal?_eq_none_iff linked
  have given : answer = _ := sink_connect before connection
  refine ⟨?_, ?_, ?_, Steps.run_connect linked connection⟩
  · rw [given, ← allowed]
    cases before.refusal? connection <;> simp
  · intro granted
    rw [given] at granted ⊢
    cases refused : before.refusal? connection with
    | some refusal =>
        rw [refused] at granted
        cases granted
    | none =>
        obtain ⟨⟨above, below, kindAbove, kindBelow, _⟩, _⟩ := allowed.mp refused
        exact connected_attach linked (lt_size_of_kind? kindAbove) (lt_size_of_kind? kindBelow)
  · intro refusal refused
    rw [given] at refused ⊢
    cases found : before.refusal? connection with
    | some reason => rfl
    | none =>
        rw [found] at refused
        cases refused

/-- What is in the way may be what the child hangs on. -/
example :
    let before := empty.edited
      [.add .wait, .add .wait, .add .gpio, .connectNext 0 1, .connectNext 1 2]
    let after := (sink.connect (.next 0 2) before).2
    after.tops = [0, 1] ∧ after.held? 0 .after = some 2 ∧ after.held? 1 .after = none :=
  ⟨rfl, rfl, rfl⟩

end Workspace

end Marquee
