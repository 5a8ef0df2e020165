import Marquee.Proofs.Editor.Saving

/-!
# Walks without a bound

The search for what lies above a block and the walks that save a program are given here as they go
on, with no bound on their way. They end in every workspace that has grown by requests, for all
handles, also unknown ones, and with the answers that the bounded walks give.
-/

namespace Marquee

/-- The way up from a block in search of a candidate ends with this answer. -/
inductive Workspace.Ascends (workspace : Workspace) (candidate : Nat) : Nat → Bool → Prop
  | here : Ascends workspace candidate candidate true
  | up {handle parent : Nat} {answer : Bool} : handle ≠ candidate →
      workspace.parent? handle = some parent → Ascends workspace candidate parent answer →
      Ascends workspace candidate handle answer
  | top {handle : Nat} : handle ≠ candidate → workspace.parent? handle = none →
      Ascends workspace candidate handle false

namespace Source

variable {β : Type} (source : Source β)

/-- The walk that saves a value block ends with this input. It comes to the blocks in all its
sockets. -/
inductive WritesInput : β → Input → Prop
  | block {block : β} {inputIn : String → Input} :
      (∀ socket child, source.value block socket = some child →
        WritesInput child (inputIn socket)) →
      (∀ socket, source.value block socket = none → inputIn socket = .empty) →
      WritesInput block
        (match (source.kind? block).bind (source.saveExpression inputIn block) with
        | some expression => asInput (source.id block) expression
        | none => .empty)

/-- The walk that saves a chain ends with this one. It comes to the blocks in all sockets, and then
goes on with the block that follows. -/
inductive WritesChain : Option β → Chain → Prop
  | nil : WritesChain none .nil
  | block {block : β} {depth : Nat} {chainIn : String → Chain} {rest : Chain} :
      (∀ socket child, source.value block socket = some child →
        source.WritesInput child (source.saveInput depth child)) →
      (∀ socket, WritesChain (source.statement block socket) (chainIn socket)) →
      WritesChain (source.next block) rest →
      WritesChain (some block)
        (match (source.kind? block).bind (source.saveFields depth block chainIn) with
        | some statement => .link (source.id block) statement rest
        | none => rest)

variable {source} {block : β}

/-- Nothing is written for a block of no kind. -/
theorem WritesInput.bare (unknown : source.kind? block = none)
    (value : ∀ socket, source.value block socket = none) : source.WritesInput block .empty := by
  have written : source.WritesInput block
      (match (source.kind? block).bind (source.saveExpression (fun _ => .empty) block) with
      | some expression => asInput (source.id block) expression
      | none => .empty) :=
    .block (fun socket child plugged => by
      rw [value] at plugged
      cases plugged) fun _ _ => rfl
  rwa [unknown] at written

theorem WritesChain.bare (unknown : source.kind? block = none)
    (value : ∀ socket, source.value block socket = none)
    (statement : ∀ socket, source.statement block socket = none)
    (next : source.next block = none) : source.WritesChain (some block) .nil := by
  have written : source.WritesChain (some block)
      (match (source.kind? block).bind (source.saveFields 0 block fun _ => .nil) with
      | some statement => .link (source.id block) statement .nil
      | none => .nil) := by
    refine .block (fun socket child plugged => ?_) (fun socket => ?_) ?_
    · rw [value] at plugged
      cases plugged
    · rw [statement]
      exact .nil
    · rw [next]
      exact .nil
  rwa [unknown] at written

end Source

namespace Workspace

variable {workspace : Workspace}

private theorem ascends_leadsUpTo {candidate steps handle : Nat}
    (enough : ∀ taken upper, workspace.climb taken handle = some upper → taken ≤ steps) :
    workspace.Ascends candidate handle (workspace.leadsUpTo candidate steps handle) := by
  induction steps generalizing handle with
  | zero =>
      by_cases here : handle = candidate
      · rw [leadsUpTo, here, beq_self_eq_true]
        exact .here
      · rw [leadsUpTo, beq_eq_false_iff_ne.mpr here]
        refine .top here ?_
        cases hangs : workspace.parent? handle with
        | none => rfl
        | some parent =>
            have one := enough 1 parent (by rw [climb_one, hangs])
            exact absurd one (by decide)
  | succ steps inductionHypothesis =>
      by_cases here : handle = candidate
      · rw [leadsUpTo, here, beq_self_eq_true, Bool.true_or]
        exact .here
      · cases hangs : workspace.parent? handle with
        | none =>
            have ended : workspace.leadsUpTo candidate (steps + 1) handle = false := by
              rw [Bool.eq_false_iff, Ne, leadsUpTo_succ]
              simp [here, hangs]
            rw [ended]
            exact .top here hangs
        | some parent =>
            have further : workspace.leadsUpTo candidate (steps + 1) handle =
                workspace.leadsUpTo candidate steps parent := by
              rw [Bool.eq_iff_iff, leadsUpTo_succ]
              simp [here, hangs]
            rw [further]
            refine .up here hangs (inductionHypothesis fun taken upper reached => ?_)
            have more := enough (taken + 1) upper (by simp [climb, hangs, reached])
            exact Nat.le_of_succ_le_succ more

theorem ascends_isAncestor (linked : workspace.Linked) (candidate handle : Nat) :
    workspace.Ascends candidate handle (workspace.isAncestor candidate handle) :=
  ascends_leadsUpTo fun _ _ reached => climb_le_size linked reached

/-- There is nothing at a handle that no block has. -/
theorem held?_of_unknown {handle : Nat} (unknown : ¬ handle < workspace.blocks.size)
    (place : Place) : workspace.held? handle place = none := by
  rw [held?, block?_eq_none_iff.mpr (Nat.le_of_not_lt unknown)]
  rfl

private theorem source_kind?_of_unknown {handle : Nat}
    (unknown : ¬ handle < workspace.blocks.size) :
    workspace.source.kind? handle = none := by
  rw [source_kind?, kind?, own?, block?_eq_none_iff.mpr (Nat.le_of_not_lt unknown)]
  rfl

private theorem plugged?_of_unknown {handle : Nat} (unknown : ¬ handle < workspace.blocks.size)
    (sockets : Kind → List String) (socket : String) :
    workspace.plugged? sockets handle socket = none := by
  rw [plugged?, block?_eq_none_iff.mpr (Nat.le_of_not_lt unknown)]

private theorem writes_saveInput (linked : workspace.Linked) {depth handle : Nat}
    (spare : handle < workspace.blocks.size → workspace.Spare depth handle) :
    workspace.source.WritesInput handle (workspace.source.saveInput depth handle) := by
  induction depth generalizing handle with
  | zero =>
      have unknown : ¬ handle < workspace.blocks.size := fun inside =>
        Nat.lt_irrefl 0 ((spare inside).pos linked inside)
      exact .bare (source_kind?_of_unknown unknown) (plugged?_of_unknown unknown Kind.valueSockets)
  | succ depth inductionHypothesis =>
      rw [Source.saveInput_succ]
      refine .block (fun socket child plugged => ?_) fun socket free => ?_
      · rw [Source.inputOr, plugged]
        have holds : workspace.held? handle (.socket socket) = some child :=
          held?_of_plugged? plugged
        exact inductionHypothesis fun _ => (spare (lt_size_of_held? holds)).held linked holds
      · rw [Source.inputOr, free]

theorem writes_saveChain (linked : workspace.Linked) {depth : Nat} {head : Option Nat}
    (spare : ∀ handle ∈ head, handle < workspace.blocks.size → workspace.Spare depth handle) :
    workspace.source.WritesChain head (workspace.source.saveChain depth head) := by
  induction depth generalizing head with
  | zero =>
      cases head with
      | none => exact .nil
      | some handle =>
          have unknown : ¬ handle < workspace.blocks.size := fun inside =>
            Nat.lt_irrefl 0 ((spare handle rfl inside).pos linked inside)
          exact .bare (source_kind?_of_unknown unknown)
            (plugged?_of_unknown unknown Kind.valueSockets)
            (plugged?_of_unknown unknown Kind.statementSockets) (held?_of_unknown unknown .after)
  | succ depth inductionHypothesis =>
      cases head with
      | none => exact .nil
      | some handle =>
          have below {place : Place} {child : Nat}
              (holds : workspace.held? handle place = some child) : workspace.Spare depth child :=
            (spare handle rfl (lt_size_of_held? holds)).held linked holds
          rw [Source.saveChain_succ]
          refine .block (fun socket child plugged => ?_) (fun socket => ?_) ?_
          · exact writes_saveInput linked fun _ => below (held?_of_plugged? plugged)
          · exact inductionHypothesis fun child plugged _ => below (held?_of_plugged? plugged)
          · refine inductionHypothesis fun child follows _ => ?_
            have holds : workspace.held? handle .after = some child := follows
            exact below holds

end Workspace

end Marquee
