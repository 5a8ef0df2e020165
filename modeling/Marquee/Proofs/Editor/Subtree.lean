import Marquee.Proofs.Editor.Growth
import Mathlib.Data.List.Flatten

/-!
# What hangs below a block

A walk down a forest comes to every block once: two blocks at different places of one block have
nothing below them in common, since there is only one way up. So no id is met twice on the walk.
-/

open Relation

namespace Marquee

/-- The places of a block of a kind, in reading order. -/
def Kind.places (kind : Kind) : List Place :=
  kind.valueSockets.map .socket ++ (kind.statementSockets.map .socket ++ [.after])

theorem Kind.nodup_places (kind : Kind) : kind.places.Nodup := by
  cases kind <;> decide

namespace Workspace

/-- A block and what is below it, down to a depth, in reading order. -/
def subtree (workspace : Workspace) : Nat → Option Nat → List Nat
  | 0, _ => []
  | _ + 1, none => []
  | depth + 1, some handle =>
    match workspace.kind? handle with
    | some kind =>
      handle :: kind.places.flatMap fun place =>
        workspace.subtree depth (workspace.held? handle place)
    | none => []

theorem subtree_succ {workspace : Workspace} {handle : Nat} {kind : Kind}
    (found : workspace.kind? handle = some kind) (depth : Nat) :
    workspace.subtree (depth + 1) (some handle) =
      handle :: kind.places.flatMap fun place =>
        workspace.subtree depth (workspace.held? handle place) := by
  rw [subtree, found]

theorem subtree_of_kind?_eq_none {workspace : Workspace} {handle : Nat}
    (unknown : workspace.kind? handle = none) (depth : Nat) :
    workspace.subtree (depth + 1) (some handle) = [] := by
  rw [subtree, unknown]

theorem climb_one (workspace : Workspace) : workspace.climb 1 = workspace.parent? := by
  funext handle
  simp only [climb]
  exact Option.bind_fun_some _

theorem Linked.climb_of_held {workspace : Workspace} (linked : workspace.Linked)
    {lower holder child steps : Nat} {place : Place}
    (holds : workspace.held? holder place = some child)
    (reached : workspace.climb steps lower = some child) :
    workspace.climb (steps + 1) lower = some holder := by
  rw [climb_add, reached, Option.bind_some, climb_one]
  exact linked.parent_of_held holds

/-- From every block of a subtree the way up leads to its top. -/
theorem climb_of_mem_subtree {workspace : Workspace} (linked : workspace.Linked) {depth : Nat}
    {head : Option Nat} {lower : Nat} (member : lower ∈ workspace.subtree depth head) :
    ∃ top, head = some top ∧ ∃ steps, workspace.climb steps lower = some top := by
  induction depth generalizing head with
  | zero => exact absurd member List.not_mem_nil
  | succ depth inductionHypothesis =>
      cases head with
      | none => exact absurd member List.not_mem_nil
      | some top =>
          refine ⟨top, rfl, ?_⟩
          cases found : workspace.kind? top with
          | none =>
              rw [subtree_of_kind?_eq_none found] at member
              exact absurd member List.not_mem_nil
          | some kind =>
              rw [subtree_succ found] at member
              rcases List.mem_cons.mp member with rfl | under
              · exact ⟨0, rfl⟩
              · obtain ⟨place, _, among⟩ := List.mem_flatMap.mp under
                obtain ⟨child, holds, steps, reached⟩ := inductionHypothesis among
                exact ⟨steps + 1, linked.climb_of_held holds reached⟩

/-- The way up from one block does not lead through two blocks that hang on the same one. -/
theorem Linked.siblings_eq {workspace : Workspace} (linked : workspace.Linked)
    {lower holder first second : Nat} {firstPlace secondPlace : Place}
    (firstHolds : workspace.held? holder firstPlace = some first)
    (secondHolds : workspace.held? holder secondPlace = some second)
    (underFirst : ∃ steps, workspace.climb steps lower = some first)
    (underSecond : ∃ steps, workspace.climb steps lower = some second) : first = second := by
  obtain ⟨few, reachesFirst⟩ := underFirst
  obtain ⟨many, reachesSecond⟩ := underSecond
  have between {early late lowest highest : Nat} {lowPlace highPlace : Place}
      (before : early < late) (low : workspace.held? holder lowPlace = some lowest)
      (high : workspace.held? holder highPlace = some highest)
      (reachesLow : workspace.climb early lower = some lowest)
      (reachesHigh : workspace.climb late lower = some highest) : False := by
    obtain ⟨more, rfl⟩ := Nat.exists_eq_add_of_lt before
    rw [Nat.add_assoc, climb_add, reachesLow, Option.bind_some, Nat.add_comm, climb_add, climb_one,
      linked.parent_of_held low, Option.bind_some] at reachesHigh
    have circle := linked.climb_of_held high reachesHigh
    exact linked.acyclic holder (transGen_of_climb circle)
  rcases Nat.lt_trichotomy few many with before | rfl | after
  · exact (between before firstHolds secondHolds reachesFirst reachesSecond).elim
  · rw [reachesFirst] at reachesSecond
    exact Option.some.inj reachesSecond
  · exact (between after secondHolds firstHolds reachesSecond reachesFirst).elim

theorem nodup_subtree {workspace : Workspace} (linked : workspace.Linked) (depth : Nat)
    (head : Option Nat) : (workspace.subtree depth head).Nodup := by
  induction depth generalizing head with
  | zero => exact List.nodup_nil
  | succ depth inductionHypothesis =>
      cases head with
      | none => exact List.nodup_nil
      | some top =>
          cases found : workspace.kind? top with
          | none =>
              rw [subtree_of_kind?_eq_none found]
              exact List.nodup_nil
          | some kind =>
              rw [subtree_succ found]
              refine List.nodup_cons.mpr ⟨fun member => ?_, List.nodup_flatMap.mpr ⟨?_, ?_⟩⟩
              · obtain ⟨place, _, among⟩ := List.mem_flatMap.mp member
                obtain ⟨child, holds, steps, reached⟩ := climb_of_mem_subtree linked among
                have circle := linked.climb_of_held holds reached
                exact linked.acyclic top (transGen_of_climb circle)
              · intro place _
                exact inductionHypothesis _
              · refine kind.nodup_places.imp fun different lower underFirst underSecond => ?_
                obtain ⟨first, firstHolds, firstReached⟩ := climb_of_mem_subtree linked underFirst
                obtain ⟨second, secondHolds, secondReached⟩ :=
                  climb_of_mem_subtree linked underSecond
                have same := linked.siblings_eq firstHolds secondHolds firstReached secondReached
                rw [same] at firstHolds
                exact different (linked.place_unique firstHolds secondHolds)

def id? (workspace : Workspace) (handle : Nat) : Option String :=
  (workspace.block? handle).map Block.id

theorem getElem?_blockIds (workspace : Workspace) (handle : Nat) :
    workspace.blockIds[handle]? = workspace.id? handle := by
  rw [blockIds, List.getElem?_map, Array.getElem?_toList]
  rfl

/-- The ids below a block are different. -/
theorem nodup_ids_subtree {base : Nat} {workspace : Workspace} (grown : workspace.Grown base)
    (depth : Nat) (head : Option Nat) :
    ((workspace.subtree depth head).filterMap workspace.id?).Nodup := by
  have different : workspace.blockIds.Nodup := by
    rw [grown.blockIds]
    exact nodup_labels ..
  refine List.Nodup.filterMap ?_ (nodup_subtree grown.linked depth head)
  intro first second id firstId secondId
  have inside : first < workspace.blockIds.length := by
    rw [Option.mem_def, ← getElem?_blockIds] at firstId
    exact (List.getElem?_eq_some_iff.mp firstId).1
  refine (List.getElem?_inj inside different).mp ?_
  rw [getElem?_blockIds, getElem?_blockIds, Option.mem_def.mp firstId, Option.mem_def.mp secondId]

end Workspace

end Marquee
