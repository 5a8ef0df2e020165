import Marquee.Proofs.Editor.Place
import Mathlib.Data.Finset.Card
import Mathlib.Logic.Relation

/-!
# Connections that agree

A connection is recorded at both of its ends. A workspace is linked when the two records agree,
every block hangs at one place at most, and no way up is a circle. Moving a block keeps a workspace
linked as long as the block does not lie above its new place, and that is what `isAncestor` finds
out: within as many steps as there are blocks, the way up has come to its end.
-/

open Relation

namespace Marquee

namespace Workspace

/-- One step of the way up. -/
def HangsOn (workspace : Workspace) (child parent : Nat) : Prop :=
  workspace.parent? child = some parent

structure Linked (workspace : Workspace) : Prop where
  parent_of_held : ∀ {holder place child},
    workspace.held? holder place = some child → workspace.parent? child = some holder
  held_of_parent : ∀ {child parent},
    workspace.parent? child = some parent → ∃ place, workspace.held? parent place = some child
  place_unique : ∀ {holder first second child},
    workspace.held? holder first = some child →
      workspace.held? holder second = some child → first = second
  distinct : ∀ {handle block},
    workspace.block? handle = some block → block.sockets.Distinct
  acyclic : ∀ handle, ¬ TransGen workspace.HangsOn handle handle

theorem parent?_modify_of_same {change : Block → Block}
    (same : ∀ block, (change block).parent = block.parent) (workspace : Workspace) (handle : Nat) :
    (workspace.modify handle change).parent? = workspace.parent? := by
  funext other
  simp only [parent?]
  rw [block?_modify]
  split
  · cases workspace.block? other <;> simp [same]
  · rfl

private theorem parent?_modify_hangOn {workspace : Workspace} {handle : Nat}
    (inside : handle < workspace.blocks.size) (parent : Option Nat) (other : Nat) :
    (workspace.modify handle (Block.hangOn parent)).parent? other =
      if other = handle then parent else workspace.parent? other := by
  simp only [parent?]
  rw [block?_modify]
  by_cases same : handle = other
  · subst same
    obtain ⟨block, found⟩ := exists_block? inside
    simp [found]
  · rw [if_neg same, if_neg (Ne.symm same)]

theorem held?_modify_of_same {change : Block → Block}
    (same : ∀ block, (change block).held? = block.held?) (workspace : Workspace) (handle : Nat) :
    (workspace.modify handle change).held? = workspace.held? := by
  funext holder place
  simp only [held?]
  rw [block?_modify]
  split
  · cases workspace.block? holder <;> simp [same]
  · rfl

private theorem held?_modify_hold {workspace : Workspace} {parent : Nat}
    (inside : parent < workspace.blocks.size) (place : Place) (child holder : Nat)
    (other : Place) :
    (workspace.modify parent (Block.hold place child)).held? holder other =
      if holder = parent ∧ other = place then some child else workspace.held? holder other := by
  simp only [held?]
  rw [block?_modify]
  by_cases same : parent = holder
  · subst same
    obtain ⟨block, found⟩ := exists_block? inside
    simp [found, Block.held?_hold]
  · rw [if_neg same, if_neg fun both => same both.1.symm]

private theorem held?_modify_release {workspace : Workspace}
    (distinct : ∀ {handle block}, workspace.block? handle = some block → block.sockets.Distinct)
    (parent child holder : Nat) (place : Place) :
    (workspace.modify parent (Block.release child)).held? holder place =
      if holder = parent ∧ workspace.held? holder place = some child then none
      else workspace.held? holder place := by
  unfold held?
  rw [block?_modify]
  by_cases same : parent = holder
  · subst same
    cases found : workspace.block? parent with
    | none => simp
    | some block => simp [Block.held?_release (distinct found)]
  · rw [if_neg same, if_neg fun both => same both.1.symm]

theorem distinct_modify {workspace : Workspace} {change : Block → Block}
    (distinct : ∀ {handle block}, workspace.block? handle = some block → block.sockets.Distinct)
    (kept : ∀ {block : Block}, block.sockets.Distinct → (change block).sockets.Distinct)
    (handle : Nat) {other : Nat} {block : Block}
    (found : (workspace.modify handle change).block? other = some block) :
    block.sockets.Distinct := by
  rw [block?_modify] at found
  split at found
  · obtain ⟨before, foundBefore, rfl⟩ := Option.map_eq_some_iff.mp found
    exact kept (distinct foundBefore)
  · exact distinct found

theorem parent?_detach (workspace : Workspace) (child other : Nat) :
    (workspace.detach child).parent? other =
      if other = child then none else workspace.parent? other := by
  cases hangs : workspace.parent? child with
  | none =>
      rw [detach_of_top hangs]
      split
      · next same => rw [same, hangs]
      · rfl
  | some parent =>
      have inside : child < (workspace.modify parent (Block.release child)).blocks.size := by
        rw [size_modify]
        exact lt_size_of_parent? hangs
      rw [detach_of_parent hangs, parent?_modify_hangOn inside,
        parent?_modify_of_same (Block.parent_release child)]

theorem held?_detach {workspace : Workspace} (linked : workspace.Linked) (child holder : Nat)
    (place : Place) :
    (workspace.detach child).held? holder place =
      if workspace.held? holder place = some child then none
      else workspace.held? holder place := by
  cases hangs : workspace.parent? child with
  | none =>
      have free : workspace.held? holder place ≠ some child := by
        intro holds
        have parent := linked.parent_of_held holds
        rw [hangs] at parent
        cases parent
      rw [detach_of_top hangs, if_neg free]
  | some parent =>
      rw [detach_of_parent hangs, held?_modify_of_same (Block.held?_hangOn none),
        held?_modify_release linked.distinct]
      by_cases holds : workspace.held? holder place = some child
      · have above : holder = parent := by
          have other := linked.parent_of_held holds
          rw [hangs] at other
          exact (Option.some.inj other).symm
        rw [if_pos ⟨above, holds⟩, if_pos holds]
      · rw [if_neg fun both => holds both.2, if_neg holds]

private theorem held?_detach_eq_some_iff {workspace : Workspace} (linked : workspace.Linked)
    {child holder other : Nat} {place : Place} :
    (workspace.detach child).held? holder place = some other ↔
      workspace.held? holder place = some other ∧ other ≠ child := by
  rw [held?_detach linked]
  by_cases holds : workspace.held? holder place = some child
  · rw [if_pos holds, holds]
    constructor
    · intro impossible
      cases impossible
    · rintro ⟨same, different⟩
      exact absurd (Option.some.inj same).symm different
  · rw [if_neg holds]
    constructor
    · intro found
      refine ⟨found, ?_⟩
      intro same
      exact holds (same ▸ found)
    · exact And.left

private theorem hangsOn_of_detach {workspace : Workspace} {child lower upper : Nat}
    (hangs : (workspace.detach child).HangsOn lower upper) : workspace.HangsOn lower upper := by
  simp only [HangsOn] at hangs ⊢
  rw [parent?_detach] at hangs
  split at hangs
  · cases hangs
  · exact hangs

theorem linked_detach {workspace : Workspace} (linked : workspace.Linked) (child : Nat) :
    (workspace.detach child).Linked where
  parent_of_held holds := by
    obtain ⟨before, different⟩ := (held?_detach_eq_some_iff linked).mp holds
    rw [parent?_detach, if_neg different]
    exact linked.parent_of_held before
  held_of_parent {lower upper} hangs := by
    have before : workspace.parent? lower = some upper := hangsOn_of_detach hangs
    have different : lower ≠ child := by
      rintro rfl
      rw [parent?_detach, if_pos rfl] at hangs
      cases hangs
    obtain ⟨place, holds⟩ := linked.held_of_parent before
    exact ⟨place, (held?_detach_eq_some_iff linked).mpr ⟨holds, different⟩⟩
  place_unique first second :=
    linked.place_unique ((held?_detach_eq_some_iff linked).mp first).1
      ((held?_detach_eq_some_iff linked).mp second).1
  distinct {handle block} found := by
    cases hangs : workspace.parent? child with
    | none =>
        rw [detach_of_top hangs] at found
        exact linked.distinct found
    | some parent =>
        rw [detach_of_parent hangs] at found
        have released {other : Nat} {held : Block}
            (there : (workspace.modify parent (Block.release child)).block? other = some held) :
            held.sockets.Distinct :=
          distinct_modify linked.distinct (fun kept => Block.distinct_release kept child) parent
            there
        exact distinct_modify released (fun kept => Block.distinct_hangOn kept none) child found
  acyclic handle circle :=
    linked.acyclic handle (TransGen.mono (fun _ _ => hangsOn_of_detach) _ _ circle)

theorem parent?_vacate (workspace : Workspace) (holder : Nat) (place : Place) (other : Nat) :
    (workspace.vacate holder place).parent? other =
      if workspace.held? holder place = some other then none else workspace.parent? other := by
  simp only [vacate]
  cases holds : workspace.held? holder place with
  | none => simp
  | some occupant =>
      dsimp only
      rw [parent?_detach]
      by_cases same : other = occupant
      · rw [if_pos same, if_pos (congrArg some same.symm)]
      · rw [if_neg same, if_neg fun equal => same (Option.some.inj equal).symm]

theorem held?_vacate {workspace : Workspace} (linked : workspace.Linked) (holder : Nat)
    (place : Place) (other : Nat) (otherPlace : Place) :
    (workspace.vacate holder place).held? other otherPlace =
      if other = holder ∧ otherPlace = place then none
      else workspace.held? other otherPlace := by
  simp only [vacate]
  cases holds : workspace.held? holder place with
  | none =>
      dsimp only
      split
      · next same => rw [same.1, same.2, holds]
      · rfl
  | some occupant =>
      dsimp only
      rw [held?_detach linked]
      by_cases same : other = holder ∧ otherPlace = place
      · rw [if_pos same, same.1, same.2, if_pos holds]
      · have free : workspace.held? other otherPlace ≠ some occupant := by
          intro also
          have parent := linked.parent_of_held holds
          rw [linked.parent_of_held also] at parent
          have above : other = holder := Option.some.inj parent
          subst above
          exact same ⟨rfl, linked.place_unique also holds⟩
        rw [if_neg same, if_neg free]

private theorem linked_vacate {workspace : Workspace} (linked : workspace.Linked) (holder : Nat)
    (place : Place) : (workspace.vacate holder place).Linked := by
  simp only [vacate]
  split
  · exact linked_detach linked _
  · exact linked

theorem parent?_fasten {workspace : Workspace} {child : Nat}
    (inside : child < workspace.blocks.size) (parent : Nat) (place : Place) (other : Nat) :
    (workspace.fasten parent place child).parent? other =
      if other = child then some parent else workspace.parent? other := by
  simp only [fasten]
  rw [parent?_modify_hangOn (by rwa [size_modify]),
    parent?_modify_of_same (Block.parent_hold place child)]

theorem held?_fasten {workspace : Workspace} {parent : Nat}
    (inside : parent < workspace.blocks.size) (place : Place) (child holder : Nat)
    (other : Place) :
    (workspace.fasten parent place child).held? holder other =
      if holder = parent ∧ other = place then some child else workspace.held? holder other := by
  simp only [fasten]
  rw [held?_modify_of_same (Block.held?_hangOn (some parent)), held?_modify_hold inside]

/-- A relation without circles has none after one more step, unless that step leads back. -/
theorem acyclic_insert {α : Type} {related : α → α → Prop} {lower upper : α}
    (acyclic : ∀ item, ¬ TransGen related item item)
    (free : ¬ ReflTransGen related upper lower) (item : α) :
    ¬ TransGen (fun first second => related first second ∨ first = lower ∧ second = upper)
      item item := by
  have uses {first second : α}
      (path : TransGen (fun first second => related first second ∨
        first = lower ∧ second = upper) first second) :
      TransGen related first second ∨
        ReflTransGen related first lower ∧ ReflTransGen related upper second := by
    induction path with
    | single step =>
        rcases step with old | ⟨rfl, rfl⟩
        · exact Or.inl (.single old)
        · exact Or.inr ⟨.refl, .refl⟩
    | tail _ step inductionHypothesis =>
        rcases inductionHypothesis with before | ⟨before, after⟩
        · rcases step with old | ⟨rfl, rfl⟩
          · exact Or.inl (before.tail old)
          · exact Or.inr ⟨before.to_reflTransGen, .refl⟩
        · rcases step with old | ⟨rfl, rfl⟩
          · exact Or.inr ⟨before, after.tail old⟩
          · exact absurd after free
  intro circle
  rcases uses circle with old | ⟨before, after⟩
  · exact acyclic item old
  · exact free (after.trans before)

private theorem linked_fasten {workspace : Workspace} {parent child : Nat} {place : Place}
    (linked : workspace.Linked) (parentInside : parent < workspace.blocks.size)
    (childInside : child < workspace.blocks.size) (top : workspace.parent? child = none)
    (vacant : workspace.held? parent place = none)
    (free : ¬ ReflTransGen workspace.HangsOn parent child) :
    (workspace.fasten parent place child).Linked where
  parent_of_held {holder other held} holds := by
    rw [held?_fasten parentInside] at holds
    rw [parent?_fasten childInside]
    split at holds
    · next here => rw [if_pos (Option.some.inj holds).symm, here.1]
    · have before := linked.parent_of_held holds
      have different : held ≠ child := by
        rintro rfl
        rw [top] at before
        cases before
      rw [if_neg different, before]
  held_of_parent {lower upper} hangs := by
    rw [parent?_fasten childInside] at hangs
    split at hangs
    · next same =>
        have above : parent = upper := Option.some.inj hangs
        refine ⟨place, ?_⟩
        rw [held?_fasten parentInside, if_pos ⟨above.symm, rfl⟩, same]
    · obtain ⟨other, holds⟩ := linked.held_of_parent hangs
      refine ⟨other, ?_⟩
      have elsewhere : ¬ (upper = parent ∧ other = place) := by
        rintro ⟨rfl, rfl⟩
        rw [vacant] at holds
        cases holds
      rw [held?_fasten parentInside, if_neg elsewhere, holds]
  place_unique {holder first second held} holdsFirst holdsSecond := by
    have untouched {other : Place} (holds : workspace.held? holder other = some child) : False := by
      have before := linked.parent_of_held holds
      rw [top] at before
      cases before
    rw [held?_fasten parentInside] at holdsFirst holdsSecond
    split at holdsFirst
    · next here =>
        cases holdsFirst
        split at holdsSecond
        · next there => rw [here.2, there.2]
        · exact (untouched holdsSecond).elim
    · split at holdsSecond
      · cases holdsSecond
        exact (untouched holdsFirst).elim
      · exact linked.place_unique holdsFirst holdsSecond
  distinct {handle block} found := by
    have held {other : Nat} {holding : Block}
        (there : (workspace.modify parent (Block.hold place child)).block? other = some holding) :
        holding.sockets.Distinct :=
      distinct_modify linked.distinct (fun kept => Block.distinct_hold kept place child) parent
        there
    exact distinct_modify held (fun kept => Block.distinct_hangOn kept (some parent)) child found
  acyclic handle circle := by
    refine acyclic_insert linked.acyclic free handle <|
      TransGen.mono (fun lower upper hangs => ?_) _ _ circle
    simp only [HangsOn] at hangs
    rw [parent?_fasten childInside] at hangs
    split at hangs
    · next same => exact Or.inr ⟨same, (Option.some.inj hangs).symm⟩
    · exact Or.inl hangs

section Attach

variable {workspace : Workspace} {parent child : Nat}

theorem parent?_attach (linked : workspace.Linked) (inside : child < workspace.blocks.size)
    (place : Place) (other : Nat) :
    (workspace.attach parent place child).parent? other =
      if other = child then some parent
      else if workspace.held? parent place = some other then none
      else workspace.parent? other := by
  have stillInside : child < ((workspace.detach child).vacate parent place).blocks.size := by
    rw [((sameBlocks_detach workspace child).trans (sameBlocks_vacate ..)).size]
    exact inside
  simp only [attach]
  rw [parent?_fasten stillInside, parent?_vacate, parent?_detach]
  by_cases same : other = child
  · rw [if_pos same, if_pos same]
  · rw [if_neg same, if_neg same, if_neg same]
    by_cases occupied : workspace.held? parent place = some other
    · rw [if_pos occupied,
        if_pos ((held?_detach_eq_some_iff linked).mpr ⟨occupied, same⟩)]
    · rw [if_neg occupied,
        if_neg fun moved => occupied ((held?_detach_eq_some_iff linked).mp moved).1]

theorem held?_attach (linked : workspace.Linked) (inside : parent < workspace.blocks.size)
    (place : Place) (holder : Nat) (other : Place) :
    (workspace.attach parent place child).held? holder other =
      if holder = parent ∧ other = place then some child
      else if workspace.held? holder other = some child then none
      else workspace.held? holder other := by
  have stillInside : parent < ((workspace.detach child).vacate parent place).blocks.size := by
    rw [((sameBlocks_detach workspace child).trans (sameBlocks_vacate ..)).size]
    exact inside
  simp only [attach]
  rw [held?_fasten stillInside, held?_vacate (linked_detach linked child), held?_detach linked]
  by_cases here : holder = parent ∧ other = place
  · rw [if_pos here, if_pos here]
  · rw [if_neg here, if_neg here, if_neg here]

theorem linked_attach (linked : workspace.Linked) (parentInside : parent < workspace.blocks.size)
    (childInside : child < workspace.blocks.size)
    (free : ¬ ReflTransGen workspace.HangsOn parent child) (place : Place) :
    (workspace.attach parent place child).Linked := by
  have detached := linked_detach linked child
  have same := (sameBlocks_detach workspace child).trans (sameBlocks_vacate _ parent place)
  have top : ((workspace.detach child).vacate parent place).parent? child = none := by
    rw [parent?_vacate, parent?_detach, if_pos rfl, ite_self]
  have vacant : ((workspace.detach child).vacate parent place).held? parent place = none := by
    rw [held?_vacate detached, if_pos ⟨rfl, rfl⟩]
  have stillFree :
      ¬ ReflTransGen ((workspace.detach child).vacate parent place).HangsOn parent child := by
    intro path
    refine free (ReflTransGen.mono (fun lower upper hangs => ?_) _ _ path)
    simp only [HangsOn] at hangs
    rw [parent?_vacate] at hangs
    split at hangs
    · cases hangs
    · exact hangsOn_of_detach hangs
  refine linked_fasten (linked_vacate detached parent place) ?_ ?_ top vacant stillFree
  · rw [same.size]
    exact parentInside
  · rw [same.size]
    exact childInside

end Attach

/-! ## The way up -/

/-- Where a number of steps up lead to. -/
def climb (workspace : Workspace) : Nat → Nat → Option Nat
  | 0, handle => some handle
  | steps + 1, handle => (workspace.parent? handle).bind (workspace.climb steps)

theorem climb_add (workspace : Workspace) (first second handle : Nat) :
    workspace.climb (first + second) handle =
      (workspace.climb first handle).bind (workspace.climb second) := by
  induction first generalizing handle with
  | zero => simp [climb]
  | succ first inductionHypothesis =>
      rw [Nat.add_right_comm]
      simp only [climb]
      cases workspace.parent? handle with
      | none => rfl
      | some parent => exact inductionHypothesis parent

theorem leadsUpTo_succ (workspace : Workspace) (candidate steps handle : Nat) :
    workspace.leadsUpTo candidate (steps + 1) handle = true ↔
      handle = candidate ∨
        ∃ parent, workspace.parent? handle = some parent ∧
          workspace.leadsUpTo candidate steps parent = true := by
  rw [leadsUpTo]
  simp only [parent?]
  cases workspace.block? handle with
  | none => simp
  | some block =>
      obtain ⟨id, kind, fields, sockets, next, parent⟩ := block
      cases parent <;> simp

theorem leadsUpTo_iff {workspace : Workspace} {candidate steps handle : Nat} :
    workspace.leadsUpTo candidate steps handle = true ↔
      ∃ taken, taken ≤ steps ∧ workspace.climb taken handle = some candidate := by
  induction steps generalizing handle with
  | zero => simp [leadsUpTo, climb]
  | succ steps inductionHypothesis =>
      rw [leadsUpTo_succ]
      constructor
      · rintro (here | ⟨parent, hangs, above⟩)
        · exact ⟨0, Nat.zero_le _, congrArg some here⟩
        · obtain ⟨taken, few, reached⟩ := inductionHypothesis.mp above
          exact ⟨taken + 1, Nat.succ_le_succ few, by simp [climb, hangs, reached]⟩
      · rintro ⟨taken, few, reached⟩
        cases taken with
        | zero => exact Or.inl (Option.some.inj reached)
        | succ taken =>
            obtain ⟨parent, hangs, above⟩ := Option.bind_eq_some_iff.mp reached
            exact Or.inr ⟨parent, hangs, inductionHypothesis.mpr
              ⟨taken, Nat.le_of_succ_le_succ few, above⟩⟩

theorem transGen_of_climb {workspace : Workspace} {steps lower upper : Nat}
    (reached : workspace.climb (steps + 1) lower = some upper) :
    TransGen workspace.HangsOn lower upper := by
  induction steps generalizing lower with
  | zero =>
      obtain ⟨parent, hangs, same⟩ := Option.bind_eq_some_iff.mp reached
      cases same
      exact .single hangs
  | succ steps inductionHypothesis =>
      obtain ⟨parent, hangs, above⟩ := Option.bind_eq_some_iff.mp reached
      exact .head hangs (inductionHypothesis above)

theorem exists_climb_iff {workspace : Workspace} {lower upper : Nat} :
    (∃ steps, workspace.climb steps lower = some upper) ↔
      ReflTransGen workspace.HangsOn lower upper := by
  constructor
  · rintro ⟨steps, reached⟩
    cases steps with
    | zero =>
        cases reached
        exact .refl
    | succ steps => exact (transGen_of_climb reached).to_reflTransGen
  · intro path
    induction path using ReflTransGen.head_induction_on with
    | refl => exact ⟨0, rfl⟩
    | head hangs _ inductionHypothesis =>
        obtain ⟨steps, reached⟩ := inductionHypothesis
        simp only [HangsOn] at hangs
        exact ⟨steps + 1, by simp [climb, hangs, reached]⟩

private theorem exists_climb_of_le {workspace : Workspace} {steps taken lower upper : Nat}
    (reached : workspace.climb steps lower = some upper) (few : taken ≤ steps) :
    ∃ middle, workspace.climb taken lower = some middle ∧
      workspace.climb (steps - taken) middle = some upper := by
  rw [← Nat.add_sub_cancel' few, climb_add] at reached
  exact Option.bind_eq_some_iff.mp reached

/-- The blocks on a way up are all different. -/
theorem climb_ne {workspace : Workspace} (linked : workspace.Linked)
    {steps first second lower upper : Nat} (reached : workspace.climb steps lower = some upper)
    (before : first < second) (few : second ≤ steps) :
    workspace.climb first lower ≠ workspace.climb second lower := by
  intro same
  obtain ⟨middle, below, _⟩ := exists_climb_of_le reached (Nat.le_trans (Nat.le_of_lt before) few)
  obtain ⟨more, apart⟩ := Nat.exists_eq_add_of_lt before
  have circle : workspace.climb (more + 1) middle = some middle := by
    have further := climb_add workspace first (more + 1) lower
    rw [show first + (more + 1) = second by omega, ← same, below] at further
    exact further.symm
  exact linked.acyclic middle (transGen_of_climb circle)

private theorem lt_size_of_climb {workspace : Workspace} (linked : workspace.Linked)
    {steps lower upper : Nat} (inside : lower < workspace.blocks.size)
    (reached : workspace.climb steps lower = some upper) : upper < workspace.blocks.size := by
  cases steps with
  | zero =>
      cases reached
      exact inside
  | succ steps =>
      rw [climb_add] at reached
      obtain ⟨middle, _, step⟩ := Option.bind_eq_some_iff.mp reached
      obtain ⟨parent, hangs, same⟩ := Option.bind_eq_some_iff.mp step
      cases same
      obtain ⟨place, holds⟩ := linked.held_of_parent hangs
      exact lt_size_of_held? holds

/-- There are no more blocks on a way up than blocks at all, and one more than steps. -/
theorem climb_lt_size {workspace : Workspace} (linked : workspace.Linked)
    {steps lower upper : Nat} (inside : lower < workspace.blocks.size)
    (reached : workspace.climb steps lower = some upper) : steps < workspace.blocks.size := by
  have bounded := Finset.card_le_card_of_injOn
    (s := Finset.range (steps + 1)) (t := Finset.range workspace.blocks.size)
    (fun taken => (workspace.climb taken lower).getD 0) ?_ ?_
  · simpa [Nat.succ_le_iff] using bounded
  · intro taken member
    have few := Nat.le_of_lt_succ (Finset.mem_range.mp member)
    obtain ⟨middle, below, _⟩ := exists_climb_of_le reached few
    simpa [below] using lt_size_of_climb linked inside below
  · intro first firstMember second secondMember equal
    have firstFew := Nat.le_of_lt_succ (Finset.mem_range.mp firstMember)
    have secondFew := Nat.le_of_lt_succ (Finset.mem_range.mp secondMember)
    obtain ⟨firstBlock, firstBelow, _⟩ := exists_climb_of_le reached firstFew
    obtain ⟨secondBlock, secondBelow, _⟩ := exists_climb_of_le reached secondFew
    have same : workspace.climb first lower = workspace.climb second lower := by
      rw [firstBelow, secondBelow]
      simpa [firstBelow, secondBelow] using equal
    rcases Nat.lt_trichotomy first second with before | here | after
    · exact absurd same (climb_ne linked reached before secondFew)
    · exact here
    · exact absurd same.symm (climb_ne linked reached after firstFew)

theorem climb_le_size {workspace : Workspace} (linked : workspace.Linked)
    {steps lower upper : Nat} (reached : workspace.climb steps lower = some upper) :
    steps ≤ workspace.blocks.size := by
  cases steps with
  | zero => exact Nat.zero_le _
  | succ steps =>
      obtain ⟨parent, hangs, _⟩ := Option.bind_eq_some_iff.mp reached
      exact Nat.le_of_lt (climb_lt_size linked (lt_size_of_parent? hangs) reached)

/-- In a linked workspace the bounded search finds every block on the way up. -/
theorem isAncestor_iff {workspace : Workspace} (linked : workspace.Linked)
    {candidate handle : Nat} :
    workspace.isAncestor candidate handle = true ↔
      ReflTransGen workspace.HangsOn handle candidate := by
  rw [isAncestor, leadsUpTo_iff, ← exists_climb_iff]
  constructor
  · rintro ⟨taken, _, reached⟩
    exact ⟨taken, reached⟩
  · rintro ⟨taken, reached⟩
    exact ⟨taken, climb_le_size linked reached, reached⟩

end Workspace

end Marquee
