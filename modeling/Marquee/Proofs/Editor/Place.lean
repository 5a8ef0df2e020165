import Marquee.Editor.Workspace

/-!
# Places in a workspace

A block hangs at a place of another one: in a socket of it, or after it. A workspace is looked at
through three views, what a block is by itself, what it holds at a place, and what it hangs on.
Plugging and linking are one operation on these views, `attach`.
-/

namespace Marquee

/-- A spot of a block at which another block can hang. -/
inductive Place where
  | socket (name : String)
  | after
  deriving DecidableEq, Repr

namespace Block

/-- What a block is by itself, without its connections. -/
structure Own where
  id : String
  kind : Kind
  fields : Table FieldValue
  deriving DecidableEq

def own (block : Block) : Own :=
  ⟨block.id, block.kind, block.fields⟩

def held? (block : Block) : Place → Option Nat
  | .socket name => block.sockets.get? name
  | .after => block.next

def hold (place : Place) (child : Nat) (block : Block) : Block :=
  match place with
  | .socket name => { block with sockets := block.sockets.set name child }
  | .after => { block with next := some child }

/-- The block without a child that it may hold. -/
def release (child : Nat) (block : Block) : Block :=
  { block with
    next := if block.next = some child then none else block.next
    sockets := block.sockets.keep fun plugged => plugged != child }

def hangOn (parent : Option Nat) (block : Block) : Block :=
  { block with parent := parent }

@[simp] theorem own_hold (place : Place) (child : Nat) (block : Block) :
    (block.hold place child).own = block.own := by
  cases place <;> rfl

@[simp] theorem own_release (child : Nat) (block : Block) :
    (block.release child).own = block.own := rfl

@[simp] theorem own_hangOn (parent : Option Nat) (block : Block) :
    (block.hangOn parent).own = block.own := rfl

@[simp] theorem parent_hold (place : Place) (child : Nat) (block : Block) :
    (block.hold place child).parent = block.parent := by
  cases place <;> rfl

@[simp] theorem parent_release (child : Nat) (block : Block) :
    (block.release child).parent = block.parent := rfl

@[simp] theorem parent_hangOn (parent : Option Nat) (block : Block) :
    (block.hangOn parent).parent = parent := rfl

@[simp] theorem held?_hangOn (parent : Option Nat) (block : Block) :
    (block.hangOn parent).held? = block.held? := by
  funext place
  cases place <;> rfl

theorem held?_hold (place other : Place) (child : Nat) (block : Block) :
    (block.hold place child).held? other =
      if other = place then some child else block.held? other := by
  cases place with
  | socket name =>
      cases other with
      | socket otherName => simp [hold, held?, Table.get?_set]
      | after => simp [hold, held?]
  | after =>
      cases other with
      | socket otherName => simp [hold, held?]
      | after => simp [hold, held?]

private theorem filter_ne (child : Nat) (found : Option Nat) :
    found.filter (fun plugged => plugged != child) =
      if found = some child then none else found := by
  cases found with
  | none => simp
  | some plugged => by_cases same : plugged = child <;> simp [same, Option.filter]

theorem held?_release {block : Block} (distinct : block.sockets.Distinct) (child : Nat)
    (place : Place) :
    (block.release child).held? place =
      if block.held? place = some child then none else block.held? place := by
  cases place with
  | socket name =>
      simp only [release, held?, Table.get?_keep _ distinct]
      exact filter_ne child (block.sockets.get? name)
  | after => rfl

theorem distinct_hold {block : Block} (distinct : block.sockets.Distinct) (place : Place)
    (child : Nat) : (block.hold place child).sockets.Distinct := by
  cases place with
  | socket name => exact Table.distinct_set name child distinct
  | after => exact distinct

theorem distinct_release {block : Block} (distinct : block.sockets.Distinct) (child : Nat) :
    (block.release child).sockets.Distinct :=
  Table.distinct_keep _ distinct

theorem distinct_hangOn {block : Block} (distinct : block.sockets.Distinct)
    (parent : Option Nat) : (block.hangOn parent).sockets.Distinct :=
  distinct

end Block

namespace Workspace

def own? (workspace : Workspace) (handle : Nat) : Option Block.Own :=
  (workspace.block? handle).map Block.own

def parent? (workspace : Workspace) (handle : Nat) : Option Nat :=
  (workspace.block? handle).bind Block.parent

def held? (workspace : Workspace) (holder : Nat) (place : Place) : Option Nat :=
  (workspace.block? holder).bind fun block => block.held? place

theorem block?_modify (workspace : Workspace) (handle other : Nat) (change : Block → Block) :
    (workspace.modify handle change).block? other =
      if handle = other then (workspace.block? other).map change else workspace.block? other :=
  Array.getElem?_modify

theorem block?_eq_some_iff {workspace : Workspace} {handle : Nat} {block : Block} :
    workspace.block? handle = some block ↔
      ∃ inside : handle < workspace.blocks.size, workspace.blocks[handle] = block :=
  Array.getElem?_eq_some_iff

theorem lt_size_of_block? {workspace : Workspace} {handle : Nat} {block : Block}
    (found : workspace.block? handle = some block) : handle < workspace.blocks.size :=
  (block?_eq_some_iff.mp found).1

theorem exists_block? {workspace : Workspace} {handle : Nat}
    (inside : handle < workspace.blocks.size) :
    ∃ block, workspace.block? handle = some block :=
  ⟨workspace.blocks[handle], block?_eq_some_iff.mpr ⟨inside, rfl⟩⟩

theorem block?_eq_none_iff {workspace : Workspace} {handle : Nat} :
    workspace.block? handle = none ↔ workspace.blocks.size ≤ handle :=
  Array.getElem?_eq_none_iff

theorem lt_size_of_held? {workspace : Workspace} {holder child : Nat} {place : Place}
    (holds : workspace.held? holder place = some child) : holder < workspace.blocks.size := by
  obtain ⟨block, found, _⟩ := Option.bind_eq_some_iff.mp holds
  exact lt_size_of_block? found

theorem lt_size_of_parent? {workspace : Workspace} {child parent : Nat}
    (hangs : workspace.parent? child = some parent) : child < workspace.blocks.size := by
  obtain ⟨block, found, _⟩ := Option.bind_eq_some_iff.mp hangs
  exact lt_size_of_block? found

/-- Makes what hangs at a place a top block. -/
def vacate (workspace : Workspace) (holder : Nat) (place : Place) : Workspace :=
  match workspace.held? holder place with
  | some occupant => workspace.detach occupant
  | none => workspace

/-- Writes a connection into both of its ends. -/
def fasten (workspace : Workspace) (parent : Nat) (place : Place) (child : Nat) : Workspace :=
  (workspace.modify parent (Block.hold place child)).modify child (Block.hangOn (some parent))

/-- Moves a block to a place; what was there before becomes a top block. -/
def attach (workspace : Workspace) (parent : Nat) (place : Place) (child : Nat) : Workspace :=
  ((workspace.detach child).vacate parent place).fasten parent place child

theorem plug_eq_attach (workspace : Workspace) (parent : Nat) (socket : String) (child : Nat) :
    workspace.plug parent socket child = workspace.attach parent (.socket socket) child := by
  unfold plug attach vacate fasten held?
  dsimp only
  cases (workspace.detach child).block? parent with
  | none => rfl
  | some block =>
      simp only [Option.bind_some, Block.held?]
      cases block.sockets.get? socket <;> rfl

theorem link_eq_attach (workspace : Workspace) (previous next : Nat) :
    workspace.link previous next = workspace.attach previous .after next := by
  unfold link attach vacate fasten held?
  dsimp only
  cases (workspace.detach next).block? previous with
  | none => rfl
  | some block =>
      obtain ⟨id, kind, fields, sockets, follower, parent⟩ := block
      cases follower <;> rfl

theorem detach_of_top {workspace : Workspace} {child : Nat}
    (top : workspace.parent? child = none) : workspace.detach child = workspace := by
  simp only [detach]
  simp only [parent?] at top
  cases found : workspace.block? child with
  | none => rfl
  | some block =>
      obtain ⟨id, kind, fields, sockets, next, parent⟩ := block
      cases parent with
      | none => rfl
      | some parent => simp [found] at top

theorem detach_of_parent {workspace : Workspace} {child parent : Nat}
    (hangs : workspace.parent? child = some parent) :
    workspace.detach child =
      (workspace.modify parent (Block.release child)).modify child (Block.hangOn none) := by
  simp only [detach]
  simp only [parent?] at hangs
  cases found : workspace.block? child with
  | none => simp [found] at hangs
  | some block =>
      obtain ⟨id, kind, fields, sockets, next, above⟩ := block
      have same : above = some parent := by simpa [found] using hangs
      subst same
      rfl

/-- A block that hangs on nothing and goes to an empty place only has to be fastened. -/
theorem attach_of_top {workspace : Workspace} {parent child : Nat} {place : Place}
    (top : workspace.parent? child = none) (vacant : workspace.held? parent place = none) :
    workspace.attach parent place child = workspace.fasten parent place child := by
  simp only [attach, vacate]
  rw [detach_of_top top, vacant]

@[simp] theorem size_modify (workspace : Workspace) (handle : Nat) (change : Block → Block) :
    (workspace.modify handle change).blocks.size = workspace.blocks.size :=
  Array.size_modify

private theorem own?_modify {change : Block → Block}
    (same : ∀ block, (change block).own = block.own) (workspace : Workspace) (handle : Nat) :
    (workspace.modify handle change).own? = workspace.own? := by
  funext other
  simp only [own?]
  rw [block?_modify]
  split
  · cases workspace.block? other <;> simp [same]
  · rfl

/-- Connections change neither how many blocks there are nor what they are by themselves. -/
structure SameBlocks (before after : Workspace) : Prop where
  size : after.blocks.size = before.blocks.size
  ids : after.ids = before.ids
  own? : after.own? = before.own?

theorem SameBlocks.refl (workspace : Workspace) : SameBlocks workspace workspace :=
  ⟨rfl, rfl, rfl⟩

theorem SameBlocks.trans {first second third : Workspace} (before : SameBlocks first second)
    (after : SameBlocks second third) : SameBlocks first third :=
  ⟨after.size.trans before.size, after.ids.trans before.ids, after.own?.trans before.own?⟩

private theorem sameBlocks_modify {change : Block → Block}
    (same : ∀ block, (change block).own = block.own) (workspace : Workspace) (handle : Nat) :
    SameBlocks workspace (workspace.modify handle change) :=
  ⟨size_modify .., rfl, own?_modify same workspace handle⟩

theorem sameBlocks_detach (workspace : Workspace) (child : Nat) :
    SameBlocks workspace (workspace.detach child) := by
  cases hangs : workspace.parent? child with
  | none =>
      rw [detach_of_top hangs]
      exact .refl workspace
  | some parent =>
      rw [detach_of_parent hangs]
      exact (sameBlocks_modify (Block.own_release child) workspace parent).trans <|
        sameBlocks_modify (Block.own_hangOn none) _ child

theorem sameBlocks_vacate (workspace : Workspace) (holder : Nat) (place : Place) :
    SameBlocks workspace (workspace.vacate holder place) := by
  simp only [vacate]
  split
  · exact sameBlocks_detach ..
  · exact .refl workspace

theorem sameBlocks_fasten (workspace : Workspace) (parent : Nat) (place : Place) (child : Nat) :
    SameBlocks workspace (workspace.fasten parent place child) :=
  (sameBlocks_modify (Block.own_hold place child) workspace parent).trans <|
    sameBlocks_modify (Block.own_hangOn (some parent)) _ child

theorem sameBlocks_attach (workspace : Workspace) (parent : Nat) (place : Place) (child : Nat) :
    SameBlocks workspace (workspace.attach parent place child) :=
  ((sameBlocks_detach workspace child).trans (sameBlocks_vacate ..)).trans
    (sameBlocks_fasten ..)

end Workspace

end Marquee
