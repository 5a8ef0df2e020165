import Marquee.Proofs.Editor.Unrepeated
import Mathlib.Algebra.Order.Group.Multiset

/-!
# The calls of a load

An editor can be made to keep a log of all calls that it answers. What work on a load does to the
report and to the ids on record is then read off the calls that it adds to the log: `Books` says
how. The books of two pieces of work, one after the other, are put together from theirs.
-/

namespace Marquee

/-- A connection that an editor is asked for. -/
inductive Connection (β : Type) where
  | statement (parent : β) (socket : String) (child : β)
  | value (parent : β) (socket : String) (child : β)
  | next (previous child : β)

namespace Connection

variable {β : Type}

def parent : Connection β → β
  | statement parent _ _ => parent
  | value parent _ _ => parent
  | next previous _ => previous

def child : Connection β → β
  | statement _ _ child => child
  | value _ _ child => child
  | next _ child => child

end Connection

/-- A call to an editor, and what it answered. -/
inductive Call (β : Type) where
  | allocate (kind : Kind) (answer : Except Refusal β)
  | setField (block : β) (field : String) (value : FieldValue) (answer : Except Refusal Unit)
  | connect (connection : Connection β) (answer : Except Refusal Unit)

namespace Call

variable {β : Type}

/-- The block that the call made. -/
def made? : Call β → Option β
  | allocate _ (.ok block) => some block
  | _ => none

/-- The kind of the block that the call made. -/
def madeKind? : Call β → Option Kind
  | allocate kind (.ok _) => some kind
  | _ => none

/-- The blocks that the call is about. -/
def handles : Call β → List β
  | allocate _ _ => []
  | setField block _ _ _ => [block]
  | connect connection _ => [connection.parent, connection.child]

/-- The block that the call was to hang on another one. -/
def child? : Call β → Option β
  | connect connection _ => some connection.child
  | _ => none

/-- Whether the call made a block be left out: it was refused, and it was not for a field. -/
def isSkip : Call β → Bool
  | allocate _ (.error _) => true
  | connect _ (.error _) => true
  | _ => false

end Call

variable {σ β : Type}

/-- The blocks that were made, in order. -/
def madeBlocks (log : List (Call β)) : List β :=
  log.filterMap Call.made?

def madeKinds (log : List (Call β)) : List Kind :=
  log.filterMap Call.madeKind?

/-- The blocks that were to be hung on others, once for each call. -/
def children (log : List (Call β)) : List β :=
  log.filterMap Call.child?

/-- Every call is about blocks that are known by then: known from the start, or made before. -/
def Known : List β → List (Call β) → Prop
  | _, [] => True
  | known, call :: rest =>
    (∀ block ∈ call.handles, block ∈ known) ∧ Known (call.made?.toList ++ known) rest

theorem Known.mono {known more : List β} {log : List (Call β)} (within : known ⊆ more)
    (holds : Known known log) : Known more log := by
  induction log generalizing known more with
  | nil => trivial
  | cons call rest inductionHypothesis =>
      obtain ⟨first, others⟩ := holds
      refine ⟨fun block member => within (first block member), ?_⟩
      refine inductionHypothesis ?_ others
      exact List.append_subset.mpr ⟨List.subset_append_left _ _,
        fun _ member => List.mem_append_right _ (within member)⟩

theorem Known.append {known : List β} {first second : List (Call β)} (early : Known known first)
    (late : Known known second) : Known known (first ++ second) := by
  induction first generalizing known with
  | nil => exact late
  | cons call rest inductionHypothesis =>
      refine ⟨early.1, inductionHypothesis early.2 ?_⟩
      exact late.mono (List.subset_append_right _ _)

namespace Sink

def connect (sink : Sink σ β) : Connection β → σ → Except Refusal Unit × σ
  | .statement parent socket child => sink.connectStatement parent socket child
  | .value parent socket child => sink.connectValue parent socket child
  | .next previous child => sink.connectNext previous child

/-- An answer, and the state after it, in which the call is logged. -/
def log {α : Type} (calls : List (Call β)) (call : Except Refusal α → Call β)
    (answer : Except Refusal α × σ) : Except Refusal α × σ × List (Call β) :=
  (answer.1, answer.2, calls ++ [call answer.1])

/-- The same editor, keeping a log of the calls that it answers. -/
def logged (sink : Sink σ β) : Sink (σ × List (Call β)) β where
  allocate kind state := log state.2 (.allocate kind) (sink.allocate kind state.1)
  setField block field value state :=
    log state.2 (.setField block field value) (sink.setField block field value state.1)
  connectStatement parent socket child state :=
    log state.2 (.connect (.statement parent socket child))
      (sink.connect (.statement parent socket child) state.1)
  connectValue parent socket child state :=
    log state.2 (.connect (.value parent socket child))
      (sink.connect (.value parent socket child) state.1)
  connectNext previous next state :=
    log state.2 (.connect (.next previous next)) (sink.connect (.next previous next) state.1)

theorem connect_logged (sink : Sink σ β) (connection : Connection β)
    (state : σ × List (Call β)) :
    sink.logged.connect connection state =
      log state.2 (.connect connection) (sink.connect connection state.1) := by
  cases connection <;> rfl

end Sink

namespace Loading

/-- The load without the log. -/
def forget (loading : Loading (σ × List (Call β)) β) : Loading σ β :=
  ⟨loading.editor.1, loading.placed, loading.report⟩

end Loading

/-- A block that a load made: the id and the kind it was to have, and the block. -/
structure Made (β : Type) where
  id : Option String
  kind : Kind
  block : β

namespace Made

def wanted (entry : Made β) : Option String × Kind :=
  (entry.id, entry.kind)

/-- What is put on record for the block. -/
def recorded? (entry : Made β) : Option (String × β) :=
  entry.id.map (·, entry.block)

theorem map_recorded (entries : List (Made β)) :
    (entries.filterMap recorded?).map Prod.fst = entries.filterMap id := by
  rw [List.map_filterMap]
  refine congrArg (List.filterMap · entries) (funext fun entry => ?_)
  rw [recorded?, Option.map_map]
  exact Option.map_id'

end Made

namespace Loading

/-! ## Books -/

/-- The books of a piece of work. It knew some blocks, some of which were still loose, and it was
to make blocks with these ids and of these kinds. The log tells what it did: what was made counts as
created and what was refused as skipped, the calls are about known blocks, and no block is hung more
often than it was loose or made. The entries tell which of the blocks were made; their ids went on
record, and they are different and new. All blocks were made if no id was met again and nothing was
refused. -/
structure Books (known loose : List β) (blocks : List (Option String × Kind))
    (before after : Loading (σ × List (Call β)) β) (log : List (Call β))
    (entries : List (Made β)) : Prop where
  written : after.editor.2 = before.editor.2 ++ log
  created : after.report.created = before.report.created + (madeBlocks log).length
  reused : before.report.reused ≤ after.report.reused
  skipped : after.report.skipped = before.report.skipped + log.countP Call.isSkip
  calls : Known known log
  hung : (children log : Multiset β) ≤ loose + madeBlocks log
  among : (entries.map Made.wanted).Sublist blocks
  kinds : entries.map Made.kind = madeKinds log
  handles : entries.map Made.block = madeBlocks log
  placed : after.placed = (entries.filterMap Made.recorded?).reverse ++ before.placed
  nodup : before.recorded.Nodup → after.recorded.Nodup
  complete : after.report.reused = before.report.reused →
    after.report.skipped = before.report.skipped → entries.map Made.wanted = blocks

/-- Work on a load into a logging editor keeps books, and but for the log it is the same as the
plain work. -/
def Accounted (known loose : List β) (blocks : List (Option String × Kind))
    (work : Loading (σ × List (Call β)) β → Loading (σ × List (Call β)) β)
    (plain : Loading σ β → Loading σ β) : Prop :=
  ∀ before, (work before).forget = plain before.forget ∧
    ∃ log entries, Books known loose blocks before (work before) log entries

section

variable {known loose looser : List β} {blocks more : List (Option String × Kind)}

theorem Books.nothing (known : List β) (loading : Loading (σ × List (Call β)) β) :
    Books known [] [] loading loading [] [] where
  written := (List.append_nil _).symm
  created := rfl
  reused := le_refl _
  skipped := rfl
  calls := trivial
  hung := Multiset.zero_le _
  among := .slnil
  kinds := rfl
  handles := rfl
  placed := rfl
  nodup distinct := distinct
  complete _ _ := rfl

theorem Books.trans {before middle after : Loading (σ × List (Call β)) β}
    {first second : List (Call β)} {early late : List (Made β)}
    (earlier : Books known loose blocks before middle first early)
    (later : Books known looser more middle after second late) :
    Books known (loose ++ looser) (blocks ++ more) before after (first ++ second)
      (early ++ late) where
  written := by rw [later.written, earlier.written, List.append_assoc]
  created := by
    rw [later.created, earlier.created, madeBlocks, madeBlocks, madeBlocks, List.filterMap_append,
      List.length_append, Nat.add_assoc]
  reused := earlier.reused.trans later.reused
  skipped := by rw [later.skipped, earlier.skipped, List.countP_append, Nat.add_assoc]
  calls := earlier.calls.append later.calls
  hung := by
    have both := add_le_add earlier.hung later.hung
    rw [add_add_add_comm] at both
    simpa only [children, madeBlocks, List.filterMap_append, Multiset.coe_add] using both
  among := by
    rw [List.map_append]
    exact earlier.among.append later.among
  kinds := by
    rw [List.map_append, earlier.kinds, later.kinds, madeKinds, madeKinds, madeKinds,
      List.filterMap_append]
  handles := by
    rw [List.map_append, earlier.handles, later.handles, madeBlocks, madeBlocks, madeBlocks,
      List.filterMap_append]
  placed := by
    rw [later.placed, earlier.placed, List.filterMap_append, List.reverse_append,
      List.append_assoc]
  nodup distinct := later.nodup (earlier.nodup distinct)
  complete sameReused sameSkipped := by
    have reusedFirst := earlier.reused
    have reusedSecond := later.reused
    have skippedFirst := earlier.skipped
    have skippedSecond := later.skipped
    have first := earlier.complete (by omega) (by omega)
    have second := later.complete (by omega) (by omega)
    rw [List.map_append, first, second]

theorem Books.weaken {other : List β} {before after : Loading (σ × List (Call β)) β}
    {log : List (Call β)} {entries : List (Made β)}
    (books : Books known loose blocks before after log entries) (within : known ⊆ other)
    (less : (loose : Multiset β) ≤ looser) :
    Books other looser blocks before after log entries :=
  { books with
    calls := books.calls.mono within
    hung := books.hung.trans (add_le_add_left less _) }

/-- Where something was refused, less was made than there was to make. -/
theorem Books.refused {before after : Loading (σ × List (Call β)) β} {log : List (Call β)}
    (books : Books known loose [] before after log []) (refused : log.countP Call.isSkip ≠ 0)
    (blocks : List (Option String × Kind)) : Books known loose blocks before after log [] :=
  { books with
    among := List.nil_sublist _
    complete := fun _ same => by
      have counted := books.skipped
      omega }

theorem Accounted.nothing (known : List β) :
    Accounted known [] [] (fun loading : Loading (σ × List (Call β)) β => loading)
      fun loading => loading :=
  fun before => ⟨rfl, [], [], Books.nothing known before⟩

theorem Accounted.weaken {other : List β}
    {work : Loading (σ × List (Call β)) β → Loading (σ × List (Call β)) β}
    {plain : Loading σ β → Loading σ β} (accounted : Accounted known loose blocks work plain)
    (within : known ⊆ other) (less : (loose : Multiset β) ≤ looser) :
    Accounted other looser blocks work plain := by
  intro before
  obtain ⟨same, log, entries, books⟩ := accounted before
  exact ⟨same, log, entries, books.weaken within less⟩

/-- Books are kept for two pieces of work, one after the other. -/
theorem Accounted.andThen
    {first second : Loading (σ × List (Call β)) β → Loading (σ × List (Call β)) β}
    {plain next : Loading σ β → Loading σ β} (earlier : Accounted known loose blocks first plain)
    (later : Accounted known looser more second next) :
    Accounted known (loose ++ looser) (blocks ++ more) (fun loading => second (first loading))
      fun loading => next (plain loading) := by
  intro before
  obtain ⟨sameFirst, log, entries, books⟩ := earlier before
  obtain ⟨sameSecond, others, rest, further⟩ := later (first before)
  refine ⟨?_, log ++ others, entries ++ rest, books.trans further⟩
  rw [sameSecond, sameFirst]

end

section

variable (sink : Sink σ β)

theorem accounted_setField (block : β) (field : String) (value : FieldValue) :
    Accounted [block] [] [] (setField sink.logged block field value)
      (setField sink block field value) := by
  intro before
  exact ⟨rfl, [.setField block field value _], [], {
    written := rfl
    created := rfl
    reused := le_refl _
    skipped := rfl
    calls := ⟨fun _ member => member, trivial⟩
    hung := Multiset.zero_le _
    among := .slnil
    kinds := rfl
    handles := rfl
    placed := rfl
    nodup := fun distinct => distinct
    complete := fun _ _ => rfl }⟩

/-- A connection hangs one loose block. -/
theorem books_connection (connection : Connection β) (answer : Except Refusal Unit)
    (before after : Loading (σ × List (Call β)) β) {known : List β}
    (parent : connection.parent ∈ known) (child : connection.child ∈ known)
    (written : after.editor.2 = before.editor.2 ++ [.connect connection answer])
    (created : after.report.created = before.report.created)
    (reused : after.report.reused = before.report.reused)
    (skipped : after.report.skipped =
      before.report.skipped + [Call.connect connection answer].countP Call.isSkip)
    (placed : after.placed = before.placed) :
    Books known [connection.child] [] before after [.connect connection answer] [] where
  written := written
  created := created
  reused := Nat.le_of_eq reused.symm
  skipped := skipped
  calls := ⟨List.forall_mem_cons.mpr ⟨parent, List.forall_mem_singleton.mpr child⟩, trivial⟩
  hung := le_of_eq (add_zero _).symm
  among := .slnil
  kinds := rfl
  handles := rfl
  placed := placed
  nodup distinct := by
    rw [recorded, placed]
    exact distinct
  complete _ _ := rfl

theorem accounted_settle (connection : Connection β) {known : List β}
    (parent : connection.parent ∈ known) (child : connection.child ∈ known) :
    Accounted known [connection.child] []
      (fun loading => loading.settle (sink.logged.connect connection loading.editor))
      fun loading => loading.settle (sink.connect connection loading.editor) := by
  intro before
  dsimp only
  rw [Sink.connect_logged]
  dsimp only [forget]
  generalize sink.connect connection before.editor.1 = answer
  obtain ⟨refusal | granted, editor⟩ := answer
  · exact ⟨rfl, _, [], books_connection _ _ _ _ parent child rfl rfl rfl rfl rfl⟩
  · exact ⟨rfl, _, [], books_connection _ _ _ _ parent child rfl rfl rfl rfl rfl⟩

theorem accounted_follow {previous block : β} {known loose : List β}
    {blocks : List (Option String × Kind)}
    {rest : Loading (σ × List (Call β)) β → Loading (σ × List (Call β)) β}
    {plain : Loading σ β → Loading σ β} (parent : previous ∈ known) (child : block ∈ known)
    (rests : Accounted known loose blocks rest plain) :
    Accounted known (block :: loose) blocks
      (fun loading => loading.follow sink.logged previous block rest)
      fun loading => loading.follow sink previous block plain := by
  intro before
  have asked := sink.connect_logged (.next previous block) before.editor
  simp only [Sink.connect] at asked
  simp only [follow]
  rw [asked]
  dsimp only [forget]
  generalize sink.connectNext previous block before.editor.1 = answer
  obtain ⟨refusal | granted, editor⟩ := answer
  · have books := books_connection (.next previous block) (.error refusal) before
      (skip { before with editor := (editor, _) }) parent child rfl rfl rfl rfl rfl
    refine ⟨rfl, _, [], (books.weaken (List.Subset.refl _) ?_).refused (Nat.succ_ne_zero 0) _⟩
    exact Multiset.coe_le.mpr (List.Sublist.subperm (List.singleton_sublist.mpr List.mem_cons_self))
  · have books := books_connection (.next previous block) (.ok granted) before
      { before with editor := (editor, _) } parent child rfl rfl rfl rfl rfl
    obtain ⟨same, log, entries, further⟩ := rests { before with editor := (editor, _) }
    exact ⟨same, _, _, books.trans further⟩

/-- A load after it made a block, which put the id of the block on record. -/
def enter (loading : Loading σ β) (id : Option String) (block : β) (editor : σ) :
    Loading σ β where
  editor := editor
  placed :=
    match id with
    | some id => (id, block) :: loading.placed
    | none => loading.placed
  report := { loading.report with created := loading.report.created + 1 }

/-- A block that was made is one of the blocks to make, and its id is new. -/
theorem books_made {id : Option String} {kind : Kind} {known : List β} {block : β}
    {before after : Loading (σ × List (Call β)) β}
    (written : after.editor.2 = before.editor.2 ++ [.allocate kind (.ok block)])
    (created : after.report.created = before.report.created + 1)
    (reused : after.report.reused = before.report.reused)
    (skipped : after.report.skipped = before.report.skipped)
    (placed : after.placed = (id.map (·, block)).toList ++ before.placed)
    (new : ∀ name ∈ id, name ∉ before.recorded) :
    Books known [] [(id, kind)] before after [.allocate kind (.ok block)] [⟨id, kind, block⟩] where
  written := written
  created := created
  reused := Nat.le_of_eq reused.symm
  skipped := skipped
  calls := ⟨fun _ member => absurd member List.not_mem_nil, trivial⟩
  hung := Multiset.zero_le _
  among := List.Sublist.refl _
  kinds := rfl
  handles := rfl
  placed := by
    rw [placed]
    cases id <;> rfl
  nodup distinct := by
    rw [recorded, placed]
    cases id with
    | none => exact distinct
    | some name => exact List.nodup_cons.mpr ⟨new name rfl, distinct⟩
  complete _ _ := rfl

/-- The log goes on with what was made, which is known from then on and was loose at first. -/
theorem Books.afterMade {id : Option String} {kind : Kind} {known : List β} {block : β}
    {blocks : List (Option String × Kind)} {entries : List (Made β)}
    {before middle after : Loading (σ × List (Call β)) β} {log : List (Call β)}
    (making : Books known [] [(id, kind)] before middle [.allocate kind (.ok block)]
      [⟨id, kind, block⟩])
    (later : Books (block :: known) [block] blocks middle after log entries) :
    Books known [] ((id, kind) :: blocks) before after (.allocate kind (.ok block) :: log)
      (⟨id, kind, block⟩ :: entries) where
  written := by
    rw [later.written, making.written, List.append_assoc]
    rfl
  created := by
    rw [later.created, making.created, Nat.add_assoc, Nat.add_comm (List.length _)]
    rfl
  reused := making.reused.trans later.reused
  skipped := by
    rw [later.skipped, making.skipped]
    rfl
  calls := ⟨making.calls.1, later.calls⟩
  hung := later.hung
  among := later.among.cons_cons _
  kinds := by
    rw [List.map_cons, later.kinds]
    rfl
  handles := by
    rw [List.map_cons, later.handles]
    rfl
  placed := by
    rw [later.placed, making.placed, ← List.append_assoc, ← List.reverse_append,
      ← List.filterMap_append]
    rfl
  nodup distinct := later.nodup (making.nodup distinct)
  complete sameReused sameSkipped := by
    have reusedFirst := making.reused
    have reusedSecond := later.reused
    have skippedFirst := making.skipped
    have skippedSecond := later.skipped
    rw [List.map_cons, later.complete (by omega) (by omega)]
    rfl

/-- Making a block and going on with it, unless it is an old one or refused. -/
theorem accounted_make (id : Option String) (kind : Kind) {known : List β}
    {blocks : List (Option String × Kind)}
    {build : β → Loading (σ × List (Call β)) β → Loading (σ × List (Call β)) β}
    {plain : β → Loading σ β → Loading σ β}
    (builds : ∀ block, Accounted (block :: known) [block] blocks (build block) (plain block)) :
    Accounted known [] ((id, kind) :: blocks) (make sink.logged id kind build)
      (make sink id kind plain) := by
  intro before
  simp only [make, place]
  dsimp only [forget, Sink.logged, Sink.log]
  generalize looked : (id.bind fun id => before.placed.lookup id) = found
  cases found with
  | some block =>
      have books := Books.nothing known before
      exact ⟨rfl, [], [], { books with
        reused := Nat.le_succ _
        among := List.nil_sublist _
        complete := fun same _ => absurd same (Nat.succ_ne_self _) }⟩
  | none =>
      have new : ∀ name ∈ id, name ∉ before.recorded := by
        rintro name rfl member
        obtain ⟨entry, among, rfl⟩ := List.mem_map.mp member
        have absent := List.lookup_eq_none_iff.mp looked entry among
        exact bne_iff_ne.mp absent rfl
      generalize sink.allocate kind before.editor.1 = answer
      obtain ⟨refusal | block, editor⟩ := answer
      · have books := Books.nothing known before
        exact ⟨rfl, [.allocate kind (.error refusal)], [], { books with
          written := rfl
          skipped := rfl
          calls := ⟨fun _ member => absurd member List.not_mem_nil, trivial⟩
          among := List.nil_sublist _
          complete := fun _ same => absurd same (Nat.succ_ne_self _) }⟩
      · let middle := before.enter id block
          (editor, before.editor.2 ++ [.allocate kind (.ok block)])
        have making : Books known [] [(id, kind)] before middle _ [⟨id, kind, block⟩] :=
          books_made rfl rfl rfl rfl (by cases id <;> rfl) new
        obtain ⟨same, log, entries, later⟩ := builds block middle
        exact ⟨same, _, _, making.afterMade later⟩

end

end Loading

end Marquee
