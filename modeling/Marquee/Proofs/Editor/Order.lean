import Mathlib.Algebra.Ring.Nat
import Marquee.Proofs.Editor.Filling
import Marquee.Proofs.Editor.Numbering
import Marquee.Proofs.Editor.RoundTrip
import Marquee.Proofs.Editor.Subtree

/-!
# Blocks are made in reading order

A load without ids makes the blocks of a program in the order in which they are read afterwards:
what hangs below a block is right behind it, without gaps. A block is followed while it is built,
place by place; what hangs at the places that are done is a run of blocks, and the next place
continues it.
-/

namespace Marquee

open Workspace Loading

namespace Workspace

/-- Below a place of a block, in reading order, are so many blocks from a first one on. -/
def Consecutive (workspace : Workspace) (first count : Nat) (head : Option Nat) : Prop :=
  ∀ depth, count ≤ depth → workspace.subtree depth head = List.range' first count

theorem subtree_none (workspace : Workspace) (depth : Nat) : workspace.subtree depth none = [] := by
  cases depth <;> rfl

private theorem consecutive_none (workspace : Workspace) (first : Nat) :
    workspace.Consecutive first 0 none :=
  fun depth _ => workspace.subtree_none depth

/-- A block that is done is there with all that is below it. -/
theorem Looks.consecutive {final : Workspace} {first count : Nat} {look : Look}
    (looks : final.Looks first look)
    (inside : ∀ depth, count ≤ depth →
      (look.kind.places.flatMap fun place => final.subtree depth (look.held place)) =
        List.range' (first + 1) count) :
    final.Consecutive first (count + 1) (some first) := by
  intro depth enough
  obtain ⟨less, rfl⟩ := Nat.exists_eq_add_of_le' enough
  rw [← Nat.add_assoc, subtree_succ looks.kind, looks.held, inside _ (Nat.le_add_left count less),
    List.range'_succ]

end Workspace

namespace Loading

/-- Work that began with a new block of a kind. Some of its places are done; with what hangs there,
a number of blocks were made right behind it. -/
def Underway (kind : Kind) (done : List Place) (grip : Option (Nat × Place)) (count : Nat)
    (before after : Loading Workspace Nat) : Prop :=
  ∃ look, look.kind = kind ∧ (∀ place, place ∉ done → look.held place = none) ∧
    Lays look grip (count + 1)
      (fun final => ∀ depth, count ≤ depth →
        (done.flatMap fun place => final.subtree depth (look.held place)) =
          List.range' (before.editor.blocks.size + 1) count)
      before after

variable {kind below : Kind} {done : List Place} {grip : Option (Nat × Place)} {count : Nat}
  {owner : Nat} {place : Place} {before middle after : Loading Workspace Nat}

private theorem underway_made (rising : before.editor.Rising) (kind : Kind) :
    Underway kind [] none 0 before (before.made kind) :=
  ⟨.blank kind, rfl, fun _ _ => rfl,
    { lays_made rising kind with inner := fun _ _ _ => rfl }⟩

theorem Underway.ready (underway : Underway kind done grip count before middle)
    (new : place ∉ done) : Ready kind before.editor.blocks.size place middle := by
  obtain ⟨look, rfl, free, lays⟩ := underway
  exact lays.ready (free place new)

theorem Underway.setFields (underway : Underway kind done grip count before middle)
    (fields : List (String × FieldValue)) (known : ∀ field ∈ fields, field.1 ∈ kind.fields) :
    Underway kind done grip count before
      (middle.setFields sink before.editor.blocks.size fields) := by
  induction fields generalizing middle with
  | nil => exact underway
  | cons field fields inductionHypothesis =>
      obtain ⟨first, rest⟩ := List.forall_mem_cons.mp known
      obtain ⟨look, rfl, free, lays⟩ := underway
      have written := lays.write first field.2
      exact inductionHypothesis ⟨look.write field.1 field.2, rfl, free, written⟩ rest

/-- What fills the next place continues the run. -/
theorem Underway.fill (underway : Underway kind done grip count before middle)
    (new : place ∉ done) {head : Option Nat} {more : Nat}
    (fills : Fills before.editor.blocks.size place head more
      (fun final => final.Consecutive middle.editor.blocks.size more head) middle after) :
    Underway kind (done ++ [place]) grip (count + more) before after := by
  obtain ⟨look, rfl, free, lays⟩ := underway
  have whole := lays.fill fills
  rw [Nat.add_right_comm] at whole
  refine ⟨look.hang place head, rfl, ?_, { whole with inner := ?_ }⟩
  · intro other outside
    rw [List.mem_append, not_or, List.mem_singleton] at outside
    rw [Look.hang]
    exact (if_neg outside.2).trans (free other outside.1)
  · intro final agrees depth enough
    obtain ⟨earlier, later⟩ := whole.inner agrees
    have kept : (done.flatMap fun other =>
        final.subtree depth ((look.hang place head).held other)) =
          List.range' (before.editor.blocks.size + 1) count := by
      rw [← earlier depth (Nat.le_of_add_right_le enough)]
      refine List.flatMap_congr fun other among => ?_
      have elsewhere : (look.hang place head).held other = look.held other :=
        if_neg fun same : other = place => new (same ▸ among)
      rw [elsewhere]
    have here : (look.hang place head).held place = head := if_pos rfl
    rw [List.flatMap_append, kept, List.flatMap_singleton, here,
      later depth (Nat.le_of_add_left_le enough), lays.size, ← Nat.add_assoc,
      Nat.add_right_comm, List.range'_append_1]

/-- Where nothing was to hang, nothing hangs. -/
theorem Underway.all (underway : Underway kind done grip count before after) {rest : List Place}
    (places : kind.places = done ++ rest) : Underway kind kind.places grip count before after := by
  obtain ⟨look, rfl, free, lays⟩ := underway
  have apart : ∀ place ∈ rest, place ∉ done := by
    have distinct := look.kind.nodup_places
    rw [places, List.nodup_append] at distinct
    exact fun place among also => distinct.2.2 place also place among rfl
  refine ⟨look, rfl, ?_, { lays with inner := ?_ }⟩
  · intro place outside
    refine free place fun also => outside ?_
    rw [places]
    exact List.mem_append_left rest also
  · intro final agrees depth enough
    have nothing : (rest.flatMap fun place => final.subtree depth (look.held place)) = [] := by
      refine List.flatMap_eq_nil_iff.mpr fun place among => ?_
      rw [free place (apart place among), subtree_none]
    rw [places, List.flatMap_append, nothing, List.append_nil]
    exact lays.inner agrees depth enough

theorem Underway.plug (underway : Underway below below.places none count before middle)
    {socket : String} (ready : Ready kind owner (.socket socket) before)
    (has : socket ∈ kind.valueSockets) (value : below.isValue = true) :
    Fills owner (.socket socket) (some before.editor.blocks.size) (count + 1)
      (fun final => final.Consecutive before.editor.blocks.size (count + 1)
        (some before.editor.blocks.size))
      before (middle.plug sink owner socket before.editor.blocks.size) := by
  obtain ⟨look, rfl, free, lays⟩ := underway
  exact lays.plug ready has value fun looks inside => looks.consecutive inside

theorem Underway.settle (underway : Underway below below.places none count before middle)
    {socket : String} (ready : Ready kind owner (.socket socket) before)
    (has : socket ∈ kind.statementSockets) (statement : below.hasPrevious = true) :
    Fills owner (.socket socket) (some before.editor.blocks.size) (count + 1)
      (fun final => final.Consecutive before.editor.blocks.size (count + 1)
        (some before.editor.blocks.size))
      before
      (middle.settle
        (sink.connectStatement owner socket before.editor.blocks.size middle.editor)) := by
  obtain ⟨look, rfl, free, lays⟩ := underway
  exact lays.settle ready has statement fun looks inside => looks.consecutive inside

/-- A statement that is built except for what follows it goes after the one before it. -/
theorem Underway.follow (underway : Underway below done none count before middle)
    (ready : Ready kind owner .after before) (has : kind.hasNext = true)
    (statement : below.hasPrevious = true)
    (rest : Loading Workspace Nat → Loading Workspace Nat) :
    ∃ joined, middle.follow sink owner before.editor.blocks.size rest = rest joined ∧
      Underway below done (some (owner, .after)) count before joined := by
  obtain ⟨look, rfl, free, lays⟩ := underway
  exact ⟨_, lays.follow_eq ready has statement rest, look, rfl, free, lays.fasten ready⟩

theorem Underway.fills (underway : Underway below below.places (some (owner, place)) count before
      after) :
    Fills owner place (some before.editor.blocks.size) (count + 1)
      (fun final => final.Consecutive before.editor.blocks.size (count + 1)
        (some before.editor.blocks.size))
      before after := by
  obtain ⟨look, rfl, free, lays⟩ := underway
  exact lays.fills fun looks inside => looks.consecutive inside

theorem Underway.shown (underway : Underway kind kind.places grip count before after) :
    after.editor.Consecutive before.editor.blocks.size (count + 1)
      (some before.editor.blocks.size) := by
  obtain ⟨look, rfl, free, lays⟩ := underway
  exact lays.looks.consecutive (lays.inner (Agrees.refl _ _))

/-! ## Place by place -/

/-- A piece of work that makes so many blocks for one place. -/
structure Piece where
  place : Place
  count : Nat
  work : Loading Workspace Nat → Loading Workspace Nat

/-- The work makes its blocks in reading order whenever it is the turn of its place. -/
def Piece.Continues (kind : Kind) (owner : Nat) (piece : Piece) : Prop :=
  ∀ loading, Ready kind owner piece.place loading →
    ∃ head, Fills owner piece.place head piece.count
      (fun final => final.Consecutive loading.editor.blocks.size piece.count head) loading
      (piece.work loading)

theorem Underway.pieces (underway : Underway kind done grip count before middle)
    (pieces : List Piece) (distinct : (done ++ pieces.map Piece.place).Nodup)
    (continues : ∀ piece ∈ pieces, piece.Continues kind before.editor.blocks.size) :
    Underway kind (done ++ pieces.map Piece.place) grip (count + (pieces.map Piece.count).sum)
      before (pieces.foldl (fun loading piece => piece.work loading) middle) := by
  induction pieces generalizing done count middle with
  | nil =>
      rw [List.map_nil, List.append_nil]
      exact underway
  | cons piece pieces inductionHypothesis =>
      obtain ⟨first, rest⟩ := List.forall_mem_cons.mp continues
      have new : piece.place ∉ done := by
        intro among
        rw [List.nodup_append] at distinct
        exact distinct.2.2 piece.place among piece.place (.head _) rfl
      obtain ⟨head, fills⟩ := first middle (underway.ready new)
      rw [List.map_cons, List.append_cons] at distinct ⊢
      rw [List.map_cons, List.sum_cons, ← Nat.add_assoc]
      exact inductionHypothesis (underway.fill new fills) distinct rest

def inputPiece (owner : Nat) (parent : Kind) (socket : String × Input) : Piece :=
  ⟨.socket socket.1, socket.2.kinds.length, socket.2.load sink owner parent socket.1⟩

def chainPiece (owner : Nat) (socket : String × Chain) : Piece :=
  ⟨.socket socket.1, socket.2.kinds.length, socket.2.loadSlot sink owner socket.1⟩

def afterPiece (owner : Nat) (next : Chain) : Piece :=
  ⟨.after, next.kinds.length, next.loadAfter sink owner⟩

end Loading

namespace Statement

/-- The pieces of work for the sockets of a block. -/
def pieces (owner : Nat) (statement : Statement) : List Piece :=
  statement.inputs.map (inputPiece owner statement.kind) ++
    statement.chains.map (chainPiece owner)

private theorem load_eq_pieces (statement : Statement) (owner : Nat)
    (loading : Loading Workspace Nat) :
    statement.load sink owner loading =
      (statement.pieces owner).foldl (fun loading piece => piece.work loading)
        (loading.setFields sink owner statement.fields) := by
  rw [statement.load_eq, pieces, List.foldl_append, List.foldl_map, List.foldl_map]
  rfl

private theorem places_pieces (statement : Statement) (owner : Nat) :
    statement.kind.places = (statement.pieces owner).map Piece.place ++ [.after] := by
  rw [Kind.places, ← statement.names_inputs, ← statement.names_chains, pieces, List.map_append,
    List.append_assoc, List.map_map, List.map_map, List.map_map, List.map_map]
  rfl

private theorem count_pieces (statement : Statement) (owner : Nat) :
    statement.kinds.length = ((statement.pieces owner).map Piece.count).sum + 1 := by
  rw [statement.kinds_eq, List.length_cons, List.length_append, List.length_flatMap,
    List.length_flatMap, pieces, List.map_append, List.sum_append, List.map_map, List.map_map]
  rfl

/-- What is in the sockets of a new block comes right behind it. -/
theorem underway (statement : Statement) {loading : Loading Workspace Nat}
    (rising : loading.editor.Rising)
    (continues : ∀ piece ∈ statement.pieces loading.editor.blocks.size,
      piece.Continues statement.kind loading.editor.blocks.size) :
    ∃ done count, statement.kind.places = done ++ [.after] ∧ .after ∉ done ∧
      statement.kinds.length = count + 1 ∧
      Underway statement.kind done none count loading
        (statement.load sink loading.editor.blocks.size (loading.made statement.kind)) := by
  have places := statement.places_pieces loading.editor.blocks.size
  have distinct := statement.kind.nodup_places
  rw [places, List.nodup_append] at distinct
  have begun := (underway_made rising statement.kind).setFields statement.fields
    fun _ member => Statement.mem_fields member
  have built := begun.pieces (statement.pieces loading.editor.blocks.size) distinct.1 continues
  rw [← statement.load_eq_pieces, List.nil_append, Nat.zero_add] at built
  refine ⟨_, _, places, fun among => ?_, statement.count_pieces _, built⟩
  exact distinct.2.2 .after among .after (.head _) rfl

end Statement

private theorem Statement.exists_socket (statement : Statement) {owner : Nat} {piece : Piece}
    (member : piece ∈ statement.stripIds.pieces owner) :
    (∃ socket held, (socket, held) ∈ statement.inputs ∧ socket ∈ statement.kind.valueSockets ∧
      piece = inputPiece owner statement.kind (socket, held.stripIds)) ∨
    ∃ socket chain, (socket, chain) ∈ statement.chains ∧
      socket ∈ statement.kind.statementSockets ∧
      piece = chainPiece owner (socket, chain.stripIds) := by
  rw [Statement.pieces, statement.inputs_stripIds, statement.chains_stripIds, List.map_map,
    List.map_map, statement.kind_stripIds] at member
  rcases List.mem_append.mp member with input | chain
  · obtain ⟨⟨socket, held⟩, inside, rfl⟩ := List.mem_map.mp input
    exact Or.inl ⟨socket, held, inside, Statement.mem_valueSockets inside, rfl⟩
  · obtain ⟨⟨socket, held⟩, inside, rfl⟩ := List.mem_map.mp chain
    exact Or.inr ⟨socket, held, inside, Statement.mem_statementSockets inside, rfl⟩

/-- A value block without an id. -/
theorem Expression.continues (expression : Expression)
    (inside : ∀ block, ∀ piece ∈ (Statement.value expression).pieces block,
      piece.Continues expression.kind block)
    {kind : Kind} {socket : String} (has : socket ∈ kind.valueSockets) (owner : Nat)
    (parent : Kind) :
    (inputPiece owner parent (socket, .block none expression)).Continues kind owner := by
  intro loading ready
  obtain ⟨done, count, places, _, kinds, underway⟩ :=
    (Statement.value expression).underway ready.rising (inside _)
  have filled := (underway.all places).plug ready has expression.isValue_kind
  rw [← kinds] at filled
  refine ⟨some loading.editor.blocks.size, ?_⟩
  simp only [inputPiece, Input.load_block, make_eq]
  exact filled

/-- A literal is built as a value block without an id and without sockets. -/
theorem inputPiece_literal (owner : Nat) (parent : Kind) (socket : String) {literal : Input}
    (isLiteral : (∃ value, literal = .number value) ∨ ∃ text, literal = .text text) :
    ∃ expression, (∀ block, (Statement.value expression).pieces block = []) ∧
      inputPiece owner parent (socket, literal) =
        inputPiece owner parent (socket, .block none expression) := by
  simp only [inputPiece, Input.load_block]
  rcases isLiteral with ⟨value, rfl⟩ | ⟨text, rfl⟩
  · rw [Input.load_number]
    exact ⟨.number value, fun _ => rfl, rfl⟩
  · rw [Input.load_text]
    rcases literalKind_eq parent text with kind | kind
    · rw [kind]
      exact ⟨.colorValue text, fun _ => rfl, rfl⟩
    · rw [kind]
      exact ⟨.customColor text, fun _ => rfl, rfl⟩

private theorem continues_literal {literal : Input} {kind : Kind} {socket : String}
    (has : socket ∈ kind.valueSockets) (owner : Nat) (parent : Kind)
    (isLiteral : (∃ value, literal = .number value) ∨ ∃ text, literal = .text text) :
    (inputPiece owner parent (socket, literal)).Continues kind owner := by
  obtain ⟨expression, empty, same⟩ := inputPiece_literal owner parent socket isLiteral
  rw [same]
  refine expression.continues (fun block piece member => ?_) has owner parent
  rw [empty] at member
  cases member

private theorem Input.continues (input : Input) {kind : Kind} {socket : String}
    (has : socket ∈ kind.valueSockets) (owner : Nat) (parent : Kind) :
    (inputPiece owner parent (socket, input.stripIds)).Continues kind owner := by
  induction input using Input.socketInduction generalizing kind socket owner parent with
  | empty => exact fun _ ready => ⟨none, Fills.nothing ready fun final => final.consecutive_none _⟩
  | number value => exact continues_literal has owner parent (Or.inl ⟨value, rfl⟩)
  | text color => exact continues_literal has owner parent (Or.inr ⟨color, rfl⟩)
  | block id expression inductionHypothesis =>
      refine expression.stripIds.continues (fun block piece member => ?_) has owner parent
      rcases (Statement.value expression).exists_socket member with
        ⟨name, held, inside, known, rfl⟩ | ⟨_, _, chain, _⟩
      · rw [expression.kind_stripIds]
        exact inductionHypothesis name held inside known block expression.kind
      · cases chain

private theorem Chain.continues (chain : Chain) (placed : chain.Placed) :
    (∀ {kind : Kind} {socket : String}, socket ∈ kind.statementSockets → ∀ owner,
      (chainPiece owner (socket, chain.stripIds)).Continues kind owner) ∧
    ∀ {kind : Kind}, (chain ≠ .nil → kind.hasNext = true) → ∀ owner,
      (afterPiece owner chain.stripIds).Continues kind owner := by
  induction chain using Chain.socketInduction with
  | nil =>
      refine ⟨fun _ _ _ ready => ?_, fun _ _ _ ready => ?_⟩
      · exact ⟨none, Fills.nothing ready fun final => final.consecutive_none _⟩
      · exact ⟨none, Fills.nothing ready fun final => final.consecutive_none _⟩
  | link id statement next inside after =>
      have sockets : ∀ block, ∀ piece ∈ statement.stripIds.pieces block,
          piece.Continues statement.kind block := by
        intro block piece member
        rcases statement.exists_socket member with
          ⟨name, held, _, known, rfl⟩ | ⟨name, chain, among, known, rfl⟩
        · exact held.continues known block statement.kind
        · have slot := Statement.mem_slots_of_chains among
          exact (inside chain slot (placed.2.1.slots slot)).1 known block
      have follows := (after placed.2.2).2 (placed.hasNext rfl)
      have previous : statement.kind.hasPrevious = true := placed.hasPrevious rfl
      have begun {loading : Loading Workspace Nat} (rising : loading.editor.Rising) :=
        statement.stripIds.underway rising (by
          rw [statement.kind_stripIds]
          exact sockets _)
      simp only [statement.kind_stripIds, statement.kinds_stripIds] at begun
      have size (count : Nat) (kinds : statement.kinds.length = count + 1) :
          (Chain.link id statement next).stripIds.kinds.length =
            count + next.stripIds.kinds.length + 1 := by
        rw [Chain.kinds_stripIds, Chain.kinds_stripIds, Chain.kinds, List.length_append, kinds,
          Nat.add_right_comm]
      -- A block goes into a socket once all that follows it is built, but after another block
      -- before that.
      refine ⟨fun known owner loading ready => ?_, fun joins owner loading ready => ?_⟩
      · obtain ⟨done, count, places, new, kinds, underway⟩ := begun ready.rising
        obtain ⟨head, fills⟩ := follows loading.editor.blocks.size _ (underway.ready new)
        have whole := underway.fill new fills
        rw [← places] at whole
        have filled := whole.settle ready known previous
        rw [afterPiece, ← size count kinds] at filled
        refine ⟨some loading.editor.blocks.size, ?_⟩
        simp only [chainPiece, Chain.stripIds, Chain.loadSlot_link, make_eq,
          statement.kind_stripIds]
        exact filled
      · obtain ⟨done, count, places, new, kinds, underway⟩ := begun ready.rising
        obtain ⟨joined, same, hung⟩ := underway.follow ready (joins Chain.noConfusion) previous
          (next.stripIds.loadAfter sink loading.editor.blocks.size)
        obtain ⟨head, fills⟩ := follows loading.editor.blocks.size _ (hung.ready new)
        have whole := hung.fill new fills
        rw [← places] at whole
        have filled := whole.fills
        rw [afterPiece, ← size count kinds] at filled
        refine ⟨some loading.editor.blocks.size, ?_⟩
        simp only [afterPiece, Chain.stripIds, Chain.loadAfter_link, make_eq,
          statement.kind_stripIds, same]
        exact filled

/-- The blocks of a program that fits are made in reading order, the start block first. -/
theorem Program.consecutive_load {program : Program} (placed : program.actions.Placed)
    (distinct : (program.id.toList ++ program.actions.ids).Nodup) (ids : Nat) :
    (program.load sink ⟨#[], ids⟩).2.Consecutive 0 (program.actions.kinds.length + 1) (some 0) := by
  have rising : (⟨#[], ids⟩ : Workspace).Rising := by
    intro child parent hangs
    cases hangs
  have hasDo : "DO" ∈ Kind.start.statementSockets := by decide
  have begun : Underway .start [] none 0 (.start ⟨#[], ids⟩) _ := underway_made rising .start
  obtain ⟨head, fills⟩ := (program.actions.continues placed).1 hasDo 0 _
    (begun.ready List.not_mem_nil)
  have whole := (begun.fill List.not_mem_nil fills).all rfl
  rw [Nat.zero_add, chainPiece, Chain.kinds_stripIds] at whole
  have named : (⟨program.id, program.actions, .nil⟩ : Program).ids.Nodup := by
    rw [Program.ids, Chain.ids, List.append_nil]
    exact distinct
  change ((⟨program.id, program.actions, .nil⟩ : Program).load sink _).2.Consecutive 0 _ _
  rw [← Program.load_stripIds sink named]
  exact whole.shown

end Marquee
