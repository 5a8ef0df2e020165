import Marquee.Proofs.Editor.Supplying
import Marquee.Proofs.Editor.Shown
import Marquee.Proofs.Editor.Unrepeated

/-!
# Programs come back from the editor

An editable program is built in an empty workspace without any trouble, and what is saved then is
its normal form, with ids of its own. The proof meets in the middle: a load makes the workspace show
the program, and whoever saves an editor that shows a program finds its normal form.
-/

namespace Marquee

open Workspace Loading

namespace Workspace

section

variable {workspace : Workspace} {block : Nat} {look : Look}

theorem Looks.exists_block? (looks : workspace.Looks block look) :
    ∃ found, workspace.block? block = some found ∧ found.kind = look.kind ∧
      found.fields = look.fields ∧ found.held? = look.held := by
  obtain ⟨id, own⟩ := looks.own
  obtain ⟨found, there, same⟩ := Option.map_eq_some_iff.mp own
  have held := looks.held
  unfold held? at held
  rw [there] at held
  exact ⟨found, there, congrArg Block.Own.kind same, congrArg Block.Own.fields same, held⟩

theorem Looks.source_kind? (looks : workspace.Looks block look) :
    workspace.source.kind? block = some look.kind := by
  obtain ⟨found, there, kind, _, _⟩ := looks.exists_block?
  simp [Source.kind?, source, there, kind, Kind.ofName?_name]

theorem Looks.source_field (looks : workspace.Looks block look) (field : String) :
    workspace.source.field block field = look.fields.get? field := by
  obtain ⟨found, there, _, fields, _⟩ := looks.exists_block?
  simp [source, field?, there, fields]

theorem Looks.source_value (looks : workspace.Looks block look) {socket : String}
    (has : socket ∈ look.kind.valueSockets) :
    workspace.source.value block socket = look.held (.socket socket) := by
  obtain ⟨found, there, kind, _, held⟩ := looks.exists_block?
  simp [source, valueIn?, plugged?, there, kind, has, ← held, Block.held?]

theorem Looks.source_statement (looks : workspace.Looks block look) {socket : String}
    (has : socket ∈ look.kind.statementSockets) :
    workspace.source.statement block socket = look.held (.socket socket) := by
  obtain ⟨found, there, kind, _, held⟩ := looks.exists_block?
  simp [source, statementIn?, plugged?, there, kind, has, ← held, Block.held?]

theorem Looks.source_next (looks : workspace.Looks block look) :
    workspace.source.next block = look.held .after := by
  obtain ⟨found, there, _, _, held⟩ := looks.exists_block?
  simp [source, next?, there, ← held, Block.held?]

end

end Workspace

theorem literalKind_eq (parent : Kind) (text : String) :
    literalKind parent text = .colorValue ∨ literalKind parent text = .customColor := by
  simp only [literalKind]
  split
  · exact Or.inl rfl
  · exact Or.inr rfl

/-- A block shows a statement if its fields and its sockets do. -/
theorem Statement.shown_of_sockets {β : Type} {source : Source β} {block : β}
    {statement : Statement}
    (fields : ∀ field ∈ statement.fields, source.field block field.1 = some field.2)
    (unset : ∀ name, name ∉ statement.kind.fields → source.field block name = none)
    (inputs : ∀ socket ∈ statement.inputs, socket.2.Shown source (source.value block socket.1))
    (chains : ∀ socket ∈ statement.chains,
      socket.2.Shown source (source.statement block socket.1)) :
    statement.Shown source block := by
  cases statement with
  | value expression =>
      cases expression <;>
        simp_all [Statement.Shown, Expression.Shown, Statement.fields, Expression.fields,
          Statement.inputs, Expression.inputs]
  | _ =>
      simp_all [Statement.Shown, Statement.fields, Statement.inputs, Statement.chains,
        Statement.kind, Kind.fields]

/-- If what is built for the sockets of a new block hangs in them, the block is laid and shows the
statement. -/
theorem Statement.lays_load (statement : Statement) {before : Loading Workspace Nat}
    (rising : before.editor.Rising)
    (inputs : ∀ socket ∈ statement.inputs,
      Supplies statement.kind before.editor.blocks.size (.socket socket.1) socket.2.kinds.length
        (fun final head => socket.2.Shown final.source head)
        (socket.2.stripIds.load sink before.editor.blocks.size statement.kind socket.1))
    (chains : ∀ socket ∈ statement.chains,
      Supplies statement.kind before.editor.blocks.size (.socket socket.1) socket.2.kinds.length
        (fun final head => socket.2.Shown final.source head)
        (socket.2.stripIds.loadSlot sink before.editor.blocks.size socket.1)) :
    ∃ look inner, Lays look none statement.kinds.length inner before
        (statement.stripIds.load sink before.editor.blocks.size (before.made statement.kind)) ∧
      look.kind = statement.kind ∧ look.held .after = none ∧
      ∀ {final : Workspace} {head},
        final.Looks before.editor.blocks.size (look.hang .after head) → inner final →
          statement.Shown final.source before.editor.blocks.size := by
  obtain ⟨look, kind, free, fields, unset, lays⟩ := statement.lays_parts rising inputs chains
  refine ⟨look, _, lays, kind, free, fun looks inside => ?_⟩
  refine Statement.shown_of_sockets ?_ ?_ ?_ ?_
  · intro field member
    rw [looks.source_field, Look.hang, fields field member]
  · intro name absent
    rw [looks.source_field, Look.hang, unset name absent]
  · intro socket member
    have has : socket.1 ∈ look.kind.valueSockets := kind ▸ Statement.mem_valueSockets member
    rw [looks.source_value has]
    exact inside.1 socket member
  · intro socket member
    have has : socket.1 ∈ look.kind.statementSockets :=
      kind ▸ Statement.mem_statementSockets member
    rw [looks.source_statement has]
    exact inside.2 socket member

/-- Inputs always fit. -/
theorem Input.supplies_load (input : Input) {kind : Kind} {owner : Nat} {socket : String}
    (has : socket ∈ kind.valueSockets) (parentKind : Kind) :
    Supplies kind owner (.socket socket) input.kinds.length
      (fun final head => input.Shown final.source head)
      (input.stripIds.load sink owner parentKind socket) := by
  induction input using Input.socketInduction generalizing kind owner socket parentKind with
  | empty => exact Supplies.nothing fun _ => rfl
  | number value =>
      intro loading ready
      rw [Input.stripIds, Input.load_number, make_eq]
      have lays := (lays_made ready.rising .number).setNumber (List.mem_singleton_self _) value
      refine ⟨_, lays.plug ready has rfl fun looks _ => ?_⟩
      exact ⟨_, rfl, looks.source_kind?, looks.source_field "NUMBER"⟩
  | text text =>
      intro loading ready
      rw [Input.stripIds, Input.load_text, make_eq]
      rcases literalKind_eq parentKind text with kind | kind
      · rw [kind]
        have lays := (lays_made ready.rising .colorValue).setText (List.mem_singleton_self _) text
        refine ⟨_, lays.plug ready has rfl fun looks _ => ?_⟩
        exact ⟨_, rfl, Or.inl looks.source_kind?, looks.source_field "COLOR"⟩
      · rw [kind]
        have lays := (lays_made ready.rising .customColor).setText (List.mem_singleton_self _) text
        refine ⟨_, lays.plug ready has rfl fun looks _ => ?_⟩
        exact ⟨_, rfl, Or.inr looks.source_kind?, looks.source_field "COLOR"⟩
  | block id expression inductionHypothesis =>
      intro loading ready
      rw [Input.stripIds, Input.load_block, make_eq, expression.kind_stripIds]
      obtain ⟨look, inner, lays, kind, free, shown⟩ :=
        (Statement.value expression).lays_load ready.rising
          (fun socket member =>
            inductionHypothesis socket.1 socket.2 member (Expression.mem_valueSockets member) _)
          fun _ member => absurd member List.not_mem_nil
      have value : look.kind.isValue = true := by
        rw [kind]
        exact expression.isValue_kind
      refine ⟨_, lays.plug ready has value fun looks inside => ⟨_, rfl, ?_, ?_⟩⟩
      · rw [looks.source_kind?, kind]
        rfl
      · rw [← Look.hang_of_free free] at looks
        exact shown looks inside

section

variable {id : Option String} {statement : Statement} {next : Chain} {kind : Kind}

theorem Chain.Placed.hasPrevious (placed : (Chain.link id statement next).Placed)
    (same : kind = statement.kind) : kind.hasPrevious = true := by
  obtain ⟨⟨notStart, isStatement, _⟩, _⟩ := placed
  rw [← same] at notStart isStatement
  simp [Kind.hasPrevious, notStart, isStatement]

theorem Chain.Placed.hasNext (placed : (Chain.link id statement next).Placed)
    (same : kind = statement.kind) (more : next ≠ .nil) : kind.hasNext = true := by
  obtain ⟨⟨notStart, isStatement, last⟩, _⟩ := placed
  rw [← same] at notStart isStatement last
  have notBreak : kind ≠ .breakLoop := fun isBreak => more (last isBreak)
  simp [Kind.hasNext, notStart, isStatement, notBreak]

end

private theorem Chain.shown_link {id : Option String} {statement : Statement} {next : Chain}
    {final : Workspace} {block : Nat} {look : Look} {head : Option Nat}
    (looks : final.Looks block (look.hang .after head)) (kind : look.kind = statement.kind)
    (shown : statement.Shown final.source block) (follows : next.Shown final.source head) :
    (Chain.link id statement next).Shown final.source (some block) := by
  refine ⟨block, rfl, ?_, shown, ?_⟩
  · rw [looks.source_kind?]
    exact congrArg some kind
  · rw [looks.source_next]
    exact follows

/-- Chains that fit are built completely, in a socket as well as after another statement. -/
theorem Chain.supplies_load (chain : Chain) (placed : chain.Placed) :
    (∀ {kind : Kind} {owner : Nat} {socket : String}, socket ∈ kind.statementSockets →
      Supplies kind owner (.socket socket) chain.kinds.length
        (fun final head => chain.Shown final.source head)
        (chain.stripIds.loadSlot sink owner socket)) ∧
    ∀ {kind : Kind} {owner : Nat}, (chain ≠ .nil → kind.hasNext = true) →
      Supplies kind owner .after chain.kinds.length
        (fun final head => chain.Shown final.source head)
        (chain.stripIds.loadAfter sink owner) := by
  induction chain using Chain.socketInduction with
  | nil => exact ⟨fun _ => Supplies.nothing fun _ => rfl, fun _ => Supplies.nothing fun _ => rfl⟩
  | link id statement next inside after =>
      -- The statement is built alike in both places; only its connection comes later in a socket.
      have built {loading : Loading Workspace Nat} (rising : loading.editor.Rising) :=
        statement.lays_load rising
          (fun socket member =>
            socket.2.supplies_load (Statement.mem_valueSockets member) statement.kind)
          fun socket member =>
            have slot := Statement.mem_slots_of_chains member
            (inside socket.2 slot (placed.2.1.slots slot)).1 (Statement.mem_statementSockets member)
      obtain ⟨_, follows⟩ := after placed.2.2
      refine ⟨fun has loading ready => ?_, fun joins loading ready => ?_⟩
      · rw [Chain.stripIds, Chain.loadSlot_link, make_eq, statement.kind_stripIds]
        obtain ⟨look, inner, lays, kind, free, shown⟩ := built ready.rising
        obtain ⟨head, fills⟩ := follows (placed.hasNext kind) _ (lays.ready free)
        have whole := lays.fill fills
        rw [← List.length_append] at whole
        refine ⟨_, whole.settle ready has (placed.hasPrevious kind) fun looks inside => ?_⟩
        exact Chain.shown_link looks kind (shown looks inside.1) inside.2
      · rw [Chain.stripIds, Chain.loadAfter_link, make_eq, statement.kind_stripIds]
        obtain ⟨look, inner, lays, kind, free, shown⟩ := built ready.rising
        have hung := lays.fasten ready
        obtain ⟨head, fills⟩ := follows (placed.hasNext kind) _ (hung.ready free)
        have whole := hung.fill fills
        rw [← List.length_append] at whole
        rw [lays.follow_eq ready (joins Chain.noConfusion) (placed.hasPrevious kind)]
        refine ⟨_, whole.fills fun looks inside => ?_⟩
        exact Chain.shown_link looks kind (shown looks inside.1) inside.2

theorem Workspace.start?_source {workspace : Workspace} {look : Look}
    (looks : workspace.Looks 0 look) (top : workspace.parent? 0 = none)
    (kind : look.kind = .start) : workspace.source.start? = some 0 := by
  obtain ⟨more, size⟩ := Nat.exists_eq_add_one.mpr (lt_size_of_kind? looks.kind)
  obtain ⟨found, there, foundKind, _⟩ := looks.exists_block?
  have noParent : found.parent = none := by
    simp only [parent?] at top
    rwa [there, Option.bind_some] at top
  have named : workspace.source.kindName 0 = some Kind.start.name := by
    rw [← kind, ← foundKind]
    simp [source, there]
  have first : ∃ rest, workspace.source.tops = 0 :: rest := by
    simp only [source, tops, handlesWhere, size, List.range_succ_eq_map]
    rw [List.filter_cons_of_pos (by simp [there, noParent])]
    exact ⟨_, rfl⟩
  obtain ⟨rest, tops⟩ := first
  rw [Source.start?, tops, List.find?_cons_of_pos (by simp [named])]

/-- A program is laid if its actions fit and the ids of the start block and the actions are
different. What follows the start block is never built. -/
theorem Program.lays_actions {program : Program} (placed : program.actions.Placed)
    (distinct : (program.id.toList ++ program.actions.ids).Nodup) (ids : Nat) :
    ∃ built head,
      program.load sink ⟨#[], ids⟩ = (.ok (0, built.report), built.editor) ∧
        Lays ((Look.blank .start).hang (.socket "DO") head) none
          (1 + program.actions.kinds.length)
          (fun final => program.actions.Shown final.source head) (.start ⟨#[], ids⟩) built := by
  have rising : (⟨#[], ids⟩ : Workspace).Rising := by
    intro child parent hangs
    cases hangs
  have hasDo : "DO" ∈ Kind.start.statementSockets := by decide
  have lays : Lays (.blank .start) none 1 _ (.start ⟨#[], ids⟩) _ := lays_made rising .start
  have ready : Ready .start _ (.socket "DO") _ := lays.ready rfl
  obtain ⟨head, fills⟩ := (program.actions.supplies_load placed).1 hasDo _ ready
  have whole := lays.fill fills
  have named : (⟨program.id, program.actions, .nil⟩ : Program).ids.Nodup := by
    rw [Program.ids, Chain.ids, List.append_nil]
    exact distinct
  refine ⟨_, head, ?_, { whole with inner := fun agrees => (whole.inner agrees).2 }⟩
  change (⟨program.id, program.actions, .nil⟩ : Program).load sink _ = _
  rw [← Program.load_stripIds sink named]
  rfl

private theorem Program.lays_load {program : Program} (editable : program.Editable) (ids : Nat) :
    ∃ built head,
      program.load sink ⟨#[], ids⟩ = (.ok (0, built.report), built.editor) ∧
        Lays ((Look.blank .start).hang (.socket "DO") head) none program.size
          (fun final => program.actions.Shown final.source head) (.start ⟨#[], ids⟩) built := by
  have distinct := editable.distinct
  rw [Program.ids, editable.alone, Chain.ids, List.append_nil] at distinct
  have size : 1 + program.actions.kinds.length = program.size := by
    rw [Program.size, Node.kinds, Program.root, editable.alone, Statement.kinds, Chain.kinds,
      List.append_nil, List.length_cons, Nat.add_comm]
  rw [← size]
  exact Program.lays_actions editable.placed distinct ids

/-- An editable program is built completely in an empty workspace, and what is saved then is its
normal form, but for the ids. -/
theorem Program.save_load {program : Program} (editable : program.Editable) (ids : Nat) :
    let loaded := program.load sink ⟨#[], ids⟩
    loaded.1 = .ok (0, ⟨program.size, 0, 0⟩) ∧
      ∃ saved, loaded.2.save = .program saved ∧ saved.stripIds = program.normal.stripIds := by
  obtain ⟨built, head, loaded, lays⟩ := program.lays_load editable ids
  have report : built.report = ⟨program.size, 0, 0⟩ := by
    rw [lays.report]
    simp [Loading.start]
  have hasDo : "DO" ∈ Kind.start.statementSockets := by decide
  have shown := lays.inner (Agrees.refl _ _)
  have socket : built.editor.source.statement 0 "DO" = head := lays.looks.source_statement hasDo
  have enough : program.actions.kinds.length ≤ built.editor.source.height := by
    have height : built.editor.source.height = 0 + program.size := lays.size
    rw [height, Program.size, Node.kinds, Program.root, Statement.kinds, List.length_append,
      List.length_cons]
    omega
  have saved := built.editor.source.saveChain_of_shown program.actions shown editable.inRange enough
  rw [loaded]
  refine ⟨by rw [report], built.editor.source.saveProgram 0, ?_, ?_⟩
  · rw [Workspace.save, Source.save, start?_source lays.looks lays.hangs rfl]
  · rw [Source.saveProgram, Program.stripIds, socket, saved, Program.normal, editable.alone]
    rfl

/-- A program with every sort of part that comes back in another form. -/
def blinking : Program where
  id := some "root"
  actions :=
    .link (some "set") (.setVariable "n" (.block (some "seven") (.number 7))) <|
    .link none (.repeatLoop .empty <|
      .link none (.wait .empty) <|
      .link (some "on") (.gpioBranch 40 .high
        (.link none (.setColor (.block none (.customColor "#00FF00"))) .nil)
        (.link none .breakLoop .nil)) .nil) <|
    .link none (.whileLoop
      (.block none (.compare (.block none (.getVariable "n")) .lt (.text "#FF0000")))
      (.link none (.playAnimation "rain" 9223372036854775807) .nil)) .nil
  next := .nil

theorem save_load_blinking :
    blinking.Editable ∧ (blinking.load sink .empty).1 = .ok (0, ⟨14, 0, 0⟩) ∧
      ∃ saved, (blinking.load sink .empty).2.save = .program saved ∧
        saved.stripIds.actions =
          .link none (.setVariable "n" (.number 7)) (
          .link none (.repeatLoop (.number 1) (
            .link none (.wait (.number 0)) (
            .link none (.gpioBranch 40 .high
              (.link none (.setColor (.text "#00FF00")) .nil)
              (.link none .breakLoop .nil)) .nil))) (
          .link none (.whileLoop
            (.block none (.compare (.block none (.getVariable "n")) .lt (.text "#FF0000")))
            (.link none (.playAnimation "rain" 9223372036854775807) .nil)) .nil)) := by
  have editable : blinking.Editable := by
    refine ⟨rfl, ?_, ?_, ?_⟩
    · simp [blinking, Chain.Placed, Statement.Placed, Statement.kind, Kind.isValue]
    · simp only [blinking, Chain.InRange, Statement.InRange]
      decide
    · decide
  obtain ⟨report, saved, found, same⟩ := Program.save_load editable 0
  refine ⟨editable, report, saved, found, ?_⟩
  rw [same]
  rfl

end Marquee
