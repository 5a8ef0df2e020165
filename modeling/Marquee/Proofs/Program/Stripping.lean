import Marquee.Proofs.Document.Canonical
import Marquee.Proofs.Program.Copies
import Marquee.Proofs.Program.Reading

/-!
# Dropping ids

Without its ids a program is written as before but for the members under `id`. As everything in a
program is written, that settles what dropping ids does: doing it again changes nothing, and two
programs are left equal exactly if nothing but ids tells apart what is written for them.
-/

namespace Marquee

open Json (Items Members)

mutual

/-- The value without what stands under `id` in all of its objects. Each object that is written for
a program is that of a statement or a value block. -/
def Json.withoutIds : Json → Json
  | .null => .null
  | .bool value => .bool value
  | .number value => .number value
  | .string text => .string text
  | .array items => .array items.withoutIds
  | .object members => .object members.withoutIds

def Json.Items.withoutIds : Items → Items
  | .nil => .nil
  | .cons head tail => .cons head.withoutIds tail.withoutIds

def Json.Members.withoutIds : Members → Members
  | .nil => .nil
  | .cons key value rest =>
    if key = "id" then rest.withoutIds else .cons key value.withoutIds rest.withoutIds

end

mutual

theorem Json.withoutIds_withoutIds (value : Json) :
    value.withoutIds.withoutIds = value.withoutIds := by
  match value with
  | .null => rfl
  | .bool _ => rfl
  | .number _ => rfl
  | .string _ => rfl
  | .array items => exact congrArg Json.array items.withoutIds_withoutIds
  | .object members => exact congrArg Json.object members.withoutIds_withoutIds

theorem Json.Items.withoutIds_withoutIds (items : Items) :
    items.withoutIds.withoutIds = items.withoutIds := by
  match items with
  | .nil => rfl
  | .cons head tail =>
      rw [Items.withoutIds, Items.withoutIds, head.withoutIds_withoutIds,
        tail.withoutIds_withoutIds]

theorem Json.Members.withoutIds_withoutIds (members : Members) :
    members.withoutIds.withoutIds = members.withoutIds := by
  match members with
  | .nil => rfl
  | .cons key value rest =>
      rw [Members.withoutIds]
      split
      · exact rest.withoutIds_withoutIds
      · next other =>
          rw [Members.withoutIds, if_neg other, value.withoutIds_withoutIds,
            rest.withoutIds_withoutIds]

end

private theorem Json.withoutIds_singleton (value : Json) :
    value.singleton.withoutIds = value.withoutIds.singleton := by
  cases value <;> rfl

private theorem withoutIds_consUnlessNull {key : String} (other : key ≠ "id") (value : Json)
    (rest : Members) : (Members.consUnlessNull key value rest).withoutIds =
      .consUnlessNull key value.withoutIds rest.withoutIds := by
  cases value with
  | null => rfl
  | _ => exact if_neg other

/-- The part of a block after its ids are dropped. -/
def Part.stripIds : Part → Part
  | .id _ => .id none
  | .text written => .text written
  | .int value => .int value
  | .input held => .input held.stripIds
  | .slot chain => .slot chain.stripIds
  | .next chain => .next chain.stripIds

/-- Dropping the ids in a part takes those away that are written for it. -/
def Part.Strips (part : Part) : Prop :=
  part.stripIds.toJson = part.toJson.withoutIds

def stripParts (parts : List (String × Part)) : List (String × Part) :=
  parts.map fun part => (part.1, part.2.stripIds)

private theorem Expression.parts_stripIds (expression : Expression) :
    expression.stripIds.parts = stripParts expression.parts := by
  cases expression <;> rfl

private theorem Statement.parts_stripIds (statement : Statement) :
    statement.stripIds.parts = stripParts statement.parts := by
  cases statement with
  | value expression => exact expression.parts_stripIds
  | _ => rfl

private theorem Expression.blockParts_stripIds (id : Option String) (expression : Expression) :
    expression.stripIds.blockParts none = stripParts (expression.blockParts id) := by
  rw [blockParts, blockParts, expression.parts_stripIds, expression.kind_stripIds]
  rfl

private theorem Statement.blockParts_stripIds (id : Option String) (statement : Statement)
    (next : Chain) : statement.stripIds.blockParts none next.stripIds =
      stripParts (statement.blockParts id next) := by
  rw [blockParts, blockParts, statement.parts_stripIds, statement.kind_stripIds]
  simp only [stripParts, List.map_cons, List.map_append]
  rfl

private theorem withoutIds_writeParts {parts : List (String × Part)}
    (others : "id" ∉ parts.map Prod.fst) (strips : ∀ key part, (key, part) ∈ parts → part.Strips) :
    (writeParts .nil parts).withoutIds = writeParts .nil (stripParts parts) := by
  induction parts with
  | nil => rfl
  | cons first parts inductionHypothesis =>
      obtain ⟨key, part⟩ := first
      obtain ⟨different, later⟩ := not_or.mp (List.mem_cons.not.mp others)
      have here : part.stripIds.toJson = part.toJson.withoutIds := strips key part (.head _)
      have rest := inductionHypothesis later fun name other member =>
        strips name other (.tail _ member)
      rw [writeParts, withoutIds_consUnlessNull (Ne.symm different), rest, ← here]
      rfl

/-- A block begins with its id, and nothing else in it stands under that key. -/
theorem withoutIds_writeParts_id {id : Option String} {parts : List (String × Part)}
    (distinct : ((("id", Part.id id) :: parts).map Prod.fst).Nodup)
    (strips : ∀ key part, (key, part) ∈ parts → part.Strips) :
    (writeParts .nil (("id", Part.id id) :: parts)).withoutIds =
      writeParts .nil (stripParts (("id", Part.id id) :: parts)) := by
  have others := (List.nodup_cons.mp distinct).1
  have rest := withoutIds_writeParts others strips
  cases id with
  | none => exact rest
  | some name => exact (if_pos rfl).trans rest

private theorem Expression.id_not_mem_parts (expression : Expression) (key : String)
    (id : Option String) : (key, Part.id id) ∉ expression.parts := by
  cases expression <;> simp [parts]

private theorem Statement.id_not_mem_parts (statement : Statement) (key : String)
    (id : Option String) :
    (key, Part.id id) ∉ statement.parts := by
  cases statement with
  | value expression => exact expression.id_not_mem_parts key id
  | _ => simp [parts]

private theorem Part.strips {part : Part} (plain : ∀ id, part ≠ .id id)
    (inputs : ∀ held, part = .input held → held.stripIds.toJson = held.toJson.withoutIds)
    (chains : ∀ chain, part = .slot chain ∨ part = .next chain →
      chain.stripIds.toJson = chain.toJson.withoutIds) : part.Strips := by
  cases part with
  | id name => exact absurd rfl (plain name)
  | text _ => rfl
  | int _ => rfl
  | input held => exact inputs held rfl
  | slot chain =>
      rw [Strips, toJson, Json.withoutIds_singleton, ← chains chain (Or.inl rfl)]
      rfl
  | next chain => exact chains chain (Or.inr rfl)

theorem Input.toJson_stripIds (input : Input) :
    input.stripIds.toJson = input.toJson.withoutIds := by
  induction input using Input.partInduction with
  | empty => rfl
  | number _ => rfl
  | text _ => rfl
  | block id expression inductionHypothesis =>
      rw [Input.stripIds, Input.toJson_block, Input.toJson_block, Json.withoutIds,
        Expression.blockParts_stripIds id, Expression.blockParts,
        withoutIds_writeParts_id (expression.nodup_keys id)]
      intro key part member
      rcases List.mem_cons.mp member with type | inside
      · cases type
        rfl
      · -- An expression has inputs, and no ids or chains of its own.
        apply Part.strips
        · rintro name rfl
          exact expression.id_not_mem_parts key name inside
        · rintro held rfl
          exact inductionHypothesis key held inside
        · rintro chain (rfl | rfl)
          · exact absurd inside (expression.slot_not_mem_parts key chain)
          · exact absurd inside (expression.next_not_mem_parts key chain)

theorem Chain.toJson_stripIds (chain : Chain) :
    chain.stripIds.toJson = chain.toJson.withoutIds := by
  induction chain using Chain.socketInduction with
  | nil => rfl
  | link id statement next inside after =>
      rw [Chain.stripIds, Chain.toJson_link, Chain.toJson_link, Json.withoutIds,
        Statement.blockParts_stripIds id, Statement.blockParts,
        withoutIds_writeParts_id (statement.nodup_keys id next)]
      intro key part member
      rcases List.mem_cons.mp member with type | others
      · cases type
        rfl
      · rcases List.mem_append.mp others with own | last
        · apply Part.strips
          · rintro name rfl
            exact statement.id_not_mem_parts key name own
          · rintro held rfl
            exact held.toJson_stripIds
          · rintro chain (rfl | rfl)
            · exact inside chain (Statement.mem_slots own)
            · exact absurd own (statement.next_not_mem_parts key chain)
        · cases List.mem_singleton.mp last
          exact after

theorem Node.toJson_stripIds (node : Node) : node.stripIds.toJson = node.toJson.withoutIds :=
  node.toChain.toJson_stripIds

/-- What is written for a node tells which node it is. -/
theorem Node.toJson_injective {first second : Node} (written : first.toJson = second.toJson) :
    first = second := by
  have read := first.readNode_toJson .asWritten
  have other := second.readNode_toJson .asWritten
  rw [written, other] at read
  exact (Except.ok.inj read).symm

theorem Node.stripIds_stripIds (node : Node) : node.stripIds.stripIds = node.stripIds := by
  apply Node.toJson_injective
  rw [Node.toJson_stripIds, Node.toJson_stripIds, Json.withoutIds_withoutIds]

theorem Node.stripIds_eq_iff (first second : Node) :
    first.stripIds = second.stripIds ↔ first.toJson.withoutIds = second.toJson.withoutIds := by
  rw [← first.toJson_stripIds, ← second.toJson_stripIds]
  exact ⟨congrArg Node.toJson, Node.toJson_injective⟩

/-- Dropping the ids of a node takes the members under `id` out of what is written for it, and
nothing else. So doing it twice is doing it once, the node has the same blocks in the same order,
and what is left of two programs compares as equal exactly if they are written alike but for their
ids. -/
theorem Node.stripIds_only_ids :
    (∀ node : Node, node.stripIds.toJson = node.toJson.withoutIds ∧
      node.stripIds.stripIds = node.stripIds ∧ node.stripIds.kinds = node.kinds) ∧
    (∀ program : Program, program.stripIds.root = program.root.stripIds ∧
      program.stripIds.size = program.size) ∧
    ∀ first second : Program, first.stripIds.same second.stripIds = true ↔
      first.toJson.withoutIds = second.toJson.withoutIds := by
  refine ⟨fun node => ⟨node.toJson_stripIds, node.stripIds_stripIds, ?_⟩,
    fun program => ⟨rfl, program.size_stripIds⟩, fun first second => ?_⟩
  · rw [kinds, kinds, stripIds, Statement.kinds_stripIds, Chain.kinds_stripIds]
  · exact (Node.same_iff_eq _ _).trans (first.root.stripIds_eq_iff second.root)

end Marquee
