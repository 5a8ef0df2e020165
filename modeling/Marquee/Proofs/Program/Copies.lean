import Marquee.Program.Links
import Marquee.Proofs.Program.Parts

/-!
# Equal programs and copies

Comparing two chains link by link finds out whether they are equal as trees, and a chain put
together of copies of its links is the chain itself. Links that are strung together come out again
in their order, each with the next one after it.
-/

namespace Marquee

mutual

/-- Statements of one kind are equal if their fields are, and the chains in their sockets. -/
theorem Statement.same_iff_eq (first second : Statement) :
    first.same second = true ↔ first = second := by
  match first with
  | .start actions => cases second <;> simp [Statement.same, actions.same_iff_eq]
  | .displayImage _ => cases second <;> simp [Statement.same]
  | .playAnimation _ _ => cases second <;> simp [Statement.same]
  | .wait _ => cases second <;> simp [Statement.same]
  | .branch _ whenTrue whenFalse =>
      cases second <;>
        simp [Statement.same, whenTrue.same_iff_eq, whenFalse.same_iff_eq, and_assoc]
  | .setVariable _ _ => cases second <;> simp [Statement.same]
  | .forever body => cases second <;> simp [Statement.same, body.same_iff_eq]
  | .repeatLoop _ body => cases second <;> simp [Statement.same, body.same_iff_eq]
  | .whileLoop _ body => cases second <;> simp [Statement.same, body.same_iff_eq]
  | .breakLoop => cases second <;> simp [Statement.same]
  | .gpio _ _ => cases second <;> simp [Statement.same]
  | .gpioBranch _ _ whenTrue whenFalse =>
      cases second <;>
        simp [Statement.same, whenTrue.same_iff_eq, whenFalse.same_iff_eq, and_assoc]
  | .gpioTrigger _ _ actions =>
      cases second <;> simp [Statement.same, actions.same_iff_eq, and_assoc]
  | .setColor _ => cases second <;> simp [Statement.same]
  | .value _ => cases second <;> simp [Statement.same]

/-- Chains are equal if their links are, one by one, and neither goes on after the other ends. -/
theorem Chain.same_iff_eq (first second : Chain) : first.same second = true ↔ first = second := by
  match first with
  | .nil => cases second <;> simp [Chain.same]
  | .link _ statement next =>
      cases second <;> simp [Chain.same, statement.same_iff_eq, next.same_iff_eq, and_assoc]

end

theorem Node.same_iff_eq (first second : Node) : first.same second = true ↔ first = second := by
  rw [same, Chain.same_iff_eq]
  obtain ⟨id, statement, next⟩ := first
  obtain ⟨otherId, other, otherNext⟩ := second
  simp [toChain]

/-- The links of a chain come out in the order in which they were strung together. -/
theorem Chain.nodes_ofNodes (node : Node) (rest : List Node) :
    (ofNodes (node :: rest)).nodes =
      { node with next := ofNodes rest } :: (ofNodes rest).nodes :=
  rfl

/-- What can be told of links without looking at what follows them is the same in the chain. -/
theorem Chain.map_nodes_ofNodes {Trait : Type} {trait : Node → Trait}
    (apart : ∀ (node : Node) (next : Chain), trait { node with next := next } = trait node)
    (nodes : List Node) : (ofNodes nodes).nodes.map trait = nodes.map trait := by
  induction nodes with
  | nil => rfl
  | cons node rest inductionHypothesis =>
      rw [nodes_ofNodes, List.map_cons, List.map_cons, apart, inductionHypothesis]

private theorem Chain.head?_nodes (chain : Chain) : chain.nodes.head? = chain.head? := by
  cases chain <;> rfl

/-- In every chain each link leads to the one that comes out after it, and the last one nowhere. -/
theorem Chain.head?_next_nodes (chain : Chain) (index : Nat) (inside : index < chain.nodes.length) :
    chain.nodes[index].next.head? = chain.nodes[index + 1]? := by
  match chain, index with
  | .link _ _ next, 0 => exact next.head?_nodes.symm.trans List.head?_eq_getElem?
  | .link _ _ next, index + 1 =>
      exact next.head?_next_nodes index (Nat.lt_of_succ_lt_succ inside)

private theorem Statement.copy_of_slots {statement : Statement}
    (inside : ∀ chain ∈ statement.slots, chain.copy = chain) : statement.copy = statement := by
  cases statement <;> simp_all [slots, copy]

/-- A copy of a chain is the chain, and so is what copies of its links make up. -/
theorem Chain.copy_eq_and_ofNodes_loose (chain : Chain) :
    chain.copy = chain ∧ ofNodes chain.loose = chain := by
  -- A copy is made of loose links after its first one, so neither fact goes without the other.
  induction chain using Chain.socketInduction with
  | nil => exact ⟨rfl, rfl⟩
  | link id statement next inside after =>
      have copied := Statement.copy_of_slots fun chain member => (inside chain member).1
      rw [copy, loose, ofNodes, copied, after.2]
      exact ⟨rfl, rfl⟩

theorem Node.copy_eq (node : Node) : node.copy = node := by
  have copied : node.statement.copy = node.statement :=
    Statement.copy_of_slots fun chain _ => chain.copy_eq_and_ofNodes_loose.1
  rw [copy, copied, node.next.copy_eq_and_ofNodes_loose.2]

/-- Nodes compare as equal exactly if they are equal as trees. A copy of a node compares as equal
to it and is written as the same text. Nodes that are strung together come out as a chain in the
same order, each as it was but for what follows it, which is now the next one. -/
theorem Node.same_copy_linked :
    (∀ first second : Node, first.same second = true ↔ first = second) ∧
    (∀ node : Node, node.copy.same node = true ∧
      node.copy.toJson.compact = node.toJson.compact ∧
      node.copy.toJson.pretty = node.toJson.pretty) ∧
    ∀ nodes : List Node,
      let linked := (Chain.ofNodes nodes).nodes
      linked.map Node.id = nodes.map Node.id ∧
      linked.map Node.statement = nodes.map Node.statement ∧
      ∀ (index : Nat) (inside : index < linked.length),
        linked[index].next.head? = linked[index + 1]? := by
  refine ⟨Node.same_iff_eq, fun node => ?_, fun nodes => ⟨?_, ?_, ?_⟩⟩
  · rw [node.copy_eq]
    exact ⟨(node.same_iff_eq node).mpr rfl, rfl, rfl⟩
  · exact Chain.map_nodes_ofNodes (fun _ _ => rfl) nodes
  · exact Chain.map_nodes_ofNodes (fun _ _ => rfl) nodes
  · exact (Chain.ofNodes nodes).head?_next_nodes

end Marquee
