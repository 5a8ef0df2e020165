import Marquee.Proofs.Program.Sockets
import Mathlib.Data.List.Basic

/-!
# Scopes of blocks

The scope of a block is what is inside it and what follows it in its chain. A walk that passes over
the scope of a block whose id it has met before misses the ids that come in such scopes only.
-/

namespace Marquee

/-- Blocks with their ids and scopes. -/
inductive Scopes where
  | nil
  /-- A block, its scope, and what comes after that. -/
  | block (id : Option String) (scope others : Scopes)

namespace Scopes

def append : Scopes → Scopes → Scopes
  | nil, more => more
  | block id scope others, more => block id scope (others.append more)

instance : Append Scopes :=
  ⟨append⟩

/-- Scopes one after another. -/
def flatten : List Scopes → Scopes
  | [] => nil
  | first :: others => first ++ flatten others

def ids : Scopes → List String
  | nil => []
  | block id scope others => id.toList ++ (scope.ids ++ others.ids)

/-- Whether an id is among those that are known. -/
def repeats (id : Option String) (known : List String) : Bool :=
  id.any known.contains

/-- The ids that are known after a walk, which passes over the scope of a block whose id is known
by then. -/
def met : Scopes → List String → List String
  | nil, known => known
  | block id scope others, known =>
    others.met (if repeats id known then known else scope.met (id.toList ++ known))

/-- Where a block repeats an id that came before, all ids in its scope came before, too. -/
def NothingNew : Scopes → List String → Prop
  | nil, _ => True
  | block id scope others, before =>
    (repeats id before = true → scope.ids ⊆ before) ∧
      scope.NothingNew (id.toList ++ before) ∧
      others.NothingNew (scope.ids ++ (id.toList ++ before))

instance decidableNothingNew :
    (scopes : Scopes) → (before : List String) → Decidable (scopes.NothingNew before)
  | nil, _ => inferInstanceAs (Decidable True)
  | block id scope others, before =>
    have : Decidable (scope.ids ⊆ before) :=
      inferInstanceAs (Decidable (∀ name ∈ scope.ids, name ∈ before))
    have := scope.decidableNothingNew (id.toList ++ before)
    have := others.decidableNothingNew (scope.ids ++ (id.toList ++ before))
    inferInstanceAs (Decidable
      ((repeats id before = true → scope.ids ⊆ before) ∧
        scope.NothingNew (id.toList ++ before) ∧
        others.NothingNew (scope.ids ++ (id.toList ++ before))))

theorem ids_append (first second : Scopes) : (first ++ second).ids = first.ids ++ second.ids := by
  induction first with
  | nil => rfl
  | block id scope others _ inductionHypothesis =>
      have rest : (others.append second).ids = others.ids ++ second.ids := inductionHypothesis
      show id.toList ++ (scope.ids ++ (others.append second).ids) = _
      rw [rest, ids, List.append_assoc, List.append_assoc]

theorem ids_flatten (scopes : List Scopes) : (flatten scopes).ids = scopes.flatMap ids := by
  induction scopes with
  | nil => rfl
  | cons first others inductionHypothesis =>
      rw [flatten, ids_append, inductionHypothesis, List.flatMap_cons]

theorem nil_append (scopes : Scopes) : nil ++ scopes = scopes := rfl

theorem append_nil (scopes : Scopes) : scopes ++ nil = scopes := by
  induction scopes with
  | nil => rfl
  | block id scope others _ inductionHypothesis =>
      exact congrArg (block id scope) inductionHypothesis

theorem met_append (first second : Scopes) (known : List String) :
    (first ++ second).met known = second.met (first.met known) := by
  induction first generalizing known with
  | nil => rfl
  | block id scope others _ inductionHypothesis => exact inductionHypothesis _

theorem repeats_iff {id : Option String} {known : List String} :
    repeats id known = true ↔ ∃ name ∈ id, name ∈ known := by
  cases id <;> simp [repeats]

private theorem repeats_congr {known before : List String}
    (same : ∀ name, name ∈ known ↔ name ∈ before)
    (id : Option String) : repeats id known = repeats id before := by
  rw [Bool.eq_iff_iff, repeats_iff, repeats_iff]
  simp only [same]

/-- Nothing is missed if blocks that repeat an id bring nothing new. -/
theorem mem_met_iff {scopes : Scopes} {known before : List String}
    (nothingNew : scopes.NothingNew before) (same : ∀ name, name ∈ known ↔ name ∈ before)
    (name : String) : name ∈ scopes.met known ↔ name ∈ scopes.ids ∨ name ∈ before := by
  induction scopes generalizing known before name with
  | nil => simp [met, ids, same]
  | block id scope others scopeHypothesis othersHypothesis =>
      obtain ⟨old, scopeNew, othersNew⟩ := nothingNew
      have here (name : String) :
          name ∈ (if repeats id known then known else scope.met (id.toList ++ known)) ↔
            name ∈ scope.ids ++ (id.toList ++ before) := by
        rw [repeats_congr same, List.mem_append]
        cases repeated : repeats id before with
        | true =>
            obtain ⟨first, isId, member⟩ := repeats_iff.mp repeated
            cases isId
            rw [if_pos rfl, same]
            constructor
            · intro met
              exact Or.inr (List.mem_append_right _ met)
            · rintro (inScope | own)
              · exact old repeated inScope
              · rcases List.mem_cons.mp own with rfl | met
                · exact member
                · exact met
        | false =>
            rw [if_neg Bool.false_ne_true]
            refine scopeHypothesis scopeNew (fun name => ?_) name
            rw [List.mem_append, List.mem_append, same]
      rw [met, othersHypothesis othersNew here, ids]
      simp only [List.mem_append, or_assoc, or_left_comm]

end Scopes

mutual

/-- Literals become blocks without ids. -/
def Input.scopes : Input → Scopes
  | .empty => .nil
  | .number _ => .block none .nil .nil
  | .text _ => .block none .nil .nil
  | .block id expression => .block id expression.scopes .nil

def Expression.scopes : Expression → Scopes
  | .compare left _ right => left.scopes ++ right.scopes
  | .number _ => .nil
  | .randomRange _ _ => .nil
  | .getVariable _ => .nil
  | .colorValue _ => .nil
  | .customColor _ => .nil
  | .rgbColor _ => .nil

end

mutual

def Statement.scopes : Statement → Scopes
  | .start actions => actions.scopes
  | .displayImage _ => .nil
  | .playAnimation _ _ => .nil
  | .wait time => time.scopes
  | .branch condition whenTrue whenFalse =>
    condition.scopes ++ (whenTrue.scopes ++ whenFalse.scopes)
  | .setVariable _ value => value.scopes
  | .forever body => body.scopes
  | .repeatLoop times body => times.scopes ++ body.scopes
  | .whileLoop condition body => condition.scopes ++ body.scopes
  | .breakLoop => .nil
  | .gpio _ _ => .nil
  | .gpioBranch _ _ whenTrue whenFalse => whenTrue.scopes ++ whenFalse.scopes
  | .gpioTrigger _ _ actions => actions.scopes
  | .setColor color => color.scopes
  | .value expression => expression.scopes

def Chain.scopes : Chain → Scopes
  | .nil => .nil
  | .link id statement next => .block id (statement.scopes ++ next.scopes) .nil

end

/-- What follows the root is left out, as it is never loaded. -/
def Program.scopes (program : Program) : Scopes :=
  .block program.id program.actions.scopes .nil

theorem Expression.scopes_eq (expression : Expression) :
    expression.scopes =
      .flatten (expression.inputs.map fun socket => socket.2.scopes) := by
  cases expression with
  | compare left relation right => exact congrArg (left.scopes ++ ·) right.scopes.append_nil.symm
  | _ => rfl

theorem Statement.scopes_eq (statement : Statement) :
    statement.scopes =
      .flatten (statement.inputs.map fun socket => socket.2.scopes) ++
        .flatten (statement.chains.map fun socket => socket.2.scopes) := by
  cases statement with
  | value expression =>
      rw [scopes, expression.scopes_eq]
      exact (Scopes.append_nil _).symm
  | _ => simp [scopes, inputs, chains, Scopes.flatten, Scopes.nil_append, Scopes.append_nil]

private theorem Input.ids_scopes (input : Input) : input.scopes.ids = input.ids := by
  induction input using Input.socketInduction with
  | empty => rfl
  | number value => rfl
  | text literal => rfl
  | block id expression inductionHypothesis =>
      have inside : expression.scopes.ids = expression.ids := by
        rw [expression.scopes_eq, expression.ids_eq, Scopes.ids_flatten, List.flatMap_map]
        exact List.flatMap_congr fun socket member =>
          inductionHypothesis socket.1 socket.2 member
      rw [Input.scopes, Scopes.ids, inside, Scopes.ids, List.append_nil]
      rfl

private theorem Statement.ids_scopes {statement : Statement}
    (inside : ∀ chain ∈ statement.slots, chain.scopes.ids = chain.ids) :
    statement.scopes.ids = statement.ids := by
  have chains : (statement.chains.flatMap fun socket => socket.2.scopes.ids) =
      statement.chains.flatMap fun socket => socket.2.ids :=
    List.flatMap_congr fun socket member => inside _ (Statement.mem_slots_of_chains member)
  rw [statement.scopes_eq, statement.ids_eq, Scopes.ids_append, Scopes.ids_flatten,
    Scopes.ids_flatten, List.flatMap_map, List.flatMap_map, chains]
  simp only [Input.ids_scopes]

private theorem Chain.ids_scopes (chain : Chain) : chain.scopes.ids = chain.ids := by
  induction chain using Chain.socketInduction with
  | nil => rfl
  | link id statement next inside after =>
      rw [Chain.scopes, Scopes.ids, Scopes.ids_append, Statement.ids_scopes inside, after,
        Scopes.ids, List.append_nil]
      rfl

theorem Program.ids_scopes {program : Program} (alone : program.next = .nil) :
    program.scopes.ids = program.ids := by
  rw [Program.scopes, Scopes.ids, program.actions.ids_scopes, Program.ids, alone]
  rfl

end Marquee
