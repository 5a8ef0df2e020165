import Marquee.Program.Writer
import Marquee.Proofs.Json.Sorting

/-!
# The parts of a written block

A block is written part by part, each under its key. The parts of every block are listed here, so
that what holds of all parts is shown once and not for every kind of block.
-/

namespace Marquee

open Json (Members)

/-- What stands under a key of a block. -/
inductive Part where
  | id (id : Option String)
  | text (text : String)
  | int (value : Int)
  | input (input : Input)
  | slot (chain : Chain)
  | next (chain : Chain)

/-- The JSON of a part; an absent one is null. -/
def Part.toJson : Part → Json
  | .id none => .null
  | .id (some name) => .string name
  | .text written => .string written
  | .int value => .int value
  | .input held => held.toJson
  | .slot chain => chain.toJson.singleton
  | .next chain => chain.toJson

/-- The value unless it is null. -/
def Json.present? : Json → Option Json
  | .null => none
  | value => some value

/-- The members that are written for a list of parts, before others. -/
def writeParts (rest : Members) : List (String × Part) → Members
  | [] => rest
  | (key, part) :: parts => .consUnlessNull key part.toJson (writeParts rest parts)

def Expression.parts : Expression → List (String × Part)
  | .number value => [("value", .int value.toInt)]
  | .randomRange min max => [("min", .int min.toInt), ("max", .int max.toInt)]
  | .getVariable name => [("var_name", .text name)]
  | .compare left relation right =>
    [("left", .input left), ("operator", .text relation.name), ("right", .input right)]
  | .colorValue color => [("color", .text color)]
  | .customColor color => [("color", .text color)]
  | .rgbColor color =>
    [("red", .int color.red.toNat), ("green", .int color.green.toNat),
      ("blue", .int color.blue.toNat)]

def Statement.parts : Statement → List (String × Part)
  | .start actions => [("actions", .slot actions)]
  | .displayImage filename => [("filename", .text filename)]
  | .playAnimation folder playFor => [("folder", .text folder), ("play_for", .int playFor.toNat)]
  | .wait time => [("time", .input time)]
  | .branch condition whenTrue whenFalse =>
    [("condition", .input condition), ("true_branch", .slot whenTrue),
      ("false_branch", .slot whenFalse)]
  | .setVariable name new => [("var_name", .text name), ("value", .input new)]
  | .forever body => [("loop_body", .slot body)]
  | .repeatLoop times body => [("times", .input times), ("loop_body", .slot body)]
  | .whileLoop condition body => [("condition", .input condition), ("loop_body", .slot body)]
  | .breakLoop => []
  | .gpio pin level => [("pin", .int pin.toNat), ("state", .text level.name)]
  | .gpioBranch pin level whenTrue whenFalse =>
    [("pin", .int pin.toNat), ("state", .text level.name), ("true_branch", .slot whenTrue),
      ("false_branch", .slot whenFalse)]
  | .gpioTrigger pin trigger actions =>
    [("pin", .int pin.toNat), ("trigger", .text trigger.name), ("actions", .slot actions)]
  | .setColor color => [("color", .input color)]
  | .value expression => expression.parts

/-- The parts of a value block in a value socket. -/
def Expression.blockParts (id : Option String) (expression : Expression) : List (String × Part) :=
  ("id", .id id) :: ("type", .text expression.kind.name) :: expression.parts

/-- The parts of a statement with all that follows it. -/
def Statement.blockParts (id : Option String) (statement : Statement) (next : Chain) :
    List (String × Part) :=
  ("id", .id id) :: ("type", .text statement.kind.name) ::
    (statement.parts ++ [("next", .next next)])

mutual

/-- Induction over inputs: of a value block, what holds of the inputs among its parts can be
used. -/
@[elab_as_elim]
theorem Input.partInduction {motive : Input → Prop} (empty : motive .empty)
    (number : ∀ value, motive (.number value)) (text : ∀ text, motive (.text text))
    (block : ∀ id expression,
      (∀ key held, (key, Part.input held) ∈ Expression.parts expression → motive held) →
      motive (.block id expression)) (input : Input) : motive input := by
  match input with
  | .empty => exact empty
  | .number value => exact number value
  | .text written => exact text written
  | .block id expression =>
      exact block id expression (expression.partInduction empty number text block)

theorem Expression.partInduction {motive : Input → Prop} (empty : motive .empty)
    (number : ∀ value, motive (.number value)) (text : ∀ text, motive (.text text))
    (block : ∀ id expression,
      (∀ key held, (key, Part.input held) ∈ Expression.parts expression → motive held) →
      motive (.block id expression)) (expression : Expression) :
    ∀ key held, (key, Part.input held) ∈ expression.parts → motive held := by
  intro key held member
  match expression with
  | .compare left relation right =>
      have first := left.partInduction empty number text block
      have second := right.partInduction empty number text block
      simp only [Expression.parts, List.mem_cons, Prod.mk.injEq, Part.input.injEq, reduceCtorEq,
        and_false, false_or, List.not_mem_nil, or_false] at member
      rcases member with ⟨_, rfl⟩ | ⟨_, rfl⟩
      · exact first
      · exact second
  | .number _ => simp [Expression.parts] at member
  | .randomRange _ _ => simp [Expression.parts] at member
  | .getVariable _ => simp [Expression.parts] at member
  | .colorValue _ => simp [Expression.parts] at member
  | .customColor _ => simp [Expression.parts] at member
  | .rgbColor _ => simp [Expression.parts] at member

end

mutual

/-- Induction over chains: of a link, what holds of the chains in the sockets of its statement, and
of the chain that follows, can be used. -/
@[elab_as_elim]
theorem Chain.socketInduction {motive : Chain → Prop} (nil : motive .nil)
    (link : ∀ id statement next, (∀ inner ∈ Statement.slots statement, motive inner) →
      motive next → motive (.link id statement next)) (chain : Chain) : motive chain := by
  match chain with
  | .nil => exact nil
  | .link id statement next =>
      have inside := statement.socketInduction nil link
      have after := next.socketInduction nil link
      exact link id statement next inside after

theorem Statement.socketInduction {motive : Chain → Prop} (nil : motive .nil)
    (link : ∀ id statement next, (∀ inner ∈ Statement.slots statement, motive inner) →
      motive next → motive (.link id statement next)) (statement : Statement) :
    ∀ inner ∈ statement.slots, motive inner := by
  match statement with
  | .start actions => exact List.forall_mem_singleton.mpr (actions.socketInduction nil link)
  | .branch _ whenTrue whenFalse =>
      have second := List.forall_mem_singleton.mpr (whenFalse.socketInduction nil link)
      exact List.forall_mem_cons.mpr ⟨whenTrue.socketInduction nil link, second⟩
  | .forever body => exact List.forall_mem_singleton.mpr (body.socketInduction nil link)
  | .repeatLoop _ body => exact List.forall_mem_singleton.mpr (body.socketInduction nil link)
  | .whileLoop _ body => exact List.forall_mem_singleton.mpr (body.socketInduction nil link)
  | .gpioBranch _ _ whenTrue whenFalse =>
      have second := List.forall_mem_singleton.mpr (whenFalse.socketInduction nil link)
      exact List.forall_mem_cons.mpr ⟨whenTrue.socketInduction nil link, second⟩
  | .gpioTrigger _ _ actions =>
      exact List.forall_mem_singleton.mpr (actions.socketInduction nil link)
  | .displayImage _ => exact List.forall_mem_nil _
  | .playAnimation _ _ => exact List.forall_mem_nil _
  | .wait _ => exact List.forall_mem_nil _
  | .setVariable _ _ => exact List.forall_mem_nil _
  | .breakLoop => exact List.forall_mem_nil _
  | .gpio _ _ => exact List.forall_mem_nil _
  | .setColor _ => exact List.forall_mem_nil _
  | .value _ => exact List.forall_mem_nil _

end

private theorem Expression.members_eq (expression : Expression) (rest : Members) :
    expression.members rest = writeParts rest expression.parts := by
  cases expression <;> rfl

private theorem Statement.members_eq (statement : Statement) (rest : Members) :
    statement.members rest = writeParts rest statement.parts := by
  cases statement with
  | value expression => exact expression.members_eq rest
  | _ => rfl

private theorem consText?_eq (id : Option String) (rest : Members) :
    Members.consText? "id" id rest = .consUnlessNull "id" (Part.id id).toJson rest := by
  cases id <;> rfl

private theorem writeParts_append (first second : List (String × Part)) (rest : Members) :
    writeParts rest (first ++ second) = writeParts (writeParts rest second) first := by
  induction first with
  | nil => rfl
  | cons part parts inductionHypothesis =>
      rw [List.cons_append, writeParts, inductionHypothesis]
      rfl

theorem Input.toJson_block (id : Option String) (expression : Expression) :
    (Input.block id expression).toJson = .object (writeParts .nil (expression.blockParts id)) := by
  rw [Input.toJson, consText?_eq, expression.members_eq]
  rfl

theorem Chain.toJson_link (id : Option String) (statement : Statement) (next : Chain) :
    (Chain.link id statement next).toJson =
      .object (writeParts .nil (statement.blockParts id next)) := by
  rw [Chain.toJson, consText?_eq, statement.members_eq, Statement.blockParts, writeParts,
    writeParts, writeParts_append]
  rfl

/-! ## What is written under a key -/

private theorem get?_consUnlessNull (key name : String) (value : Json) (rest : Members) :
    (Members.consUnlessNull key value rest).get? name =
      if key = name then value.present?.or (rest.get? name) else rest.get? name := by
  cases value <;> simp [Members.consUnlessNull, Json.present?, Members.get?]

private theorem keys_consUnlessNull (key : String) (value : Json) (rest : Members) :
    (Members.consUnlessNull key value rest).keys.Sublist (key :: rest.keys) := by
  cases value with
  | null => exact List.sublist_cons_self key rest.keys
  | _ => exact List.Sublist.refl _

theorem keys_writeParts (parts : List (String × Part)) :
    (writeParts .nil parts).keys.Sublist (parts.map Prod.fst) := by
  induction parts with
  | nil => exact List.Sublist.refl _
  | cons part parts inductionHypothesis =>
      obtain ⟨key, part⟩ := part
      exact (keys_consUnlessNull key part.toJson _).trans
        (inductionHypothesis.cons_cons key)

theorem get?_writeParts_of_not_mem {parts : List (String × Part)} {key : String}
    (absent : key ∉ parts.map Prod.fst) : (writeParts .nil parts).get? key = none :=
  Members.get?_eq_none fun member => absent ((keys_writeParts parts).subset member)

theorem get?_writeParts {parts : List (String × Part)} (distinct : (parts.map Prod.fst).Nodup)
    {key : String} {part : Part} (member : (key, part) ∈ parts) :
    (writeParts .nil parts).get? key = part.toJson.present? := by
  induction parts with
  | nil => cases member
  | cons first parts inductionHypothesis =>
      obtain ⟨name, other⟩ := first
      obtain ⟨fresh, restDistinct⟩ := List.nodup_cons.mp distinct
      rw [writeParts, get?_consUnlessNull]
      rcases List.mem_cons.mp member with here | later
      · cases here
        rw [if_pos rfl, get?_writeParts_of_not_mem fresh, Option.or_none]
      · have different : name ≠ key := by
          rintro rfl
          exact fresh (List.mem_map.mpr ⟨(name, part), later, rfl⟩)
        rw [if_neg different, inductionHypothesis restDistinct later]

/-- Each part is the first one under its key, if the keys are distinct. -/
theorem lookup_of_mem {parts : List (String × Part)} (distinct : (parts.map Prod.fst).Nodup)
    {key : String} {part : Part} (member : (key, part) ∈ parts) :
    parts.lookup key = some part := by
  obtain ⟨earlier, later, rfl⟩ := List.append_of_mem member
  refine List.lookup_eq_some_iff.mpr ⟨earlier, later, rfl, fun other among => ?_⟩
  rw [List.map_append, List.map_cons] at distinct
  obtain ⟨_, _, apart⟩ := List.nodup_append.mp distinct
  have different := apart other.1 (List.mem_map_of_mem among) key List.mem_cons_self
  exact bne_iff_ne.mpr different.symm

theorem mem_toList_writeParts {parts : List (String × Part)} {key : String} {value : Json}
    (member : (key, value) ∈ (writeParts .nil parts).toList) :
    ∃ part, (key, part) ∈ parts ∧ value = part.toJson := by
  induction parts with
  | nil => cases member
  | cons first parts inductionHypothesis =>
      obtain ⟨name, other⟩ := first
      have either : (key, value) = (name, other.toJson) ∨
          (key, value) ∈ (writeParts .nil parts).toList := by
        rw [writeParts] at member
        cases written : other.toJson with
        | null =>
            rw [written] at member
            exact Or.inr member
        | _ =>
            rw [written] at member
            exact List.mem_cons.mp member
      rcases either with here | later
      · cases here
        exact ⟨other, List.mem_cons_self, rfl⟩
      · obtain ⟨part, inside, same⟩ := inductionHypothesis later
        exact ⟨part, List.mem_cons_of_mem _ inside, same⟩

theorem Expression.nodup_keys (id : Option String) (expression : Expression) :
    ((expression.blockParts id).map Prod.fst).Nodup := by
  cases expression <;> simp [blockParts, parts]

theorem Statement.nodup_keys (id : Option String) (statement : Statement) (next : Chain) :
    ((statement.blockParts id next).map Prod.fst).Nodup := by
  cases statement with
  | value expression => cases expression <;> simp [blockParts, parts, Expression.parts]
  | _ => simp [blockParts, parts]

theorem Expression.slot_not_mem_parts (expression : Expression) (key : String) (chain : Chain) :
    (key, Part.slot chain) ∉ expression.parts := by
  cases expression <;> simp [parts]

theorem Expression.next_not_mem_parts (expression : Expression) (key : String) (chain : Chain) :
    (key, Part.next chain) ∉ expression.parts := by
  cases expression <;> simp [parts]

theorem Statement.next_not_mem_parts (statement : Statement) (key : String) (chain : Chain) :
    (key, Part.next chain) ∉ statement.parts := by
  cases statement with
  | value expression => exact expression.next_not_mem_parts key chain
  | _ => simp [parts]

theorem Statement.mem_slots {statement : Statement} {key : String} {chain : Chain}
    (member : (key, Part.slot chain) ∈ statement.parts) : chain ∈ statement.slots := by
  cases statement with
  | value expression => exact absurd member (expression.slot_not_mem_parts key chain)
  | _ => grind [parts, slots]

private theorem fits_toInt (value : Int64) : Json.Fits value.toInt := by
  have low := value.le_toInt
  have high := value.toInt_lt
  simp only [Json.Fits, signedLimit, longLimit]
  omega

private theorem fits_natCast {n : Nat} (small : n < longLimit) : Json.Fits n := by
  simp only [Json.Fits, signedLimit, longLimit] at small ⊢
  omega

private theorem fits_byte (byte : UInt8) : Json.Fits byte.toNat :=
  fits_natCast (Nat.lt_trans byte.toNat_lt (by decide))

private theorem integral_writeParts {parts : List (String × Part)}
    (all : ∀ part ∈ parts, part.2.toJson.Integral) : (writeParts .nil parts).Integral := by
  induction parts with
  | nil => trivial
  | cons first parts inductionHypothesis =>
      obtain ⟨key, part⟩ := first
      obtain ⟨here, others⟩ := List.forall_mem_cons.mp all
      have rest := inductionHypothesis others
      rw [writeParts]
      cases written : part.toJson with
      | null => exact rest
      | _ =>
          rw [written] at here
          exact ⟨here, rest⟩

private theorem integral_singleton {value : Json} (integral : value.Integral) :
    value.singleton.Integral := by
  cases value with
  | null => trivial
  | _ => exact ⟨integral, trivial⟩

private theorem Expression.fits_of_part {expression : Expression} {key : String} {value : Int}
    (member : (key, Part.int value) ∈ expression.parts) : Json.Fits value := by
  cases expression <;> grind [parts, fits_toInt, fits_byte]

private theorem fits_uint64 (value : UInt64) : Json.Fits value.toNat :=
  fits_natCast value.toNat_lt

private theorem Statement.fits_of_part {statement : Statement} {key : String} {value : Int}
    (member : (key, Part.int value) ∈ statement.parts) : Json.Fits value := by
  cases statement with
  | value expression => exact expression.fits_of_part member
  | _ => grind [parts, fits_byte, fits_uint64]

private theorem Part.integral_toJson {part : Part}
    (ints : ∀ value, part = .int value → Json.Fits value)
    (inputs : ∀ held, part = .input held → held.toJson.Integral)
    (chains : ∀ chain, part = .slot chain ∨ part = .next chain → chain.toJson.Integral) :
    part.toJson.Integral := by
  cases part with
  | id name => cases name <;> trivial
  | text _ => trivial
  | int value => exact ints value rfl
  | input held => exact inputs held rfl
  | slot chain => exact integral_singleton (chains chain (Or.inl rfl))
  | next chain => exact chains chain (Or.inr rfl)

private theorem Input.integral_toJson (input : Input) : input.toJson.Integral := by
  induction input using Input.partInduction with
  | empty => trivial
  | number value => exact fits_toInt value
  | text _ => trivial
  | block id expression inductionHypothesis =>
      rw [Input.toJson_block]
      apply integral_writeParts
      simp only [Expression.blockParts, List.forall_mem_cons]
      refine ⟨?_, trivial, ?_⟩
      · cases id <;> trivial
      · rintro ⟨key, part⟩ member
        apply Part.integral_toJson
        · rintro value rfl
          exact Expression.fits_of_part member
        · rintro held rfl
          exact inductionHypothesis key held member
        · rintro chain (rfl | rfl)
          · exact absurd member (expression.slot_not_mem_parts key chain)
          · exact absurd member (expression.next_not_mem_parts key chain)

theorem Chain.integral_toJson (chain : Chain) : chain.toJson.Integral := by
  induction chain using Chain.socketInduction with
  | nil => trivial
  | link id statement next inside after =>
      rw [Chain.toJson_link]
      apply integral_writeParts
      simp only [Statement.blockParts, List.forall_mem_cons, List.forall_mem_append]
      refine ⟨?_, trivial, ?_, after, List.forall_mem_nil _⟩
      · cases id <;> trivial
      · rintro ⟨key, part⟩ member
        apply Part.integral_toJson
        · rintro value rfl
          exact Statement.fits_of_part member
        · rintro held rfl
          exact held.integral_toJson
        · rintro chain (rfl | rfl)
          · exact inside chain (Statement.mem_slots member)
          · exact absurd member (statement.next_not_mem_parts key chain)

end Marquee
