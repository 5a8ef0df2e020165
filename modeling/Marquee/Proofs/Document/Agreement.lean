import Marquee.Proofs.Document.Roles

/-!
# The two readers agree

Blocks are read by themselves, strictly, or as parts of a document, which leaves more freedom in how
they are written. A document is made uniform by naming every kind under `type` and cutting every
list to its first block. What the reader of documents accepts is then read strictly as well, and
nothing that was read strictly before is read otherwise.
-/

namespace Marquee

open Json (Members)

/-- The members with the kind under `type`, if it was under `kind` only. -/
def Json.Members.typed (members : Members) : Members :=
  match members.get? "type", members.get? "kind" with
  | none, some name => (members.erase "kind").insert "type" name
  | _, _ => members

mutual

/-- The value in its role, with every kind under `type` and every list cut to its first block. -/
def Json.uniform (role : Role) : Json → Json
  | .object members =>
    match role with
    | .block | .slot => .object (members.uniform .block (claimedKind? members)).typed
    | .input => .object (members.uniform .input (claimedKind? members)).typed
    | _ => .object members
  | .array items =>
    match role with
    | .slot => .array items.uniform
    | _ => .array items
  | other => other

def Json.Items.uniform : Json.Items → Json.Items
  | .nil => .nil
  | .cons head _ => .cons (head.uniform .block) .nil

def Json.Members.uniform (outer : Role) (kind : Option Kind) : Members → Members
  | .nil => .nil
  | .cons key value rest =>
    .cons key (value.uniform (outer.under kind key)) (rest.uniform outer kind)

end

namespace Json

private theorem uniform_plain (value : Json) : value.uniform .plain = value := by
  cases value <;> rfl

private theorem uniform_id (value : Json) : value.uniform .id = value := by
  cases value <;> rfl

namespace Members

theorem get?_uniform (members : Members) (outer : Role) (kind : Option Kind) (key : String) :
    (members.uniform outer kind).get? key =
      (members.get? key).map (Json.uniform (outer.under kind key)) := by
  cases members with
  | nil => rfl
  | cons name value rest =>
      rw [uniform, get?, get?]
      split
      · next same =>
          rw [same]
          rfl
      · exact get?_uniform rest outer kind key

theorem get?_typed (members : Members) {key : String} (other : key ∉ looseKindKeys) :
    members.typed.get? key = members.get? key := by
  have notType : "type" ≠ key := by
    rintro rfl
    exact other (.head _)
  have notKind : "kind" ≠ key := by
    rintro rfl
    exact other (.tail _ (.head _))
  rw [typed]
  split
  · rw [get?_insert, if_neg notType, get?_erase, if_neg notKind]
  · rfl

end Members

end Json

private theorem kindValue?_strict (members : Members) :
    kindValue? strictKindKeys members = members.get? "type" := by
  rw [kindValue?, strictKindKeys, List.findSome?_cons, List.findSome?_nil]
  cases members.get? "type" <;> rfl

private theorem kindValue?_typed (members : Members) :
    kindValue? strictKindKeys members.typed = kindValue? looseKindKeys members := by
  rw [kindValue?_strict, kindValue?_loose, Members.typed]
  split
  · next name noType named => rw [Members.get?_insert, if_pos rfl, noType, named, Option.none_or]
  · next split =>
      cases typed : members.get? "type" with
      | some value => rfl
      | none =>
          cases named : members.get? "kind" with
          | none => rfl
          | some name => exact absurd named (split name typed)

namespace Json.Members

/-- The members of a block or of a value block, made uniform. -/
def uniformly (members : Members) (outer : Role) : Members :=
  (members.uniform outer (claimedKind? members)).typed

theorem get?_uniformly (members : Members) (outer : Role) {key : String}
    (other : key ∉ looseKindKeys) :
    (members.uniformly outer).get? key =
      (members.get? key).map (Json.uniform (outer.under (claimedKind? members) key)) := by
  rw [uniformly, get?_typed _ other, get?_uniform]

theorem kindValue?_uniformly (members : Members) (outer : Role) :
    kindValue? strictKindKeys (members.uniformly outer) = kindValue? looseKindKeys members := by
  have same : ∀ key ∈ looseKindKeys,
      (members.uniform outer (claimedKind? members)).get? key = members.get? key := by
    intro key kindKey
    rw [get?_uniform, Role.under_kindKey outer _ key kindKey, funext uniform_plain]
    exact Option.map_id'
  rw [uniformly, kindValue?_typed, kindValue?_loose, kindValue?_loose, same _ (.head _),
    same _ (.tail _ (.head _))]

end Json.Members

section

variable {kindKeys : List String} {members : Members} {kind : Kind} {outer : Role}

private theorem readId_uniformly (holds : outer ∈ Role.kinded) :
    readId (members.uniformly outer) = readId members := by
  have same : (members.uniformly outer).get? "id" = members.get? "id" := by
    rw [Members.get?_uniformly _ _ (by decide), Role.under_id holds, funext Json.uniform_id]
    exact Option.map_id'
  rw [readId, readId, same]

/-- Literals are left as they are. -/
theorem get?_uniformly_fieldKey (holds : outer ∈ Role.kinded)
    (claimed : claimedKind? members = some kind ∨ claimedKind? members = none) :
    ∀ key ∈ kind.fieldKeys, (members.uniformly outer).get? key = members.get? key := by
  intro key fieldKey
  have listed : claimedKind? members ∈ [some kind, none] := by
    simpa using claimed
  rw [Members.get?_uniformly _ _ (kind.not_mem_looseKindKeys.1 key fieldKey),
    Role.under_fieldKey kind key fieldKey outer holds _ listed, funext Json.uniform_plain]
  exact Option.map_id'

/-- What is not a kind is read as before, if it is once it is uniform. -/
theorem entails_fieldOr_uniformly {ε α : Type} {default : α} {read : Json → Except ε α}
    {reads : Json → Except DecodeError α} {role : Role} {key : String}
    (other : key ∉ looseKindKeys) (standing : outer.under (claimedKind? members) key = role)
    (inner : ∀ value, members.get? key = some value →
      Entails (read value) (reads (value.uniform role))) :
    Entails (readOr default read (members.get? key))
      (fieldOr default reads key (members.uniformly outer)) := by
  rw [fieldOr_eq_readOr, Members.get?_uniformly _ _ other, standing]
  exact .readOr inner

/-- Inputs are read as before, where no kind was named otherwise than under `type`. -/
theorem entails_inputAt_uniformly (holds : outer ∈ Role.kinded)
    (claimed : claimedKind? members = some kind ∨
      claimedKind? members = none ∧ kindKeys = strictKindKeys)
    {key : String} (inputKey : key ∈ kind.inputKeys)
    (inner : ∀ value, members.get? key = some value →
      Entails (readInput kindKeys value) (readInput strictKindKeys (value.uniform .input))) :
    Entails (inputAt kindKeys members key)
      (inputAt strictKindKeys (members.uniformly outer) key) := by
  have other := kind.not_mem_looseKindKeys.2 key inputKey
  rcases claimed with named | ⟨unnamed, rfl⟩
  · have standing := Role.under_inputKey holds (kind.takesInput_of_mem key inputKey)
    rw [← named] at standing
    exact entails_fieldOr_uniformly other standing inner
  · -- A kind that is named by its number counts as none, and its inputs are left as they are.
    have standing := Role.under_none kind key inputKey outer holds
    rw [← unnamed] at standing
    refine entails_fieldOr_uniformly other standing ?_
    intro value _
    rw [Json.uniform_plain]
    exact .refl _

/-- A block that is read in either way, and whose parts can be read strictly once they are uniform,
can be read strictly once it is uniform. -/
theorem readNode_uniform {slot : String → Except DecodeError Chain} {node : Node}
    (claimed : claimedKind? members = some kind ∨
      claimedKind? members = none ∧ kindKeys = strictKindKeys)
    (named : readKind Kind.all (kindValue? looseKindKeys members) = .ok kind)
    (id : readId members = .ok node.id)
    (statement : readStatement (inputAt kindKeys members) slot kind members = .ok node.statement)
    (inputs : ∀ key ∈ kind.inputKeys, ∀ value, members.get? key = some value →
      Entails (readInput kindKeys value) (readInput strictKindKeys (value.uniform .input)))
    (slots : ∀ key ∈ slotKeys,
      Entails (slot key) (fieldOr .nil readSlot key (members.uniformly .block)))
    (next : fieldOr .nil readFollowing "next" (members.uniformly .block) = .ok node.next) :
    readNode ((Json.object members).uniform .block) = .ok node := by
  have holds : Role.block ∈ Role.kinded := .head _
  have entails := entails_readStatement
    (get?_uniformly_fieldKey holds (claimed.imp_right And.left))
    (fun key inputKey => entails_inputAt_uniformly holds claimed inputKey (inputs key inputKey))
    (fun key chainKey => slots key (kind.mem_slotKeys key chainKey))
  change readNode (.object (members.uniformly .block)) = .ok node
  rw [readNode_object, readId_uniformly holds, id, next, Members.kindValue?_uniformly, named]
  dsimp only [bind, Except.bind]
  rw [entails _ statement]
  rfl

private theorem readInput_uniform {held : Input}
    (claimed : claimedKind? members = some kind ∨
      claimedKind? members = none ∧ kindKeys = strictKindKeys)
    {id : Option String} {expression : Expression}
    (named : readKind valueKinds (kindValue? looseKindKeys members) = .ok kind)
    (identified : readId members = .ok id)
    (content : readExpression (inputAt kindKeys members) kind members = .ok expression)
    (inputs : ∀ key ∈ kind.inputKeys, ∀ value, members.get? key = some value →
      Entails (readInput kindKeys value) (readInput strictKindKeys (value.uniform .input)))
    (same : held = .block id expression) :
    readInput strictKindKeys ((Json.object members).uniform .input) = .ok held := by
  have holds : Role.input ∈ Role.kinded := .tail _ (.head _)
  have entails := entails_readExpression
    (get?_uniformly_fieldKey holds (claimed.imp_right And.left))
    (fun key inputKey => entails_inputAt_uniformly holds claimed inputKey (inputs key inputKey))
  change readInput strictKindKeys (.object (members.uniformly .input)) = .ok held
  refine readInput_object_eq_ok_iff.mpr ⟨id, kind, expression, ?_, ?_, entails _ content, same⟩
  · rw [readId_uniformly holds, identified]
  · rw [Members.kindValue?_uniformly, named]

end

private theorem readInput_of_not_object {value : Json}
    (notObject : ∀ members, value ≠ .object members)
    (kindKeys others : List String) : readInput kindKeys value = readInput others value := by
  cases value with
  | object members => exact absurd rfl (notObject members)
  | number found => cases found <;> simp only [readInput]
  | _ => simp only [readInput]

/-- A kind that is named under `type` is the one that a document names. -/
theorem readKind_of_strict {kinds : List Kind} {members : Members} {kind : Kind}
    (read : readKind kinds (kindValue? strictKindKeys members) = .ok kind) :
    readKind kinds (kindValue? looseKindKeys members) = .ok kind := by
  rw [kindValue?_strict] at read
  rw [kindValue?_loose]
  cases found : members.get? "type" with
  | none =>
      rw [found] at read
      cases read
  | some value =>
      rw [found] at read
      exact read

/-- Inputs that pass their check name their kinds, so that they mean the same once the kinds are
under `type`. -/
theorem entails_readInput_of_check : ∀ (value : Json) (path : Path),
    checkInput path value = .ok () → Entails (readInput looseKindKeys value)
      (readInput strictKindKeys (value.uniform .input))
  | .object members, _, checked => by
      intro held read
      obtain ⟨claimed, claims, _, inner⟩ := checkInput_object_eq_ok_iff.mp checked
      obtain ⟨id, kind, expression, identified, named, content, same⟩ :=
        readInput_object_eq_ok_iff.mp read
      obtain rfl := eq_of_readKind claims named
      refine readInput_uniform (.inl claims) named identified content ?_ same
      intro key inputKey value found
      have smaller := Members.size_get? found
      have passes := checkInput_of_get? inner (kind.isInputKey_of_mem inputKey) found
      exact entails_readInput_of_check value _ passes
  | .null, _, _ | .bool _, _, _ | .number _, _, _ | .string _, _, _ | .array _, _, _ => by
      intro held read
      refine (readInput_of_not_object ?_ _ _).trans read
      rintro members ⟨⟩
termination_by value => value.size
decreasing_by
  simp only [Json.size]
  omega

private theorem entails_readInput_uniform : ∀ value : Json,
    Entails (readInput strictKindKeys value) (readInput strictKindKeys (value.uniform .input))
  | .object members => by
      intro held read
      obtain ⟨id, kind, expression, identified, named, content, same⟩ :=
        readInput_object_eq_ok_iff.mp read
      have loose := readKind_of_strict named
      have claims := claimedKind?_of_readKind loose
      refine readInput_uniform (claims.imp_right fun unclaimed => ⟨unclaimed, rfl⟩) loose
        identified content ?_ same
      intro key _ value found
      have smaller := Members.size_get? found
      exact entails_readInput_uniform value
  | .null | .bool _ | .number _ | .string _ | .array _ => fun _ read => read
termination_by value => value.size
decreasing_by
  simp only [Json.size]
  omega

private theorem readSlot_object {members : Members} {node : Node}
    (read : readNode (.object members) = .ok node) :
    readSlot (.object members) = .ok node.toChain := by
  rw [readSlot, read]

private theorem readSlot_singleton {item : Json} {node : Node} (read : readNode item = .ok node) :
    readSlot (.array (.cons item .nil)) = .ok node.toChain := by
  rw [readSlot, readNodes, read, readNodes]
  rfl

section

variable {members : Members} {key : String} {ε : Type}

/-- Statement sockets are read wherever they stand in a block. -/
theorem entails_slot_uniformly {read : Json → Except ε Chain} (slotKey : key ∈ slotKeys)
    (inner : ∀ value, members.get? key = some value →
      Entails (read value) (readSlot (value.uniform .slot))) :
    Entails (readOr .nil read (members.get? key))
      (fieldOr .nil readSlot key (members.uniformly .block)) := by
  have other : ∀ name ∈ slotKeys, name ∉ looseKindKeys := by decide
  exact entails_fieldOr_uniformly (other key slotKey) (Role.under_slotKey _ slotKey) inner

private theorem entails_next_uniformly {read : Json → Except ε Chain}
    (inner : ∀ value, members.get? "next" = some value →
      Entails (read value) (readFollowing (value.uniform .block))) :
    Entails (readOr .nil read (members.get? "next"))
      (fieldOr .nil readFollowing "next" (members.uniformly .block)) :=
  entails_fieldOr_uniformly (by decide) rfl inner

end

private theorem entails_followingAt {head : Path} {count : Nat} {value : Json}
    (inner : Entails (readNodeAt head count value) (readNode (value.uniform .block))) :
    Entails (followingAt head count value) (readFollowing (value.uniform .block)) := by
  cases value with
  | null => exact .result Chain.nil
  | _ => exact inner.map Node.toChain

private theorem entails_readFollowing {value : Json}
    (inner : Entails (readNode value) (readNode (value.uniform .block))) :
    Entails (readFollowing value) (readFollowing (value.uniform .block)) := by
  cases value with
  | null => exact .result Chain.nil
  | _ => exact inner.map Node.toChain

/-! ## Agreement -/

mutual

theorem entails_readNodeAt_uniform (value : Json) (head : Path) (count : Nat) :
    Entails (readNodeAt head count value) (readNode (value.uniform .block)) := by
  intro node read
  obtain ⟨members, rfl⟩ := exists_members_of_readNodeAt read
  obtain ⟨kind, chainOf, reads⟩ := readNodeAt_eq_ok_iff.mp read
  have named : readKind Kind.all (kindValue? looseKindKeys members) = .ok kind := by
    rw [exists_name_of_claimedKind? reads.claimed, readKind_all]
  refine readNode_uniform (.inl reads.claimed) named reads.id reads.statement ?_ ?_ ?_
  · intro key inputKey value found
    have passes := checkInput_of_get? reads.checked (kind.isInputKey_of_mem inputKey) found
    exact entails_readInput_of_check value _ passes
  · intro key slotKey chain same
    cases same
    have slot := reads.slots key slotKey
    rw [slotReadAt_eq_readOr] at slot
    refine entails_slot_uniformly slotKey ?_ _ slot
    intro value found
    have smaller := Members.size_get? found
    exact entails_readSlotAt_uniform value _
  · have follows := reads.next
    rw [followingReadAt_eq_readOr] at follows
    refine entails_next_uniformly ?_ _ follows
    intro value found
    have smaller := Members.size_get? found
    exact entails_followingAt (entails_readNodeAt_uniform value head (count + 1))
termination_by 2 * value.size
decreasing_by
  all_goals
    simp only [*, Json.size]
    omega

theorem entails_readSlotAt_uniform : ∀ (value : Json) (path : Path),
    Entails (readSlotAt path value) (readSlot (value.uniform .slot))
  | .null, path => by
      intro chain read
      rw [readSlotAt] at read
      cases read
      exact readSlot.eq_1
  | .array .nil, path => by
      intro chain read
      rw [readSlotAt] at read
      cases read
      change readSlot (.array .nil) = _
      rw [readSlot, readNodes]
  | .array (.cons first after), path => by
      intro chain read
      obtain ⟨node, here, rfl⟩ := exists_of_readSlotAt_list read
      exact readSlot_singleton (entails_readNodeAt_uniform first _ 0 node here)
  | .object members, path => by
      intro chain read
      obtain ⟨node, here, rfl⟩ := exists_of_readSlotAt_object read
      exact readSlot_object (entails_readNodeAt_uniform (.object members) path 0 node here)
  | .bool _, _ | .number _, _ | .string _, _ => by
      intro chain read
      simp [readSlotAt] at read
termination_by value => 2 * value.size + 1
decreasing_by
  all_goals
    simp only [Json.size, Json.Items.size]
    omega

end

mutual

theorem entails_readNode_uniform : ∀ value : Json,
    Entails (readNode value) (readNode (value.uniform .block))
  | .object members => by
      intro node read
      rw [readNode_object] at read
      obtain ⟨id, identified, read⟩ := exists_of_bind read
      obtain ⟨next, follows, read⟩ := exists_of_bind read
      obtain ⟨kind, named, read⟩ := exists_of_bind read
      obtain ⟨statement, stated, read⟩ := exists_of_bind read
      cases read
      have loose := readKind_of_strict named
      have claims := claimedKind?_of_readKind loose
      refine readNode_uniform (claims.imp_right fun unclaimed => ⟨unclaimed, rfl⟩) loose
        identified stated ?_ ?_ ?_
      · intro key _ value _
        exact entails_readInput_uniform value
      · intro key slotKey
        refine entails_slot_uniformly slotKey ?_
        intro value found
        have smaller := Members.size_get? found
        exact entails_readSlot_uniform value
      · refine entails_next_uniformly ?_ _ follows
        intro value found
        have smaller := Members.size_get? found
        exact entails_readFollowing (entails_readNode_uniform value)
  | .null | .bool _ | .number _ | .string _ | .array _ => fun _ read => read
termination_by value => 2 * value.size
decreasing_by
  all_goals
    simp only [Json.size]
    omega

theorem entails_readSlot_uniform : ∀ value : Json,
    Entails (readSlot value) (readSlot (value.uniform .slot))
  | .array (.cons first after) => by
      intro chain read
      rw [readSlot] at read
      cases nodes : readNodes (.cons first after) with
      | error error =>
          rw [nodes] at read
          cases read
      | ok list =>
          rw [nodes] at read
          rw [readNodes] at nodes
          obtain ⟨node, here, nodes⟩ := exists_of_bind nodes
          obtain ⟨others, _, nodes⟩ := exists_of_bind nodes
          cases nodes
          cases read
          exact readSlot_singleton (entails_readNode_uniform first node here)
  | .object members => by
      intro chain read
      rw [readSlot] at read
      split at read
      · next node here =>
          cases read
          exact readSlot_object (entails_readNode_uniform (.object members) node here)
      · cases read
  | .null | .bool _ | .number _ | .string _ | .array .nil => fun _ read => read
termination_by value => 2 * value.size + 1
decreasing_by
  all_goals
    simp only [Json.size, Json.Items.size]
    omega

end

/-- What the reader of documents takes for a program is read strictly as the root of the program,
once it is uniform, and never strictly as anything else. -/
theorem Document.ofJson_agrees {value : Json} {content : Program}
    (accepted : Document.ofJson value = .ok (.program content)) :
    readNode (value.uniform .block) = .ok content.root ∧
      ∀ node, readNode value = .ok node → node = content.root := by
  have uniform : readNode (value.uniform .block) = .ok content.root :=
    entails_readNodeAt_uniform value .root 0 _ (ofJson_eq_program_iff.mp accepted).2
  refine ⟨uniform, ?_⟩
  intro node read
  have same := entails_readNode_uniform value node read
  exact Except.ok.inj (same.symm.trans uniform)

/-- A document that is not uniform: kinds under `kind`, also inside an input, a block without a list
in one socket, and something after the first block of a list in another. -/
def Json.watching : Json :=
  .object (.ofList [
    ("actions", .array (.ofList [
      .object (.ofList [
        ("condition", .object (.ofList [
          ("kind", .string "compare"),
          ("left", .object (.ofList [("kind", .string "get_variable")])),
          ("right", .int 3)])),
        ("kind", .string "while"),
        ("loop_body", .object (.ofList [("type", .string "break")])),
        ("next", .null)]),
      .int 7])),
    ("kind", .string "start")])

/-- What the document holds. -/
def watching : Program :=
  let condition := Expression.compare (.block none (.getVariable defaultVariable)) .eq (.number 3)
  .ofActions (.link none (.whileLoop (.block none condition) (.link none .breakLoop .nil)) .nil)

/-- The document before and after it is made uniform. -/
theorem ofJson_agrees_watching :
    (Document.ofJson Json.watching = .ok (.program watching) ∧
      readNode (Json.watching.uniform .block) = .ok watching.root) ∧
    Document.ofJson (Json.watching.uniform .block) = .ok (.program watching) ∧
      ∃ node, readNode (Json.watching.uniform .block) = .ok node ∧ node = watching.root := by
  have loose : Document.ofJson Json.watching = .ok (.program watching) := by decide +kernel
  have uniform : Document.ofJson (Json.watching.uniform .block) = .ok (.program watching) := by
    decide +kernel
  have read := (Document.ofJson_agrees loose).1
  exact ⟨⟨loose, read⟩, uniform, watching.root, read, (Document.ofJson_agrees uniform).2 _ read⟩

end Marquee
