import Mathlib.Algebra.Ring.Nat
import Marquee.Proofs.Editor.Filling
import Marquee.Proofs.Editor.Laying

/-!
# A block part by part

A new block gets its fields first and then what hangs in its sockets. Each field is written once and
each socket is filled once, so in the end the block has all the fields, and in each socket hangs what
was built for it.
-/

namespace Marquee

open Workspace Loading

namespace Workspace.Look

/-- The look of a block after some fields are written, one after the other. -/
def writeAll (look : Look) (fields : List (String × FieldValue)) : Look :=
  fields.foldl (fun look field => look.write field.1 field.2) look

variable {fields : List (String × FieldValue)}

private theorem kind_writeAll (look : Look) (fields : List (String × FieldValue)) :
    (look.writeAll fields).kind = look.kind := by
  induction fields generalizing look with
  | nil => rfl
  | cons field rest inductionHypothesis => exact inductionHypothesis (look.write field.1 field.2)

private theorem held_writeAll (look : Look) (fields : List (String × FieldValue)) :
    (look.writeAll fields).held = look.held := by
  induction fields generalizing look with
  | nil => rfl
  | cons field rest inductionHypothesis => exact inductionHypothesis (look.write field.1 field.2)

private theorem get?_writeAll_of_not_mem {name : String} (absent : name ∉ fields.map Prod.fst)
    (look : Look) : (look.writeAll fields).fields.get? name = look.fields.get? name := by
  induction fields generalizing look with
  | nil => rfl
  | cons field rest inductionHypothesis =>
      obtain ⟨other, later⟩ := not_or.mp (List.mem_cons.not.mp absent)
      have after := inductionHypothesis later (look.write field.1 field.2)
      exact after.trans ((Table.get?_set ..).trans (if_neg other))

private theorem get?_writeAll (distinct : (fields.map Prod.fst).Nodup) {name : String}
    {value : FieldValue} (member : (name, value) ∈ fields) (look : Look) :
    (look.writeAll fields).fields.get? name = some value := by
  induction fields generalizing look with
  | nil => cases member
  | cons field rest inductionHypothesis =>
      obtain ⟨fresh, others⟩ := List.nodup_cons.mp distinct
      rcases List.mem_cons.mp member with rfl | later
      · have after := get?_writeAll_of_not_mem fresh (look.write name value)
        exact after.trans ((Table.get?_set ..).trans (if_pos rfl))
      · exact inductionHypothesis others later (look.write field.1 field.2)

theorem hang_of_free {look : Look} {place : Place} (free : look.held place = none) :
    look.hang place none = look := by
  have same : (fun other => if other = place then none else look.held other) = look.held := by
    funext other
    split
    · next here => rw [here, free]
    · rfl
  rw [hang, same]

end Workspace.Look

namespace Loading

/-- Whenever it is the turn of a place, the work hangs something there that is made of so many
blocks and shows what it should. -/
def Supplies (kind : Kind) (owner : Nat) (place : Place) (count : Nat)
    (shows : Workspace → Option Nat → Prop)
    (work : Loading Workspace Nat → Loading Workspace Nat) : Prop :=
  ∀ loading, Ready kind owner place loading →
    ∃ head, Fills owner place head count (shows · head) loading (work loading)

theorem Supplies.nothing {kind : Kind} {owner : Nat} {place : Place}
    {shows : Workspace → Option Nat → Prop} (always : ∀ final, shows final none) :
    Supplies kind owner place 0 shows fun loading => loading :=
  fun _ ready => ⟨none, Fills.nothing ready always⟩

section

variable {look : Look} {grip : Option (Nat × Place)} {count : Nat} {inner : Workspace → Prop}
  {before middle : Loading Workspace Nat}

theorem Lays.setFields (lays : Lays look grip count inner before middle)
    {fields : List (String × FieldValue)} (known : ∀ field ∈ fields, field.1 ∈ look.kind.fields) :
    Lays (look.writeAll fields) grip count inner before
      (middle.setFields sink before.editor.blocks.size fields) := by
  induction fields generalizing look middle with
  | nil => exact lays
  | cons field rest inductionHypothesis =>
      obtain ⟨first, others⟩ := List.forall_mem_cons.mp known
      exact inductionHypothesis (lays.write first field.2) others

/-- What hangs in each of some sockets is what was built for it, if all of them were free. -/
theorem Lays.fillSockets {α : Type} {sockets : List (String × α)} {size : String × α → Nat}
    {shows : String × α → Workspace → Option Nat → Prop}
    {build : String × α → Loading Workspace Nat → Loading Workspace Nat}
    (lays : Lays look grip count inner before middle) (distinct : (sockets.map Prod.fst).Nodup)
    (free : ∀ socket ∈ sockets, look.held (.socket socket.1) = none)
    (supplied : ∀ socket ∈ sockets, Supplies look.kind before.editor.blocks.size (.socket socket.1)
      (size socket) (shows socket) (build socket)) :
    ∃ filled : Look, filled.kind = look.kind ∧ filled.fields = look.fields ∧
      (∀ place, (∀ socket ∈ sockets, place ≠ .socket socket.1) →
        filled.held place = look.held place) ∧
      Lays filled grip (count + (sockets.map size).sum)
        (fun final => inner final ∧
          ∀ socket ∈ sockets, shows socket final (filled.held (.socket socket.1)))
        before (sockets.foldl (fun loading socket => build socket loading) middle) := by
  induction sockets generalizing look count inner middle with
  | nil =>
      refine ⟨look, rfl, rfl, fun _ _ => rfl, { lays with inner := fun agrees => ?_ }⟩
      exact ⟨lays.inner agrees, fun _ member => absurd member List.not_mem_nil⟩
  | cons socket rest inductionHypothesis =>
      obtain ⟨fresh, others⟩ := List.nodup_cons.mp distinct
      obtain ⟨here, later⟩ := List.forall_mem_cons.mp supplied
      obtain ⟨vacant, laterFree⟩ := List.forall_mem_cons.mp free
      have apart : ∀ other ∈ rest, Place.socket other.1 ≠ .socket socket.1 := by
        intro other member same
        exact fresh (Place.socket.inj same ▸ List.mem_map_of_mem member)
      obtain ⟨head, fills⟩ := here middle (lays.ready vacant)
      obtain ⟨filled, kind, fields, kept, whole⟩ :=
        inductionHypothesis (lays.fill fills) others
          (fun other member => (if_neg (apart other member)).trans (laterFree other member)) later
      rw [List.map_cons, List.sum_cons, ← Nat.add_assoc]
      refine ⟨filled, kind, fields, ?_, { whole with inner := fun agrees => ?_ }⟩
      · intro place elsewhere
        obtain ⟨other, outside⟩ := List.forall_mem_cons.mp elsewhere
        exact (kept place outside).trans (if_neg other)
      · obtain ⟨⟨outer, shown⟩, restShown⟩ := whole.inner agrees
        have held : filled.held (.socket socket.1) = head :=
          (kept _ fun other member => (apart other member).symm).trans (if_pos rfl)
        refine ⟨outer, List.forall_mem_cons.mpr ⟨?_, restShown⟩⟩
        rw [held]
        exact shown

end

end Loading

/-- A new block of the kind of a statement has its fields, and nothing hangs on it. -/
theorem Statement.lays_fields (statement : Statement) {before : Loading Workspace Nat}
    (rising : before.editor.Rising) :
    ∃ look : Look, look.kind = statement.kind ∧ (∀ place, look.held place = none) ∧
      (∀ field ∈ statement.fields, look.fields.get? field.1 = some field.2) ∧
      (∀ name, name ∉ statement.kind.fields → look.fields.get? name = none) ∧
      Lays look none 1 (fun _ => True) before
        ((before.made statement.kind).setFields sink before.editor.blocks.size
          statement.fields) := by
  have names := statement.names_fields
  have distinct := statement.kind.nodup_fields
  rw [← names] at distinct
  refine ⟨(Look.blank statement.kind).writeAll statement.fields, Look.kind_writeAll .., ?_, ?_, ?_,
    (lays_made rising statement.kind).setFields fun _ => Statement.mem_fields⟩
  · exact congrFun (Look.held_writeAll ..)
  · exact fun field member => Look.get?_writeAll distinct member _
  · intro name absent
    rw [← names] at absent
    exact Look.get?_writeAll_of_not_mem absent _

/-- A new block of the kind of a statement has its fields, and in its sockets hangs what was built
for them. -/
theorem Statement.lays_parts (statement : Statement) {before : Loading Workspace Nat}
    (rising : before.editor.Rising) {showsInput : String × Input → Workspace → Option Nat → Prop}
    {showsChain : String × Chain → Workspace → Option Nat → Prop}
    (inputs : ∀ socket ∈ statement.inputs,
      Supplies statement.kind before.editor.blocks.size (.socket socket.1) socket.2.kinds.length
        (showsInput socket)
        (socket.2.stripIds.load sink before.editor.blocks.size statement.kind socket.1))
    (chains : ∀ socket ∈ statement.chains,
      Supplies statement.kind before.editor.blocks.size (.socket socket.1) socket.2.kinds.length
        (showsChain socket)
        (socket.2.stripIds.loadSlot sink before.editor.blocks.size socket.1)) :
    ∃ look : Look, look.kind = statement.kind ∧ look.held .after = none ∧
      (∀ field ∈ statement.fields, look.fields.get? field.1 = some field.2) ∧
      (∀ name, name ∉ statement.kind.fields → look.fields.get? name = none) ∧
      Lays look none statement.kinds.length
        (fun final =>
          (∀ socket ∈ statement.inputs,
            showsInput socket final (look.held (.socket socket.1))) ∧
          ∀ socket ∈ statement.chains, showsChain socket final (look.held (.socket socket.1)))
        before
        (statement.stripIds.load sink before.editor.blocks.size (before.made statement.kind)) := by
  have sockets := statement.kind.nodup_sockets
  rw [← statement.names_inputs, ← statement.names_chains] at sockets
  obtain ⟨distinctInputs, distinctChains, disjoint⟩ := List.nodup_append.mp sockets
  have apart {input : String × Input} (among : input ∈ statement.inputs) {chain : String × Chain}
      (member : chain ∈ statement.chains) : Place.socket input.1 ≠ .socket chain.1 := fun same =>
    disjoint input.1 (List.mem_map_of_mem among) chain.1 (List.mem_map_of_mem member)
      (Place.socket.inj same)
  obtain ⟨first, firstKind, free, fields, unset, written⟩ := statement.lays_fields rising
  rw [← firstKind] at inputs chains
  obtain ⟨half, halfKind, halfFields, halfHeld, plugged⟩ :=
    written.fillSockets distinctInputs (fun socket _ => free (.socket socket.1)) inputs
  rw [← halfKind] at chains
  have halfFree (socket : String × Chain) (member : socket ∈ statement.chains) :
      half.held (.socket socket.1) = none :=
    (halfHeld _ fun input among => (apart among member).symm).trans (free (.socket socket.1))
  obtain ⟨look, lookKind, lookFields, held, whole⟩ :=
    plugged.fillSockets distinctChains halfFree chains
  have count : 1 + (statement.inputs.map fun socket => socket.2.kinds.length).sum +
      (statement.chains.map fun socket => socket.2.kinds.length).sum =
        statement.kinds.length := by
    rw [statement.kinds_eq, List.length_cons, List.length_append, List.length_flatMap,
      List.length_flatMap]
    omega
  rw [count, firstKind] at whole
  rw [statement.load_stripIds]
  refine ⟨look, lookKind.trans (halfKind.trans firstKind), ?_, ?_, ?_,
    { whole with inner := fun agrees => ?_ }⟩
  · rw [held _ fun _ _ => Place.noConfusion, halfHeld _ fun _ _ => Place.noConfusion, free]
  · rw [lookFields, halfFields]
    exact fields
  · rw [lookFields, halfFields]
    exact unset
  · obtain ⟨⟨_, inputsShown⟩, chainsShown⟩ := whole.inner agrees
    refine ⟨fun socket member => ?_, chainsShown⟩
    rw [held _ fun chain among => apart member among]
    exact inputsShown socket member

end Marquee
