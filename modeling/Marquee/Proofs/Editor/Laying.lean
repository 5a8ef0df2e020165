import Marquee.Editor.Source
import Marquee.Proofs.Editor.Growth

/-!
# Laying blocks

A load without ids lays one block after the other, and every block hangs on an earlier one. So a
new block never lies above the place where it goes, every connection is granted, and what was laid
for one part of a program is not touched when the next part is laid.
-/

namespace Marquee

namespace Workspace

def Rising (workspace : Workspace) : Prop :=
  ∀ child parent, workspace.parent? child = some parent → parent < child

private theorem climb_le {workspace : Workspace} (rising : workspace.Rising)
    {steps lower upper : Nat}
    (reached : workspace.climb steps lower = some upper) : upper ≤ lower := by
  induction steps generalizing lower with
  | zero => exact Nat.le_of_eq (Option.some.inj reached).symm
  | succ steps inductionHypothesis =>
      obtain ⟨parent, hangs, above⟩ := Option.bind_eq_some_iff.mp reached
      exact Nat.le_trans (inductionHypothesis above) (Nat.le_of_lt (rising lower parent hangs))

private theorem isAncestor_of_lt {workspace : Workspace} (rising : workspace.Rising)
    {upper lower : Nat} (before : upper < lower) : workspace.isAncestor lower upper = false := by
  rw [Bool.eq_false_iff]
  intro above
  obtain ⟨taken, _, reached⟩ := leadsUpTo_iff.mp above
  exact absurd (climb_le rising reached) (Nat.not_le_of_lt before)

private theorem rising_add {workspace : Workspace} (rising : workspace.Rising) (kind : Kind) :
    (workspace.add kind).2.Rising := by
  intro child parent hangs
  rw [parent?_add] at hangs
  exact rising child parent hangs

private theorem rising_writeField {workspace : Workspace} (rising : workspace.Rising) (handle : Nat)
    (field : String) (value : FieldValue) :
    (workspace.writeField handle field value).Rising := by
  intro child parent hangs
  rw [parent?_writeField] at hangs
  exact rising child parent hangs

private theorem rising_fasten {workspace : Workspace} (rising : workspace.Rising)
    {parent child : Nat}
    (inside : child < workspace.blocks.size) (before : parent < child) (place : Place) :
    (workspace.fasten parent place child).Rising := by
  intro lower upper hangs
  rw [parent?_fasten inside] at hangs
  split at hangs
  · next same =>
      cases hangs
      rw [same]
      exact before
  · exact rising lower upper hangs

/-- What can be seen of a block: all but its id and what it hangs on. -/
structure Look where
  kind : Kind
  fields : Table FieldValue
  held : Place → Option Nat

namespace Look

def blank (kind : Kind) : Look :=
  ⟨kind, .empty, fun _ => none⟩

def write (look : Look) (field : String) (value : FieldValue) : Look :=
  { look with fields := look.fields.set field value }

def hang (look : Look) (place : Place) (child : Option Nat) : Look :=
  { look with held := fun other => if other = place then child else look.held other }

end Look

structure Looks (workspace : Workspace) (block : Nat) (look : Look) : Prop where
  own : ∃ id, workspace.own? block = some ⟨id, look.kind, look.fields⟩
  held : workspace.held? block = look.held

theorem Looks.kind {workspace : Workspace} {block : Nat} {look : Look}
    (looks : workspace.Looks block look) : workspace.kind? block = some look.kind := by
  obtain ⟨id, own⟩ := looks.own
  rw [kind?, own]
  rfl

/-- From a block on, a workspace is as another one was. -/
structure Agrees (first : Nat) (workspace final : Workspace) : Prop where
  own : ∀ {handle}, first ≤ handle → handle < workspace.blocks.size →
    final.own? handle = workspace.own? handle
  held : ∀ {handle}, first ≤ handle → handle < workspace.blocks.size →
    final.held? handle = workspace.held? handle

theorem Agrees.refl (first : Nat) (workspace : Workspace) : Agrees first workspace workspace :=
  ⟨fun _ _ => rfl, fun _ _ => rfl⟩

theorem Agrees.mono {first later : Nat} {workspace final : Workspace} (order : first ≤ later)
    (agrees : Agrees first workspace final) : Agrees later workspace final :=
  ⟨fun from_ => agrees.own (Nat.le_trans order from_),
    fun from_ => agrees.held (Nat.le_trans order from_)⟩

theorem Agrees.trans {first : Nat} {before middle final : Workspace}
    (size : before.blocks.size ≤ middle.blocks.size) (earlier : Agrees first before middle)
    (later : Agrees first middle final) : Agrees first before final where
  own start inside :=
    (later.own start (Nat.lt_of_lt_of_le inside size)).trans (earlier.own start inside)
  held start inside :=
    (later.held start (Nat.lt_of_lt_of_le inside size)).trans (earlier.held start inside)

theorem Looks.of_agrees {workspace final : Workspace} {block : Nat} {look : Look}
    (looks : workspace.Looks block look) (agrees : Agrees block workspace final) :
    final.Looks block look := by
  have inside := lt_size_of_kind? looks.kind
  refine ⟨?_, ?_⟩
  · rw [agrees.own (Nat.le_refl block) inside]
    exact looks.own
  · rw [agrees.held (Nat.le_refl block) inside]
    exact looks.held

end Workspace

open Workspace

namespace Loading

/-- Work that made a number of blocks and had no trouble. -/
structure Adds (count : Nat) (before after : Loading Workspace Nat) : Prop where
  report : after.report =
    ⟨before.report.created + count, before.report.reused, before.report.skipped⟩
  size : after.editor.blocks.size = before.editor.blocks.size + count
  rising : after.editor.Rising

theorem Adds.trans {first second : Nat} {before middle after : Loading Workspace Nat}
    (earlier : Adds first before middle) (later : Adds second middle after) :
    Adds (first + second) before after where
  report := by
    rw [later.report, earlier.report, ← Nat.add_assoc]
  size := by
    rw [later.size, earlier.size, Nat.add_assoc]
  rising := later.rising

/-- A block of a kind that has nothing yet at one of its places. -/
structure Ready (kind : Kind) (owner : Nat) (place : Place) (loading : Loading Workspace Nat) :
    Prop where
  rising : loading.editor.Rising
  kind : loading.editor.kind? owner = some kind
  free : loading.editor.held? owner place = none

/-- Work that hangs a block, or nothing, at a place of an earlier block. What it made shows what it
should in every workspace that keeps what it made. -/
structure Fills (owner : Nat) (place : Place) (head : Option Nat) (count : Nat)
    (shows : Workspace → Prop) (before after : Loading Workspace Nat) : Prop
    extends Adds count before after where
  own : ∀ {handle}, handle < before.editor.blocks.size →
    after.editor.own? handle = before.editor.own? handle
  held : ∀ {handle}, handle < before.editor.blocks.size → ∀ other,
    after.editor.held? handle other =
      if handle = owner ∧ other = place then head else before.editor.held? handle other
  parent : ∀ {handle}, handle < before.editor.blocks.size →
    after.editor.parent? handle = before.editor.parent? handle
  shows : ∀ {final}, Agrees before.editor.blocks.size after.editor final → shows final

/-- Work that began with a new block, which now has a certain look. It may hang at a place of an
earlier block, its grip. -/
structure Lays (look : Look) (grip : Option (Nat × Place)) (count : Nat)
    (inner : Workspace → Prop) (before after : Loading Workspace Nat) : Prop
    extends Adds count before after where
  looks : after.editor.Looks before.editor.blocks.size look
  hangs : after.editor.parent? before.editor.blocks.size = grip.map Prod.fst
  own : ∀ {handle}, handle < before.editor.blocks.size →
    after.editor.own? handle = before.editor.own? handle
  held : ∀ {handle}, handle < before.editor.blocks.size → ∀ other,
    after.editor.held? handle other =
      if grip = some (handle, other) then some before.editor.blocks.size
      else before.editor.held? handle other
  parent : ∀ {handle}, handle < before.editor.blocks.size →
    after.editor.parent? handle = before.editor.parent? handle
  inner : ∀ {final}, Agrees (before.editor.blocks.size + 1) after.editor final → inner final

theorem Fills.nothing {kind : Kind} {owner : Nat} {place : Place}
    {loading : Loading Workspace Nat} (ready : Ready kind owner place loading)
    {shows : Workspace → Prop} (always : ∀ final, shows final) :
    Fills owner place none 0 shows loading loading where
  report := rfl
  size := rfl
  rising := ready.rising
  own _ := rfl
  held inside other := by
    split
    · next here => rw [here.1, here.2, ready.free]
    · rfl
  parent _ := rfl
  shows _ := always _

/-! ## The steps -/

/-- A load after it made a block. -/
def made (loading : Loading Workspace Nat) (kind : Kind) : Loading Workspace Nat :=
  ⟨(loading.editor.add kind).2, loading.placed,
    { loading.report with created := loading.report.created + 1 }⟩

theorem make_eq (kind : Kind)
    (build : Nat → Loading Workspace Nat → Loading Workspace Nat)
    (loading : Loading Workspace Nat) :
    make sink none kind build loading = build loading.editor.blocks.size (loading.made kind) := rfl

theorem lays_made {loading : Loading Workspace Nat} (rising : loading.editor.Rising)
    (kind : Kind) : Lays (.blank kind) none 1 (fun _ => True) loading (loading.made kind) where
  report := rfl
  size := Array.size_push _
  rising := rising_add rising kind
  looks := by
    refine ⟨⟨label (loading.editor.ids + 1), ?_⟩, ?_⟩
    · rw [made, own?_add, if_pos rfl]
      rfl
    · rw [made, held?_add]
      funext place
      simp [held?, block?_eq_none_iff.mpr, Look.blank]
  hangs := by
    rw [made, parent?_add]
    simp [parent?, block?_eq_none_iff.mpr]
  own inside := by
    rw [made, own?_add, if_neg (Nat.ne_of_lt inside)]
  held inside other := by
    rw [made, held?_add]
    rfl
  parent inside := by
    rw [made, parent?_add]
  inner _ := trivial

section

variable {look : Look} {grip : Option (Nat × Place)} {count : Nat} {inner : Workspace → Prop}
  {before middle after : Loading Workspace Nat}

theorem Lays.inside (lays : Lays look grip count inner before after) :
    before.editor.blocks.size < after.editor.blocks.size :=
  lt_size_of_kind? lays.looks.kind

/-- The new block is ready to be an owner itself. -/
theorem Lays.ready (lays : Lays look grip count inner before after) {place : Place}
    (free : look.held place = none) :
    Ready look.kind before.editor.blocks.size place after :=
  ⟨lays.rising, lays.looks.kind, by rw [lays.looks.held, free]⟩

theorem Lays.write (lays : Lays look grip count inner before middle) {field : String}
    (known : field ∈ look.kind.fields) (value : FieldValue) :
    Lays (look.write field value) grip count inner before
      (middle.setField sink before.editor.blocks.size field value) := by
  have allowed : middle.editor.setField before.editor.blocks.size field value =
      .ok (middle.editor.writeField before.editor.blocks.size field value) :=
    setField_eq_ok_iff.mpr ⟨⟨look.kind, lays.looks.kind, known⟩, rfl⟩
  have granted : middle.setField sink before.editor.blocks.size field value =
      { middle with
        editor := middle.editor.writeField before.editor.blocks.size field value } := by
    simp only [setField, sink, allowed, answer]
  rw [granted]
  refine ⟨⟨lays.report, (size_modify ..).trans lays.size, ?_⟩, ?_, ?_, ?_, ?_, ?_, ?_⟩
  · exact rising_writeField lays.rising _ field value
  · obtain ⟨⟨id, own⟩, held⟩ := lays.looks
    refine ⟨⟨id, ?_⟩, ?_⟩
    · rw [own?_writeField, if_pos rfl, own]
      rfl
    · rw [held?_writeField]
      exact held
  · rw [parent?_writeField]
    exact lays.hangs
  · intro handle early
    rw [own?_writeField, if_neg (Nat.ne_of_gt early), lays.own early]
  · intro handle early other
    rw [held?_writeField, lays.held early]
  · intro handle early
    rw [parent?_writeField, lays.parent early]
  · intro final agrees
    have kept : Agrees (before.editor.blocks.size + 1) middle.editor
        (middle.editor.writeField before.editor.blocks.size field value) := by
      refine ⟨fun later _ => ?_, fun _ _ => by rw [held?_writeField]⟩
      rw [own?_writeField, if_neg (Nat.ne_of_lt later)]
    exact lays.inner (kept.trans (Nat.le_of_eq (size_modify ..).symm) agrees)

theorem Lays.setNumber (lays : Lays look grip count inner before middle) {field : String}
    (known : field ∈ look.kind.fields) (value : Int64) :
    Lays (look.write field (.number value)) grip count inner before
      (middle.setNumber sink before.editor.blocks.size field value) :=
  lays.write known (.number value)

theorem Lays.setText (lays : Lays look grip count inner before middle) {field : String}
    (known : field ∈ look.kind.fields) (text : String) :
    Lays (look.write field (.text text)) grip count inner before
      (middle.setText sink before.editor.blocks.size field text) :=
  lays.write known (.text text)

/-- What is hung at a place of the new block becomes part of its look. -/
theorem Lays.fill (lays : Lays look grip count inner before middle) {place : Place}
    {head : Option Nat} {more : Nat} {shows : Workspace → Prop}
    (fills : Fills before.editor.blocks.size place head more shows middle after) :
    Lays (look.hang place head) grip (count + more) (fun final => inner final ∧ shows final)
      before after := by
  have inside := lays.inside
  have old {handle : Nat} (early : handle < before.editor.blocks.size) :
      handle < middle.editor.blocks.size := Nat.lt_trans early inside
  have elsewhere {handle : Nat} {other : Place} (different : handle ≠ before.editor.blocks.size) :
      ¬(handle = before.editor.blocks.size ∧ other = place) := fun here => different here.1
  refine ⟨lays.toAdds.trans fills.toAdds, ?_, ?_, ?_, ?_, ?_, ?_⟩
  · obtain ⟨⟨id, own⟩, held⟩ := lays.looks
    refine ⟨⟨id, (fills.own inside).trans own⟩, ?_⟩
    funext other
    rw [fills.held inside, held]
    simp [Look.hang]
  · rw [fills.parent inside, lays.hangs]
  · intro handle early
    rw [fills.own (old early), lays.own early]
  · intro handle early other
    rw [fills.held (old early), if_neg (elsewhere (Nat.ne_of_lt early)), lays.held early]
  · intro handle early
    rw [fills.parent (old early), lays.parent early]
  · intro final agrees
    have kept : Agrees (before.editor.blocks.size + 1) middle.editor after.editor := by
      refine ⟨fun _ early => fills.own early, fun later early => ?_⟩
      funext other
      rw [fills.held early, if_neg (elsewhere (Nat.ne_of_gt later))]
    have size : middle.editor.blocks.size ≤ after.editor.blocks.size := by
      rw [fills.size]
      exact Nat.le_add_right _ _
    exact ⟨lays.inner (kept.trans size agrees), fills.shows (agrees.mono inside)⟩

/-- A new block that goes to a free place of an earlier one. -/
theorem Lays.fasten (lays : Lays look none count inner before middle) {kind : Kind} {owner : Nat}
    {place : Place} (ready : Ready kind owner place before) :
    Lays look (some (owner, place)) count inner before
      { middle with editor := middle.editor.fasten owner place before.editor.blocks.size } := by
  have inside := lays.inside
  have early := lt_size_of_kind? ready.kind
  have ownerInside := Nat.lt_trans early inside
  have same := sameBlocks_fasten middle.editor owner place before.editor.blocks.size
  refine ⟨⟨lays.report, same.size.trans lays.size, ?_⟩, ?_, ?_, ?_, ?_, ?_, ?_⟩
  · exact rising_fasten lays.rising inside early place
  · obtain ⟨⟨id, own⟩, held⟩ := lays.looks
    refine ⟨⟨id, ?_⟩, ?_⟩
    · rw [same.own?]
      exact own
    · funext other
      rw [held?_fasten ownerInside, if_neg fun here => Nat.ne_of_gt early here.1, held]
  · rw [parent?_fasten inside, if_pos rfl]
    rfl
  · intro handle old
    rw [same.own?, lays.own old]
  · intro handle old other
    have unhung := lays.held old other
    rw [if_neg (by rintro ⟨⟩)] at unhung
    rw [held?_fasten ownerInside, unhung]
    simp [eq_comm]
  · intro handle old
    rw [parent?_fasten inside, if_neg (Nat.ne_of_lt old), lays.parent old]
  · intro final agrees
    have kept : Agrees (before.editor.blocks.size + 1) middle.editor
        (middle.editor.fasten owner place before.editor.blocks.size) := by
      refine ⟨fun _ _ => by rw [same.own?], fun later _ => ?_⟩
      funext other
      rw [held?_fasten ownerInside, if_neg fun here => ?_]
      rw [here.1] at later
      exact absurd early (Nat.not_lt_of_le (Nat.le_of_succ_le later))
    exact lays.inner (kept.trans (Nat.le_of_eq same.size.symm) agrees)

/-- A new block that hangs at a place fills it. -/
theorem Lays.fills {owner : Nat} {place : Place}
    (lays : Lays look (some (owner, place)) count inner before after) {shows : Workspace → Prop}
    (shown : ∀ {final : Workspace}, final.Looks before.editor.blocks.size look → inner final →
      shows final) :
    Fills owner place (some before.editor.blocks.size) count shows before after where
  toAdds := lays.toAdds
  own := lays.own
  held early other := by
    rw [lays.held early]
    simp [eq_comm]
  parent := lays.parent
  shows agrees :=
    shown (lays.looks.of_agrees agrees) (lays.inner (agrees.mono (Nat.le_succ _)))

section

variable {kind : Kind} {owner : Nat}

theorem Lays.kind_owner (lays : Lays look grip count inner before middle) {place : Place}
    (ready : Ready kind owner place before) : middle.editor.kind? owner = some kind := by
  rw [kind?, lays.own (lt_size_of_kind? ready.kind)]
  exact ready.kind

theorem Lays.not_above (lays : Lays look grip count inner before middle) {place : Place}
    (ready : Ready kind owner place before) :
    middle.editor.isAncestor before.editor.blocks.size owner = false :=
  isAncestor_of_lt lays.rising (lt_size_of_kind? ready.kind)

theorem Lays.attach_eq (lays : Lays look none count inner before middle) {place : Place}
    (ready : Ready kind owner place before) :
    middle.editor.attach owner place before.editor.blocks.size =
      middle.editor.fasten owner place before.editor.blocks.size := by
  have free := lays.held (lt_size_of_kind? ready.kind) place
  rw [if_neg (by rintro ⟨⟩), ready.free] at free
  exact attach_of_top lays.hangs free

theorem Lays.plug (lays : Lays look none count inner before middle) {socket : String}
    (ready : Ready kind owner (.socket socket) before) (has : socket ∈ kind.valueSockets)
    (value : look.kind.isValue = true) {shows : Workspace → Prop}
    (shown : ∀ {final : Workspace}, final.Looks before.editor.blocks.size look → inner final →
      shows final) :
    Fills owner (.socket socket) (some before.editor.blocks.size) count shows before
      (middle.plug sink owner socket before.editor.blocks.size) := by
  have allowed := plugRefusal?_eq_none_iff.mpr
    ⟨kind, look.kind, lays.kind_owner ready, lays.looks.kind, has,
      valueFault?_eq_none_iff.mpr value, lays.not_above ready⟩
  have granted : middle.plug sink owner socket before.editor.blocks.size =
      { middle with
        editor := middle.editor.fasten owner (.socket socket) before.editor.blocks.size } := by
    simp only [Loading.plug, settle, sink, connectValue, allowed, answer, plug_eq_attach,
      lays.attach_eq ready]
  rw [granted]
  exact (lays.fasten ready).fills shown

theorem Lays.settle (lays : Lays look none count inner before middle) {socket : String}
    (ready : Ready kind owner (.socket socket) before) (has : socket ∈ kind.statementSockets)
    (statement : look.kind.hasPrevious = true) {shows : Workspace → Prop}
    (shown : ∀ {final : Workspace}, final.Looks before.editor.blocks.size look → inner final →
      shows final) :
    Fills owner (.socket socket) (some before.editor.blocks.size) count shows before
      (middle.settle
        (sink.connectStatement owner socket before.editor.blocks.size middle.editor)) := by
  have allowed := plugRefusal?_eq_none_iff.mpr
    ⟨kind, look.kind, lays.kind_owner ready, lays.looks.kind, has,
      statementFault?_eq_none_iff.mpr statement, lays.not_above ready⟩
  have granted :
      middle.settle (sink.connectStatement owner socket before.editor.blocks.size middle.editor) =
        { middle with
          editor := middle.editor.fasten owner (.socket socket) before.editor.blocks.size } := by
    simp only [Loading.settle, sink, connectStatement, allowed, answer, plug_eq_attach,
      lays.attach_eq ready]
  rw [granted]
  exact (lays.fasten ready).fills shown

theorem Lays.follow_eq (lays : Lays look none count inner before middle)
    (ready : Ready kind owner .after before) (has : kind.hasNext = true)
    (statement : look.kind.hasPrevious = true)
    (rest : Loading Workspace Nat → Loading Workspace Nat) :
    middle.follow sink owner before.editor.blocks.size rest =
      rest { middle with
        editor := middle.editor.fasten owner .after before.editor.blocks.size } := by
  have allowed := linkRefusal?_eq_none_iff.mpr
    ⟨kind, look.kind, lays.kind_owner ready, lays.looks.kind, has, statement,
      lays.not_above ready⟩
  simp only [follow, sink, connectNext, allowed, answer, link_eq_attach, lays.attach_eq ready]

end

end

end Loading

end Marquee
