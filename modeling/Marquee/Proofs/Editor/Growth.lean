import Marquee.Proofs.Editor.Keeping
import Marquee.Proofs.Editor.Linked

/-!
# What requests preserve

A workspace that has grown by requests is linked, only what fits is connected in it, and its blocks
are numbered in the order in which they were made. Every request preserves this, granted or
refused, and hence every load does.
-/

open Relation

namespace Marquee

/-- What may hang at a place, by the kinds of the two blocks. -/
def Place.Joins (above below : Kind) : Place → Prop
  | .socket name =>
    (name ∈ above.statementSockets ∧ below.hasPrevious = true) ∨
      (name ∈ above.valueSockets ∧ below.isValue = true)
  | .after => above.hasNext = true ∧ below.hasPrevious = true

/-- The block with a value in one of its fields. -/
def Block.write (field : String) (value : FieldValue) (block : Block) : Block :=
  { block with fields := block.fields.set field value }

@[simp] theorem Block.parent_write (field : String) (value : FieldValue) (block : Block) :
    (block.write field value).parent = block.parent := rfl

@[simp] theorem Block.held?_write (field : String) (value : FieldValue) (block : Block) :
    (block.write field value).held? = block.held? := by
  funext place
  cases place <;> rfl

theorem Block.distinct_write {block : Block} (distinct : block.sockets.Distinct) (field : String)
    (value : FieldValue) : (block.write field value).sockets.Distinct :=
  distinct

namespace Workspace

def kind? (workspace : Workspace) (handle : Nat) : Option Kind :=
  (workspace.own? handle).map Block.Own.kind

theorem kind?_of_block? {workspace : Workspace} {handle : Nat} {block : Block}
    (found : workspace.block? handle = some block) :
    workspace.kind? handle = some block.kind := by
  simp [kind?, own?, found, Block.own]

theorem lt_size_of_kind? {workspace : Workspace} {handle : Nat} {kind : Kind}
    (found : workspace.kind? handle = some kind) : handle < workspace.blocks.size := by
  obtain ⟨own, there, _⟩ := Option.map_eq_some_iff.mp found
  obtain ⟨block, inside, _⟩ := Option.map_eq_some_iff.mp there
  exact lt_size_of_block? inside

/-- The id of the block that is made as the one with this number. -/
def label (number : Nat) : String :=
  "b" ++ toString number

private theorem label_injective : Function.Injective label := by
  intro first second equal
  have digits : Nat.toDigits 10 first = Nat.toDigits 10 second := by
    have letters := congrArg String.toList equal
    simpa [label, Nat.toString_eq_repr, Nat.repr] using letters
  have values := congrArg (Nat.ofDigitChars 10 · 0) digits
  simpa only [Nat.ofDigitChars_ten_toDigits] using values

def blockIds (workspace : Workspace) : List String :=
  workspace.blocks.toList.map Block.id

def labels (first count : Nat) : List String :=
  (List.range' first count).map label

theorem nodup_labels (first count : Nat) : (labels first count).Nodup := by
  have numbers : (List.range' first count).Nodup := List.nodup_range'
  exact numbers.map label_injective

structure Fitting (workspace : Workspace) : Prop where
  distinct : ∀ {handle own}, workspace.own? handle = some own → own.fields.Distinct
  field_known : ∀ {handle own name},
    workspace.own? handle = some own → name ∈ own.fields.names → name ∈ own.kind.fields
  joins : ∀ {holder place child}, workspace.held? holder place = some child →
    ∃ above below, workspace.kind? holder = some above ∧ workspace.kind? child = some below ∧
      place.Joins above below

/-- The state of an editor after any number of requests, since `base` ids were given out to blocks
that are no more. -/
structure Grown (base : Nat) (workspace : Workspace) : Prop where
  linked : workspace.Linked
  fitting : workspace.Fitting
  blockIds : workspace.blockIds = labels (base + 1) workspace.blocks.size
  ids : workspace.ids = base + workspace.blocks.size

theorem grown_of_no_blocks {workspace : Workspace} (none : workspace.blocks = #[]) :
    workspace.Grown workspace.ids := by
  obtain ⟨blocks, ids⟩ := workspace
  cases none
  have noParent (handle : Nat) : (⟨#[], ids⟩ : Workspace).parent? handle = Option.none := rfl
  refine ⟨⟨?_, ?_, ?_, ?_, ?_⟩, ⟨?_, ?_, ?_⟩, rfl, rfl⟩
  · intro holder place child holds
    cases holds
  · intro child parent hangs
    cases hangs
  · intro holder first second child holds
    cases holds
  · intro handle block found
    cases found
  · intro handle circle
    obtain ⟨parent, hangs, _⟩ := TransGen.head'_iff.mp circle
    cases hangs
  · intro handle own found
    cases found
  · intro handle own name found
    cases found
  · intro holder place child holds
    cases holds

/-! ## Making a block -/

theorem block?_add (workspace : Workspace) (kind : Kind) (handle : Nat) :
    (workspace.add kind).2.block? handle =
      if handle = workspace.blocks.size then
        some ⟨label (workspace.ids + 1), kind, .empty, .empty, none, none⟩
      else workspace.block? handle :=
  Array.getElem?_push

theorem parent?_add (workspace : Workspace) (kind : Kind) :
    (workspace.add kind).2.parent? = workspace.parent? := by
  funext handle
  simp only [parent?]
  rw [block?_add]
  split
  · next last => rw [block?_eq_none_iff.mpr (Nat.le_of_eq last.symm)]; rfl
  · rfl

theorem held?_add (workspace : Workspace) (kind : Kind) :
    (workspace.add kind).2.held? = workspace.held? := by
  funext handle place
  simp only [held?]
  rw [block?_add]
  split
  · next last =>
      rw [block?_eq_none_iff.mpr (Nat.le_of_eq last.symm)]
      cases place <;> rfl
  · rfl

theorem own?_add (workspace : Workspace) (kind : Kind) (handle : Nat) :
    (workspace.add kind).2.own? handle =
      if handle = workspace.blocks.size then
        some ⟨label (workspace.ids + 1), kind, .empty⟩
      else workspace.own? handle := by
  simp only [own?]
  rw [block?_add]
  split <;> rfl

theorem Linked.congr {before after : Workspace} (linked : before.Linked)
    (parents : after.parent? = before.parent?) (holdings : after.held? = before.held?)
    (distinct : ∀ {handle block}, after.block? handle = some block → block.sockets.Distinct) :
    after.Linked where
  parent_of_held holds := by
    rw [holdings] at holds
    rw [parents]
    exact linked.parent_of_held holds
  held_of_parent hangs := by
    rw [parents] at hangs
    rw [holdings]
    exact linked.held_of_parent hangs
  place_unique first second := by
    rw [holdings] at first second
    exact linked.place_unique first second
  distinct := distinct
  acyclic handle circle := by
    have same : after.HangsOn = before.HangsOn := by
      unfold HangsOn
      rw [parents]
    rw [same] at circle
    exact linked.acyclic handle circle

theorem grown_add {base : Nat} {workspace : Workspace} (grown : workspace.Grown base)
    (kind : Kind) : (workspace.add kind).2.Grown base where
  linked := by
    refine grown.linked.congr (parent?_add ..) (held?_add ..) ?_
    intro handle block found
    rw [block?_add] at found
    split at found
    · cases found
      exact Table.distinct_empty
    · exact grown.linked.distinct found
  fitting := by
    refine ⟨?_, ?_, ?_⟩
    · intro handle own found
      rw [own?_add] at found
      split at found
      · cases found
        exact Table.distinct_empty
      · exact grown.fitting.distinct found
    · intro handle own name found member
      rw [own?_add] at found
      split at found
      · cases found
        cases member
      · exact grown.fitting.field_known found member
    · intro holder place child holds
      rw [held?_add] at holds
      obtain ⟨above, below, kindAbove, kindBelow, joins⟩ := grown.fitting.joins holds
      have old {handle : Nat} {there : Kind} (found : workspace.kind? handle = some there) :
          (workspace.add kind).2.kind? handle = some there := by
        have inside : handle ≠ workspace.blocks.size := by
          rintro rfl
          simp [kind?, own?, block?_eq_none_iff.mpr] at found
        rw [kind?, own?_add, if_neg inside]
        exact found
      exact ⟨above, below, old kindAbove, old kindBelow, joins⟩
  blockIds := by
    have one : base + 1 + workspace.blocks.size = workspace.ids + 1 := by
      rw [grown.ids]
      omega
    calc (workspace.add kind).2.blockIds
        = workspace.blockIds ++ [label (workspace.ids + 1)] := by simp [blockIds, add, label]
      _ = labels (base + 1) (workspace.blocks.size + 1) := by
          rw [grown.blockIds, labels, labels, List.range'_1_concat, List.map_append, one]
          rfl
      _ = labels (base + 1) (workspace.add kind).2.blocks.size := by simp [add]
  ids := by
    simp only [add, Array.size_push, grown.ids]
    omega

private theorem blockIds_congr {before after : Workspace}
    (same : ∀ handle,
      (after.own? handle).map Block.Own.id = (before.own? handle).map Block.Own.id) :
    after.blockIds = before.blockIds := by
  apply List.ext_getElem?
  intro handle
  have lookUp (workspace : Workspace) :
      workspace.blockIds[handle]? = (workspace.own? handle).map Block.Own.id := by
    simp only [blockIds, own?]
    rw [List.getElem?_map, Array.getElem?_toList, Option.map_map]
    rfl
  rw [lookUp, lookUp, same]

def writeField (workspace : Workspace) (handle : Nat) (field : String) (value : FieldValue) :
    Workspace :=
  workspace.modify handle (Block.write field value)

theorem setField_eq_ok_iff {workspace changed : Workspace} {handle : Nat} {field : String}
    {value : FieldValue} :
    workspace.setField handle field value = .ok changed ↔
      (∃ kind, workspace.kind? handle = some kind ∧ field ∈ kind.fields) ∧
        changed = workspace.writeField handle field value := by
  simp only [setField, fieldRefusal?]
  cases found : workspace.block? handle with
  | none => simp [kind?, own?, found]
  | some block =>
      rw [kind?_of_block? found]
      by_cases known : field ∈ block.kind.fields
      · simp only [List.contains_iff_mem, known, if_true, Except.ok.injEq, Option.some.injEq,
          exists_eq_left', true_and]
        exact eq_comm
      · simp [known]

theorem own?_writeField (workspace : Workspace) (handle : Nat) (field : String)
    (value : FieldValue) (other : Nat) :
    (workspace.writeField handle field value).own? other =
      if handle = other then
        (workspace.own? other).map fun own => { own with fields := own.fields.set field value }
      else workspace.own? other := by
  simp only [own?, writeField]
  rw [block?_modify]
  split
  · cases workspace.block? other <;> rfl
  · rfl

theorem parent?_writeField (workspace : Workspace) (handle : Nat) (field : String)
    (value : FieldValue) :
    (workspace.writeField handle field value).parent? = workspace.parent? :=
  parent?_modify_of_same (Block.parent_write field value) workspace handle

theorem held?_writeField (workspace : Workspace) (handle : Nat) (field : String)
    (value : FieldValue) :
    (workspace.writeField handle field value).held? = workspace.held? :=
  held?_modify_of_same (Block.held?_write field value) workspace handle

theorem kind?_writeField (workspace : Workspace) (handle : Nat) (field : String)
    (value : FieldValue) :
    (workspace.writeField handle field value).kind? = workspace.kind? := by
  funext other
  simp only [kind?]
  rw [own?_writeField]
  split
  · cases workspace.own? other <;> rfl
  · rfl

private theorem grown_writeField {base : Nat} {workspace : Workspace} (grown : workspace.Grown base)
    {handle : Nat} {kind : Kind} (there : workspace.kind? handle = some kind) {field : String}
    (known : field ∈ kind.fields) (value : FieldValue) :
    (workspace.writeField handle field value).Grown base where
  linked := by
    refine grown.linked.congr (parent?_writeField ..) (held?_writeField ..) fun found => ?_
    exact distinct_modify grown.linked.distinct
      (fun kept => Block.distinct_write kept field value) handle found
  fitting := by
    refine ⟨?_, ?_, ?_⟩
    · intro other own found
      rw [own?_writeField] at found
      split at found
      · obtain ⟨before, foundBefore, rfl⟩ := Option.map_eq_some_iff.mp found
        exact Table.distinct_set field value (grown.fitting.distinct foundBefore)
      · exact grown.fitting.distinct found
    · intro other own name found member
      rw [own?_writeField] at found
      split at found
      · next here =>
          subst here
          obtain ⟨before, foundBefore, rfl⟩ := Option.map_eq_some_iff.mp found
          have sameKind : before.kind = kind := by
            simpa [kind?, foundBefore] using there
          rcases (Table.mem_names_set ..).mp member with rfl | old
          · rw [← sameKind] at known
            exact known
          · have keptKnown : name ∈ before.kind.fields :=
              grown.fitting.field_known foundBefore old
            exact keptKnown
      · exact grown.fitting.field_known found member
    · intro holder place child holds
      rw [held?_writeField] at holds
      rw [kind?_writeField]
      exact grown.fitting.joins holds
  blockIds := by
    have same : (workspace.writeField handle field value).blockIds = workspace.blockIds := by
      apply blockIds_congr
      intro other
      rw [own?_writeField]
      split
      · cases workspace.own? other <;> rfl
      · rfl
    rw [same, writeField, size_modify]
    exact grown.blockIds
  ids := by
    rw [writeField, size_modify]
    exact grown.ids

theorem SameBlocks.kind? {before after : Workspace} (same : SameBlocks before after) :
    after.kind? = before.kind? := by
  funext handle
  simp only [Workspace.kind?]
  rw [same.own?]

private theorem grown_attach {base : Nat} {workspace : Workspace} (grown : workspace.Grown base)
    {parent child : Nat} {above below : Kind} {place : Place}
    (kindAbove : workspace.kind? parent = some above)
    (kindBelow : workspace.kind? child = some below) (joins : place.Joins above below)
    (free : workspace.isAncestor child parent = false) :
    (workspace.attach parent place child).Grown base where
  linked := by
    refine linked_attach grown.linked (lt_size_of_kind? kindAbove) (lt_size_of_kind? kindBelow) ?_
      place
    rw [← isAncestor_iff grown.linked, free]
    exact Bool.false_ne_true
  fitting := by
    have same := sameBlocks_attach workspace parent place child
    refine ⟨?_, ?_, ?_⟩
    · intro handle own found
      rw [same.own?] at found
      exact grown.fitting.distinct found
    · intro handle own name found member
      rw [same.own?] at found
      exact grown.fitting.field_known found member
    · intro holder other held holds
      rw [same.kind?]
      rw [held?_attach grown.linked (lt_size_of_kind? kindAbove)] at holds
      split at holds
      · next here =>
          cases holds
          rw [here.1, here.2]
          exact ⟨above, below, kindAbove, kindBelow, joins⟩
      · split at holds
        · cases holds
        · exact grown.fitting.joins holds
  blockIds := by
    have same := sameBlocks_attach workspace parent place child
    have sameIds : (workspace.attach parent place child).blockIds = workspace.blockIds := by
      apply blockIds_congr
      intro handle
      rw [same.own?]
    rw [sameIds, same.size]
    exact grown.blockIds
  ids := by
    have same := sameBlocks_attach workspace parent place child
    rw [same.ids, same.size]
    exact grown.ids

theorem plugRefusal?_eq_none_iff {workspace : Workspace} {sockets : Kind → List String}
    {childFault? : Kind → Option ConnectionFault} {parent child : Nat} {socket : String} :
    workspace.plugRefusal? sockets childFault? parent socket child = none ↔
      ∃ above below, workspace.kind? parent = some above ∧ workspace.kind? child = some below ∧
        socket ∈ sockets above ∧ childFault? below = none ∧
        workspace.isAncestor child parent = false := by
  simp only [plugRefusal?]
  cases foundAbove : workspace.block? parent with
  | none => simp [kind?, own?, foundAbove]
  | some above =>
      cases foundBelow : workspace.block? child with
      | none => simp [kind?, own?, foundBelow]
      | some below =>
          rw [kind?_of_block? foundAbove, kind?_of_block? foundBelow]
          by_cases has : socket ∈ sockets above.kind
          · cases fault : childFault? below.kind with
            | none => cases circle : workspace.isAncestor child parent <;> simp [has, fault]
            | some found => simp [has, fault]
          · simp [has]

theorem linkRefusal?_eq_none_iff {workspace : Workspace} {previous next : Nat} :
    workspace.linkRefusal? previous next = none ↔
      ∃ above below, workspace.kind? previous = some above ∧ workspace.kind? next = some below ∧
        above.hasNext = true ∧ below.hasPrevious = true ∧
        workspace.isAncestor next previous = false := by
  simp only [linkRefusal?]
  cases foundAbove : workspace.block? previous with
  | none => simp [kind?, own?, foundAbove]
  | some above =>
      cases foundBelow : workspace.block? next with
      | none => simp [kind?, own?, foundBelow]
      | some below =>
          rw [kind?_of_block? foundAbove, kind?_of_block? foundBelow]
          cases circle : workspace.isAncestor next previous <;>
            cases follows : above.kind.hasNext <;>
            cases precedes : below.kind.hasPrevious <;> simp [follows, precedes]

theorem statementFault?_eq_none_iff {kind : Kind} :
    statementFault? kind = none ↔ kind.hasPrevious = true := by
  simp only [statementFault?]
  split <;> simp_all

theorem valueFault?_eq_none_iff {kind : Kind} :
    valueFault? kind = none ↔ kind.isValue = true := by
  simp only [valueFault?]
  split <;> simp_all

/-- All that a request can do to a workspace. -/
inductive Change (before : Workspace) : Workspace → Prop
  | nothing : Change before before
  | add (kind : Kind) : Change before (before.add kind).2
  | write {handle : Nat} {kind : Kind} {field : String} (value : FieldValue) :
      before.kind? handle = some kind → field ∈ kind.fields →
      Change before (before.writeField handle field value)
  | attach {parent child : Nat} {above below : Kind} {place : Place} :
      before.kind? parent = some above → before.kind? child = some below →
      place.Joins above below → before.isAncestor child parent = false →
      Change before (before.attach parent place child)

private theorem change_answer {workspace : Workspace} {request : Except Refusal Workspace}
    (granted : ∀ changed, request = .ok changed → Change workspace changed) :
    Change workspace (workspace.answer request).2 := by
  cases request with
  | error refusal => exact .nothing
  | ok changed => exact granted changed rfl

private theorem change_plug {workspace : Workspace} {sockets : Kind → List String}
    {childFault? : Kind → Option ConnectionFault} {parent child : Nat} {socket : String}
    (joins : ∀ {above below}, socket ∈ sockets above → childFault? below = none →
      (Place.socket socket).Joins above below)
    (allowed : workspace.plugRefusal? sockets childFault? parent socket child = none) :
    Change workspace (workspace.plug parent socket child) := by
  obtain ⟨above, below, kindAbove, kindBelow, has, fits, free⟩ :=
    plugRefusal?_eq_none_iff.mp allowed
  rw [plug_eq_attach]
  exact .attach kindAbove kindBelow (joins has fits) free

theorem change_setField (workspace : Workspace) (handle : Nat) (field : String)
    (value : FieldValue) : Change workspace (sink.setField handle field value workspace).2 := by
  refine change_answer fun changed granted => ?_
  obtain ⟨⟨kind, there, known⟩, rfl⟩ := setField_eq_ok_iff.mp granted
  exact .write value there known

theorem change_connectStatement (workspace : Workspace) (parent : Nat) (socket : String)
    (child : Nat) : Change workspace (sink.connectStatement parent socket child workspace).2 := by
  refine change_answer fun changed granted => ?_
  simp only [connectStatement] at granted
  split at granted
  · cases granted
  · next allowed =>
      cases granted
      exact change_plug (fun has fits => Or.inl ⟨has, statementFault?_eq_none_iff.mp fits⟩) allowed

theorem change_connectValue (workspace : Workspace) (parent : Nat) (socket : String)
    (child : Nat) : Change workspace (sink.connectValue parent socket child workspace).2 := by
  refine change_answer fun changed granted => ?_
  simp only [connectValue] at granted
  split at granted
  · cases granted
  · next allowed =>
      cases granted
      exact change_plug (fun has fits => Or.inr ⟨has, valueFault?_eq_none_iff.mp fits⟩) allowed

theorem change_connectNext (workspace : Workspace) (previous next : Nat) :
    Change workspace (sink.connectNext previous next workspace).2 := by
  refine change_answer fun changed granted => ?_
  simp only [connectNext] at granted
  split at granted
  · cases granted
  · next allowed =>
      cases granted
      obtain ⟨above, below, kindAbove, kindBelow, follows, precedes, free⟩ :=
        linkRefusal?_eq_none_iff.mp allowed
      rw [link_eq_attach]
      exact .attach kindAbove kindBelow ⟨follows, precedes⟩ free

/-- What no change destroys, no request does. -/
theorem sink_keeps {kept : Workspace → Prop}
    (preserved : ∀ {before after}, kept before → Change before after → kept after) :
    sink.Keeps kept where
  allocate kind _ before := preserved before (.add kind)
  setField _ _ _ _ before := preserved before (change_setField ..)
  connectStatement _ _ _ _ before := preserved before (change_connectStatement ..)
  connectValue _ _ _ _ before := preserved before (change_connectValue ..)
  connectNext _ _ _ before := preserved before (change_connectNext ..)

theorem grown_change {base : Nat} {before after : Workspace} (grown : before.Grown base)
    (change : Change before after) : after.Grown base := by
  cases change with
  | nothing => exact grown
  | add kind => exact grown_add grown kind
  | write value there known => exact grown_writeField grown there known value
  | attach kindAbove kindBelow joins free => exact grown_attach grown kindAbove kindBelow joins free

/-- Ids are only counted up. -/
theorem ids_le_change {before after : Workspace} (change : Change before after) :
    before.ids ≤ after.ids := by
  cases change with
  | nothing => exact Nat.le_refl _
  | add kind => exact Nat.le_succ _
  | write value there known => exact Nat.le_refl _
  | attach kindAbove kindBelow joins free => exact Nat.le_of_eq (sameBlocks_attach ..).ids.symm

end Workspace

end Marquee
