import Marquee.Program.Decode

/-!
# Readers that keep what others read

Blocks are read in several ways, and each way has errors of its own. One reader entails another if
whatever the first makes of a value, the second makes the same. The fields of a block are put
together in the same order by all readers, so entailment of the parts is entailment of the whole.
-/

namespace Marquee

open Json (Members)

theorem exists_of_bind {ε α β : Type} {first : Except ε α} {rest : α → Except ε β} {result : β}
    (read : first >>= rest = .ok result) :
    ∃ value, first = .ok value ∧ rest value = .ok result := by
  cases first with
  | error error => cases read
  | ok value => exact ⟨value, rfl, read⟩

theorem exists_of_map {ε α β : Type} {first : Except ε α} {change : α → β} {result : β}
    (read : change <$> first = .ok result) :
    ∃ value, first = .ok value ∧ change value = result := by
  cases first with
  | error error => cases read
  | ok value => exact ⟨value, rfl, Except.ok.inj read⟩

/-- Whatever the first one results in, the second does too. Errors do not count. -/
def Entails {ε δ α : Type} (first : Except ε α) (second : Except δ α) : Prop :=
  ∀ result, first = .ok result → second = .ok result

namespace Entails

variable {ε δ α β : Type} {first : Except ε α} {second : Except δ α}

theorem refl (only : Except ε α) : Entails only only :=
  fun _ read => read

theorem result (value : α) : Entails (pure value : Except ε α) (pure value : Except δ α) := by
  intro result read
  cases read
  rfl

theorem bind (entails : Entails first second) {rest : α → Except ε β} {others : α → Except δ β}
    (after : ∀ value, Entails (rest value) (others value)) :
    Entails (first >>= rest) (second >>= others) := by
  intro result read
  obtain ⟨value, taken, resulting⟩ := exists_of_bind read
  rw [entails value taken]
  exact after value result resulting

theorem map (entails : Entails first second) (change : α → β) :
    Entails (change <$> first) (change <$> second) := by
  rw [map_eq_pure_bind, map_eq_pure_bind]
  exact entails.bind fun value => .result (change value)

end Entails

/-- The keys under which a block of this kind has its literals. -/
def Kind.fieldKeys : Kind → List String
  | displayImage => ["filename"]
  | playAnimation => ["folder", "play_for"]
  | number => ["value"]
  | randomRange => ["max", "min"]
  | compare => ["operator"]
  | setVariable | getVariable => ["var_name"]
  | gpio | gpioBranch => ["pin", "state"]
  | gpioTrigger => ["pin", "trigger"]
  | colorValue | customColor => ["color"]
  | rgbColor => ["blue", "green", "red"]
  | _ => []

/-- The keys under which a block of this kind has its inputs. -/
def Kind.inputKeys : Kind → List String
  | wait => ["time"]
  | branch | whileLoop => ["condition"]
  | compare => ["left", "right"]
  | setVariable => ["value"]
  | repeatLoop => ["times"]
  | setColor => ["color"]
  | _ => []

/-- The keys under which a block of this kind has its chains. -/
def Kind.chainKeys : Kind → List String
  | branch | gpioBranch => ["false_branch", "true_branch"]
  | forever | repeatLoop | whileLoop => ["loop_body"]
  | start | gpioTrigger => ["actions"]
  | _ => []

section

variable {members others : Members} {input inputs : String → Except DecodeError Input}
  {slot slots : String → Except DecodeError Chain} {kind : Kind}

private theorem entails_fieldOr {α : Type} {default : α} {read : Json → Except DecodeError α}
    {key : String} (same : others.get? key = members.get? key) :
    Entails (fieldOr default read key members) (fieldOr default read key others) := by
  rw [fieldOr, fieldOr, same]
  exact .refl _

theorem entails_readExpression
    (sameFields : ∀ key ∈ kind.fieldKeys, others.get? key = members.get? key)
    (entailed : ∀ key ∈ kind.inputKeys, Entails (input key) (inputs key)) :
    Entails (readExpression input kind members) (readExpression inputs kind others) := by
  match kind with
  | .number => exact (entails_fieldOr (sameFields _ (.head _))).bind fun _ => .result _
  | .randomRange =>
      apply (entails_fieldOr (sameFields _ (.head _))).bind
      intro max
      exact (entails_fieldOr (sameFields _ (.tail _ (.head _)))).bind fun _ => .result _
  | .getVariable => exact (entails_fieldOr (sameFields _ (.head _))).bind fun _ => .result _
  | .compare =>
      apply (entailed _ (.head _)).bind
      intro left
      apply (entails_fieldOr (sameFields _ (.head _))).bind
      intro relation
      exact (entailed _ (.tail _ (.head _))).bind fun _ => .result _
  | .colorValue => exact (entails_fieldOr (sameFields _ (.head _))).bind fun _ => .result _
  | .customColor => exact (entails_fieldOr (sameFields _ (.head _))).bind fun _ => .result _
  | .rgbColor =>
      apply (entails_fieldOr (sameFields _ (.head _))).bind
      intro blue
      apply (entails_fieldOr (sameFields _ (.tail _ (.head _)))).bind
      intro green
      exact (entails_fieldOr (sameFields _ (.tail _ (.tail _ (.head _))))).bind fun _ => .result _
  | .start | .displayImage | .playAnimation | .wait | .branch | .setVariable | .forever
  | .repeatLoop | .whileLoop | .breakLoop | .gpio | .gpioBranch | .gpioTrigger | .setColor =>
      exact .refl _

theorem entails_readStatement
    (sameFields : ∀ key ∈ kind.fieldKeys, others.get? key = members.get? key)
    (entailed : ∀ key ∈ kind.inputKeys, Entails (input key) (inputs key))
    (chains : ∀ key ∈ kind.chainKeys, Entails (slot key) (slots key)) :
    Entails (readStatement input slot kind members) (readStatement inputs slots kind others) := by
  have ofValue := entails_readExpression sameFields entailed
  match kind with
  | .start => exact (chains _ (.head _)).bind fun _ => .result _
  | .displayImage => exact (entails_fieldOr (sameFields _ (.head _))).bind fun _ => .result _
  | .playAnimation =>
      apply (entails_fieldOr (sameFields _ (.head _))).bind
      intro folder
      exact (entails_fieldOr (sameFields _ (.tail _ (.head _)))).bind fun _ => .result _
  | .wait => exact (entailed _ (.head _)).bind fun _ => .result _
  | .branch =>
      apply (entailed _ (.head _)).bind
      intro condition
      apply (chains _ (.head _)).bind
      intro whenFalse
      exact (chains _ (.tail _ (.head _))).bind fun _ => .result _
  | .setVariable =>
      apply (entailed _ (.head _)).bind
      intro value
      exact (entails_fieldOr (sameFields _ (.head _))).bind fun _ => .result _
  | .forever => exact (chains _ (.head _)).bind fun _ => .result _
  | .repeatLoop =>
      apply (chains _ (.head _)).bind
      intro body
      exact (entailed _ (.head _)).bind fun _ => .result _
  | .whileLoop =>
      apply (entailed _ (.head _)).bind
      intro condition
      exact (chains _ (.head _)).bind fun _ => .result _
  | .breakLoop => exact .result _
  | .gpio =>
      apply (entails_fieldOr (sameFields _ (.head _))).bind
      intro pin
      exact (entails_fieldOr (sameFields _ (.tail _ (.head _)))).bind fun _ => .result _
  | .gpioBranch =>
      apply (chains _ (.head _)).bind
      intro whenFalse
      apply (entails_fieldOr (sameFields _ (.head _))).bind
      intro pin
      apply (entails_fieldOr (sameFields _ (.tail _ (.head _)))).bind
      intro level
      exact (chains _ (.tail _ (.head _))).bind fun _ => .result _
  | .gpioTrigger =>
      apply (chains _ (.head _)).bind
      intro actions
      apply (entails_fieldOr (sameFields _ (.head _))).bind
      intro pin
      exact (entails_fieldOr (sameFields _ (.tail _ (.head _)))).bind fun _ => .result _
  | .setColor => exact (entailed _ (.head _)).bind fun _ => .result _
  | .number | .randomRange | .getVariable | .compare | .colorValue | .customColor | .rgbColor =>
      exact ofValue.bind fun _ => .result _

end

end Marquee
