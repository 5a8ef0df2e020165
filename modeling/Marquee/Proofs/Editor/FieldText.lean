import Marquee.Editor.FieldValue
import Marquee.Proofs.Json.Integers
import Marquee.Proofs.Program.Reading
import Marquee.Proofs.Text.Numerals

/-!
# Texts that are read as integers

A field that holds a text is read as the integer that the text begins with: blanks, at most one
sign, and digits up to the first other character. Every integer of 64 bits is read in this way but
the least one, whose magnitude does not fit. So a number comes back from its text, whatever follows
it, unless it is the least one.
-/

namespace Marquee

open Text

/-- A text begins with a numeral, which goes on up to the first character that is no digit. -/
def BeginsWith (cs : List Char) (n : Nat) : Prop :=
  ∃ digits rest, cs = digits ++ rest ∧ Numeral digits n ∧ ∀ c ∈ rest.head?, isDigit c = false

/-- A text begins with an integer, with a sign or without. -/
inductive Heads : List Char → Int → Prop where
  | bare {cs : List Char} {n : Nat} (number : BeginsWith cs n) : Heads cs n
  | plus {cs : List Char} {n : Nat} (number : BeginsWith cs n) : Heads ('+' :: cs) n
  | minus {cs : List Char} {n : Nat} (number : BeginsWith cs n) : Heads ('-' :: cs) (-n)

/-- A text begins with an integer, after blanks or at once. -/
def Leads (cs : List Char) (value : Int) : Prop :=
  ∃ blanks front, cs = blanks ++ front ∧ (∀ c ∈ blanks, isBlank c = true) ∧ Heads front value

private theorem takeWhile_isDigit {digits rest : List Char} (all : ∀ c ∈ digits, isDigit c = true)
    (ends : ∀ c ∈ rest.head?, isDigit c = false) :
    (digits ++ rest).takeWhile isDigit = digits := by
  rw [List.takeWhile_append_of_pos all]
  cases rest with
  | nil => exact List.append_nil digits
  | cons c others => rw [List.takeWhile_cons_of_neg (by simp [ends c rfl]), List.append_nil]

private theorem beginsWith_iff {cs : List Char} {n : Nat} :
    BeginsWith cs n ↔ readNat (cs.takeWhile isDigit) = some n := by
  rw [readNat_eq_some_iff]
  constructor
  · rintro ⟨digits, rest, rfl, number, ends⟩
    rw [takeWhile_isDigit number.isDigit ends]
    exact number
  · intro number
    refine ⟨_, cs.dropWhile isDigit, List.takeWhile_append_dropWhile.symm, number, ?_⟩
    intro c first
    have stops := List.head?_dropWhile_not isDigit cs
    rw [Option.mem_def.mp first] at stops
    exact stops

theorem BeginsWith.isDigit_head {cs : List Char} {n : Nat} (number : BeginsWith cs n) :
    ∃ c rest, cs = c :: rest ∧ isDigit c = true := by
  obtain ⟨digits, rest, rfl, numeral, _⟩ := number
  cases digits with
  | nil => exact absurd rfl (digits_of_readNat (readNat_eq_some_iff.mpr numeral)).1
  | cons c others => exact ⟨c, others ++ rest, rfl, numeral.isDigit c List.mem_cons_self⟩

theorem BeginsWith.unique {cs : List Char} {n m : Nat} (first : BeginsWith cs n)
    (second : BeginsWith cs m) : n = m :=
  Option.some.inj ((beginsWith_iff.mp first).symm.trans (beginsWith_iff.mp second))

theorem Heads.visible {cs : List Char} {value : Int} (heads : Heads cs value) :
    ∀ c ∈ cs.head?, isBlank c = false := by
  intro c first
  cases heads with
  | bare number =>
      obtain ⟨digit, rest, rfl, isOne⟩ := number.isDigit_head
      cases first
      exact visible_of_isDigit isOne
  | plus number => cases first; rfl
  | minus number => cases first; rfl

/-- A sign is no digit, so a text begins with one integer only. -/
theorem Heads.unique {cs : List Char} {value other : Int} (first : Heads cs value)
    (second : Heads cs other) : value = other := by
  have unsigned : ∀ {c : Char} {rest : List Char} {n : Nat}, BeginsWith (c :: rest) n →
      isDigit c = true := by
    intro c rest n number
    obtain ⟨digit, others, same, isOne⟩ := number.isDigit_head
    cases same
    exact isOne
  cases first with
  | bare number =>
      cases second with
      | bare again => rw [number.unique again]
      | plus _ => cases unsigned number
      | minus _ => cases unsigned number
  | plus number =>
      cases second with
      | bare again => cases unsigned again
      | plus again => rw [number.unique again]
  | minus number =>
      cases second with
      | bare again => cases unsigned again
      | minus again => rw [number.unique again]

private theorem leads_iff {cs : List Char} {value : Int} :
    Leads cs value ↔ Heads (trimStart cs) value := by
  constructor
  · rintro ⟨blanks, front, rfl, blank, heads⟩
    rw [trimStart_append blank, trimStart_of_visible heads.visible]
    exact heads
  · intro heads
    exact ⟨_, _, List.takeWhile_append_dropWhile.symm,
      fun _ member => List.mem_takeWhile_imp member, heads⟩

theorem Leads.unique {cs : List Char} {value other : Int} (first : Leads cs value)
    (second : Leads cs other) : value = other :=
  (leads_iff.mp first).unique (leads_iff.mp second)

/-- Digits have no sign, so they are read as the number that they stand for. -/
theorem readInt_of_digits {cs : List Char} (digits : ∀ c ∈ cs, isDigit c = true) :
    readInt cs = (readNat cs).map fun n : Nat => (n : Int) := by
  rw [readInt.eq_def]
  split
  · next rest => cases digits '-' List.mem_cons_self
  · next rest => cases digits '+' List.mem_cons_self
  · cases readNat cs <;> rfl

private theorem toInt64?_eq_some_iff {n : Int} {value : Int64} :
    toInt64? n = some value ↔ value.toInt = n := by
  constructor
  · intro fits
    rw [toInt64?] at fits
    split at fits
    · next range =>
        cases fits
        exact Int64.toInt_ofInt_of_le range.1 range.2
    · cases fits
  · rintro rfl
    exact toInt64?_toInt value

namespace FieldValue

private theorem leadingMagnitude_eq_some_iff {cs : List Char} {magnitude : Int64} :
    leadingMagnitude cs = some magnitude ↔ BeginsWith cs magnitude.toInt.toNat ∧
      0 ≤ magnitude.toInt := by
  have digits : ∀ c ∈ cs.takeWhile isDigit, isDigit c = true :=
    fun _ member => List.mem_takeWhile_imp member
  rw [leadingMagnitude, Text.readInt64, readInt_of_digits digits, Option.bind_eq_bind,
    Option.bind_eq_some_iff, beginsWith_iff]
  constructor
  · rintro ⟨_, read, fits⟩
    obtain ⟨n, found, rfl⟩ := Option.map_eq_some_iff.mp read
    rw [toInt64?_eq_some_iff.mp fits, Int.toNat_natCast]
    exact ⟨found, Int.natCast_nonneg n⟩
  · rintro ⟨found, nonnegative⟩
    refine ⟨magnitude.toInt, ?_, toInt64?_toInt magnitude⟩
    rw [found, Option.map_some, Int.toNat_of_nonneg nonnegative]

/-- What is left of a text without the blanks in front of it, read as an integer. -/
def readFront (front : List Char) : Option Int64 :=
  match front with
  | '-' :: digits => (leadingMagnitude digits).map fun magnitude => -magnitude
  | '+' :: digits => leadingMagnitude digits
  | digits => leadingMagnitude digits

private theorem leadingInt_eq (cs : List Char) : leadingInt cs = readFront (trimStart cs) := rfl

/-- Only the least integer is not the negative of its negative. -/
theorem toInt_neg_of_ne {value : Int64} (large : value ≠ Int64.minValue) :
    (-value).toInt = -value.toInt := by
  have low := value.le_toInt
  have high := value.toInt_lt
  have notLeast : value.toInt ≠ Int64.minValue.toInt := fun same => large (Int64.toInt_inj.mp same)
  rw [Int64.toInt_minValue] at notLeast
  rw [Int64.toInt_neg, Int.bmod_eq_of_le (by omega) (by omega)]

private theorem ne_minValue_of_nonneg {value : Int64} (nonnegative : 0 ≤ value.toInt) :
    value ≠ Int64.minValue := by
  rintro rfl
  rw [Int64.toInt_minValue] at nonnegative
  omega

/-- All integers at the front are read but the least one. -/
theorem readFront_eq_some_iff {front : List Char} {value : Int64} :
    readFront front = some value ↔ Heads front value.toInt ∧ value ≠ Int64.minValue := by
  constructor
  · intro read
    rw [readFront.eq_def] at read
    split at read
    · obtain ⟨magnitude, found, rfl⟩ := Option.map_eq_some_iff.mp read
      obtain ⟨number, nonnegative⟩ := leadingMagnitude_eq_some_iff.mp found
      have negated := toInt_neg_of_ne (ne_minValue_of_nonneg nonnegative)
      refine ⟨?_, fun least => ?_⟩
      · rw [negated, ← Int.toNat_of_nonneg nonnegative]
        exact .minus number
      · -- The least integer is the negative of no magnitude, as the greatest is too small.
        have high := magnitude.toInt_lt
        rw [least, Int64.toInt_minValue] at negated
        omega
    · obtain ⟨number, nonnegative⟩ := leadingMagnitude_eq_some_iff.mp read
      refine ⟨?_, ne_minValue_of_nonneg nonnegative⟩
      rw [← Int.toNat_of_nonneg nonnegative]
      exact .plus number
    · obtain ⟨number, nonnegative⟩ := leadingMagnitude_eq_some_iff.mp read
      refine ⟨?_, ne_minValue_of_nonneg nonnegative⟩
      rw [← Int.toNat_of_nonneg nonnegative]
      exact .bare number
  · rintro ⟨heads, large⟩
    generalize same : value.toInt = whole at heads
    cases heads with
    | @bare _ n number =>
        have found : leadingMagnitude front = some value := by
          rw [leadingMagnitude_eq_some_iff, same, Int.toNat_natCast]
          exact ⟨number, Int.natCast_nonneg n⟩
        obtain ⟨c, rest, rfl, digit⟩ := number.isDigit_head
        rw [readFront.eq_def]
        split
        · next first => cases first; cases digit
        · next first => cases first; cases digit
        · exact found
    | @plus cs n number =>
        rw [readFront, leadingMagnitude_eq_some_iff, same, Int.toNat_natCast]
        exact ⟨number, Int.natCast_nonneg n⟩
    | @minus cs n number =>
        have magnitude : (-value).toInt = n := by rw [toInt_neg_of_ne large, same, Int.neg_neg]
        have found : leadingMagnitude cs = some (-value) := by
          rw [leadingMagnitude_eq_some_iff, magnitude, Int.toNat_natCast]
          exact ⟨number, Int.natCast_nonneg n⟩
        rw [readFront, found, Option.map_some, Int64.neg_neg]

private theorem leadingInt_eq_some_iff {cs : List Char} {value : Int64} :
    leadingInt cs = some value ↔ Leads cs value.toInt ∧ value ≠ Int64.minValue := by
  rw [leadingInt_eq, readFront_eq_some_iff, leads_iff]

/-- A number is written as the integer that its text begins with, whatever follows. -/
theorem leads_toText (number : Int64) {rest : List Char}
    (ends : ∀ c ∈ rest.head?, isDigit c = false) :
    Leads ((FieldValue.number number).toText.toList ++ rest) number.toInt := by
  have written : (FieldValue.number number).toText.toList =
      (Json.Number.int number.toInt).write := rfl
  rw [written, leads_iff]
  rcases lt_or_ge number.toInt 0 with negative | nonnegative
  · obtain ⟨n, whole⟩ : ∃ n : Nat, number.toInt = -(n : Int) := ⟨number.toInt.natAbs, by omega⟩
    have positive : 0 < n := by omega
    have heads : Heads ('-' :: (Nat.toDigits 10 n ++ rest)) (-(n : Int)) :=
      .minus ⟨_, rest, rfl, numeral_toDigits n, ends⟩
    rw [whole, Json.write_int_of_neg positive, List.cons_append,
      trimStart_of_visible heads.visible]
    exact heads
  · obtain ⟨n, whole⟩ := Int.eq_ofNat_of_zero_le nonnegative
    have heads : Heads (Nat.toDigits 10 n ++ rest) n :=
      .bare ⟨_, rest, rfl, numeral_toDigits n, ends⟩
    rw [whole, Json.write_int_of_nonneg, trimStart_of_visible heads.visible]
    exact heads

/-- A text is read as the integer that it begins with, and as nothing if it begins with none or
with the least one. So a number comes back from its text, whatever follows that is no digit,
unless it is the least one. -/
theorem toInt?_text_iff (text : String) :
    (∀ value, (FieldValue.text text).toInt? = some value ↔
        Leads text.toList value.toInt ∧ value ≠ Int64.minValue) ∧
      ((∀ value, (FieldValue.text text).toInt? = some value ↔ Leads text.toList value.toInt) ↔
        ¬Leads text.toList Int64.minValue.toInt) ∧
      ∀ (number : Int64) (rest : String), (∀ c ∈ rest.toList.head?, isDigit c = false) →
        (FieldValue.text ((FieldValue.number number).toText ++ rest)).toInt? =
          if number = Int64.minValue then none else some number := by
  refine ⟨fun value => leadingInt_eq_some_iff, ⟨fun whole least => ?_, fun none value => ?_⟩,
    fun number rest ends => ?_⟩
  · exact (leadingInt_eq_some_iff.mp ((whole Int64.minValue).mpr least)).2 rfl
  · refine leadingInt_eq_some_iff.trans ⟨And.left, fun leads => ⟨leads, ?_⟩⟩
    rintro rfl
    exact none leads
  · have leads := leads_toText number ends
    rw [← String.toList_append] at leads
    split
    · next least =>
        rw [Option.eq_none_iff_forall_ne_some]
        intro value read
        obtain ⟨other, large⟩ := leadingInt_eq_some_iff.mp read
        exact large (Int64.toInt_inj.mp (least ▸ other.unique leads))
    · next large => exact leadingInt_eq_some_iff.mpr ⟨leads, large⟩

/-- A negative number is read after blanks and up to its unit. -/
theorem toInt?_text_indented : (FieldValue.text "\u00a0 -12ms").toInt? = some (-12) :=
  have number : BeginsWith "12ms".toList 12 := beginsWith_iff.mpr (by decide)
  ((toInt?_text_iff "\u00a0 -12ms").1 (-12)).mpr ⟨leads_iff.mpr (.minus number), by decide⟩

/-- The least integer is written as a text that begins with it, and is not read from it. -/
theorem toInt?_text_least :
    (FieldValue.number Int64.minValue).toText = "-9223372036854775808" ∧
      Leads "-9223372036854775808".toList Int64.minValue.toInt ∧
      (FieldValue.text "-9223372036854775808").toInt? = none := by
  have number : BeginsWith "9223372036854775808".toList 9223372036854775808 :=
    beginsWith_iff.mpr (by decide)
  exact ⟨by decide, leads_iff.mpr (.minus number), by decide⟩

end FieldValue

end Marquee
