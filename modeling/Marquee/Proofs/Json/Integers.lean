import Marquee.Json.Token
import Marquee.Json.Writer

/-!
# Integers are read back

An integer of 64 bits, with or without sign, is written with its decimal digits, and what is read
from them is the integer again, whatever follows that cannot belong to a number.
-/

namespace Marquee.Json

/-- Nothing at the front of this text can continue a number. -/
def Closed (rest : List Char) : Prop :=
  ∀ c cs, rest = c :: cs → Text.isDigit c = false ∧ c ≠ '.' ∧ c ≠ 'e' ∧ c ≠ 'E'

theorem closed_nil : Closed [] := by
  intro c cs impossible
  cases impossible

theorem closed_cons {c : Char} (rest : List Char)
    (closes : Text.isDigit c = false ∧ c ≠ '.' ∧ c ≠ 'e' ∧ c ≠ 'E') : Closed (c :: rest) := by
  intro first others equal
  cases equal
  exact closes

private theorem isDigit_eq (c : Char) : Text.isDigit c = c.isDigit := by
  rfl

theorem isDigit_of_mem_toDigits {n : Nat} {c : Char} (member : c ∈ Nat.toDigits 10 n) :
    Text.isDigit c = true := by
  rw [isDigit_eq]
  exact Nat.isDigit_of_mem_toDigits (by decide) (by decide) member

/-- No number but zero starts with the digit zero. -/
theorem exists_toDigits_eq_cons {n : Nat} (positive : 0 < n) :
    ∃ c cs, Nat.toDigits 10 n = c :: cs ∧ c ≠ '0' := by
  induction n using Nat.strongRecOn with
  | ind n inductionHypothesis =>
      by_cases short : n < 10
      · refine ⟨_, [], Nat.toDigits_of_lt_base short, ?_⟩
        rw [Ne, Nat.digitChar_eq_zero]
        omega
      · have smaller : n / 10 < n := Nat.div_lt_self positive (by decide)
        have stillPositive : 0 < n / 10 := by omega
        obtain ⟨c, cs, digits, notZero⟩ := inductionHypothesis (n / 10) smaller stillPositive
        refine ⟨c, cs ++ [Nat.digitChar (n % 10)], ?_, notZero⟩
        rw [Nat.toDigits_of_base_le (by decide) (Nat.le_of_not_lt short), digits]
        rfl

private theorem takeWhile_digits {digits rest : List Char}
    (all : ∀ c ∈ digits, Text.isDigit c = true)
    (closed : Closed rest) : (digits ++ rest).takeWhile Text.isDigit = digits := by
  rw [List.takeWhile_append_of_pos all]
  cases rest with
  | nil => simp
  | cons c cs => simp [(closed c cs rfl).1]

private theorem dropWhile_digits {digits rest : List Char}
    (all : ∀ c ∈ digits, Text.isDigit c = true)
    (closed : Closed rest) : (digits ++ rest).dropWhile Text.isDigit = rest := by
  rw [List.dropWhile_append_of_pos all]
  cases rest with
  | nil => rfl
  | cons c cs => simp [(closed c cs rfl).1]

namespace Numeral

private theorem scanDigits_toDigits (n : Nat) {rest : List Char} (closed : Closed rest) :
    scanDigits (Nat.toDigits 10 n ++ rest) = .ok (Nat.toDigits 10 n, rest) := by
  have all : ∀ c ∈ Nat.toDigits 10 n, Text.isDigit c = true :=
    fun _ member => isDigit_of_mem_toDigits member
  simp only [scanDigits]
  rw [takeWhile_digits all closed, dropWhile_digits all closed]
  split
  · next empty => exact absurd empty Nat.toDigits_ne_nil
  · rfl

private theorem scanWhole_toDigits (n : Nat) {rest : List Char} (closed : Closed rest) :
    scanWhole (Nat.toDigits 10 n ++ rest) = .ok (Nat.toDigits 10 n, rest) := by
  simp only [scanWhole]
  rw [scanDigits_toDigits n closed]
  split
  · next fault => cases fault
  · next second others after same =>
      injection same with both
      injection both with digits _
      rcases Nat.eq_zero_or_pos n with zero | positive
      · subst zero
        rw [Nat.toDigits_zero] at digits
        cases digits
      · obtain ⟨c, cs, begins, notZero⟩ := exists_toDigits_eq_cons positive
        rw [begins] at digits
        injection digits with first _
        exact absurd first notZero
  · next same => exact same.symm

private theorem scanFraction_closed {rest : List Char} (closed : Closed rest) :
    scanFraction rest = .ok (none, rest) := by
  simp only [scanFraction]
  split
  · next cs => exact absurd rfl (closed '.' cs rfl).2.1
  · rfl

private theorem scanExponent_closed {rest : List Char} (closed : Closed rest) :
    scanExponent rest = .ok (none, rest) := by
  cases rest with
  | nil => rfl
  | cons c cs =>
      obtain ⟨_, _, notLower, notUpper⟩ := closed c cs rfl
      simp [scanExponent, notLower, notUpper]

private theorem le_ofDigitChars (digits : List Char) (significand : Nat) :
    significand ≤ Nat.ofDigitChars 10 digits significand := by
  rw [Nat.ofDigitChars_eq_ofDigitChars_zero]
  have grows : significand ≤ 10 ^ digits.length * significand :=
    Nat.le_mul_of_pos_left _ (Nat.pow_pos (by decide))
  omega

/-- Digits are gathered completely if their value fits. -/
theorem gather_of_lt {digits : List Char} {significand : Nat}
    (small : Nat.ofDigitChars 10 digits significand < longLimit) :
    gather significand digits = (Nat.ofDigitChars 10 digits significand, 0) := by
  induction digits generalizing significand with
  | nil => rfl
  | cons c cs inductionHypothesis =>
      rw [Nat.ofDigitChars_cons] at small ⊢
      have fits : 10 * significand + Text.digitValue c < longLimit :=
        Nat.lt_of_le_of_lt (le_ofDigitChars cs _) small
      rw [gather, if_pos fits]
      exact inductionHypothesis small

private theorem gather_toDigits {n : Nat} (small : n < longLimit) :
    gather 0 (Nat.toDigits 10 n) = (n, 0) := by
  have same : Nat.ofDigitChars 10 (Nat.toDigits 10 n) 0 = n := Nat.ofDigitChars_ten_toDigits
  rw [gather_of_lt (by rw [same]; exact small), same]

/-- A number without sign, point and exponent. -/
theorem scan_toDigits (n : Nat) {rest : List Char} (closed : Closed rest) :
    scan (Nat.toDigits 10 n ++ rest) = .ok (⟨false, Nat.toDigits 10 n, none, none⟩, rest) := by
  have unsigned : ∀ tail, Nat.toDigits 10 n ++ rest ≠ '-' :: tail := by
    intro tail equal
    cases digits : Nat.toDigits 10 n with
    | nil => exact Nat.toDigits_ne_nil digits
    | cons c cs =>
        rw [digits] at equal
        injection equal with minus _
        have digit := isDigit_of_mem_toDigits (digits ▸ List.mem_cons_self)
        rw [minus] at digit
        exact absurd digit (by decide)
  unfold scan
  split
  next negative rest' split_sign =>
    split at split_sign
    · next tail equal => exact absurd equal (unsigned tail)
    · cases split_sign
      rw [scanWhole_toDigits n closed]
      dsimp only
      rw [scanFraction_closed closed]
      dsimp only
      rw [scanExponent_closed closed]

private theorem scan_minus (n : Nat) {rest : List Char} (closed : Closed rest) :
    scan ('-' :: (Nat.toDigits 10 n ++ rest)) =
      .ok (⟨true, Nat.toDigits 10 n, none, none⟩, rest) := by
  simp only [scan, scanWhole_toDigits n closed, scanFraction_closed closed,
    scanExponent_closed closed]

private theorem value_toDigits {n : Nat} (small : n < longLimit) :
    (⟨false, Nat.toDigits 10 n, none, none⟩ : Numeral).value = .ok (.int n) := by
  unfold value
  dsimp only
  rw [gather_toDigits small]
  rfl

private theorem value_minus {n : Nat} (positive : 0 < n) (small : n ≤ signedLimit) :
    (⟨true, Nat.toDigits 10 n, none, none⟩ : Numeral).value = .ok (.int (-(n : Int))) := by
  have fits : n < longLimit := Nat.lt_of_le_of_lt small (by decide)
  have representable : ¬(n = 0 ∨ signedLimit < n) := by omega
  unfold value
  dsimp only
  rw [gather_toDigits fits]
  simp [representable]

end Numeral

/-- The integers that a reader keeps as they are. -/
def Fits (n : Int) : Prop :=
  -(signedLimit : Int) ≤ n ∧ n < (longLimit : Int)

theorem write_int_of_nonneg (n : Nat) : (Number.int n).write = Nat.toDigits 10 n := by
  rw [Number.write, Int.toString_eq_repr, Int.repr_eq_if, if_pos (Int.natCast_nonneg n),
    Int.toNat_natCast, Nat.toList_repr]

theorem write_int_of_neg {n : Nat} (positive : 0 < n) :
    (Number.int (-(n : Int))).write = '-' :: Nat.toDigits 10 n := by
  have negative : ¬ 0 ≤ -(n : Int) := by omega
  rw [Number.write, Int.toString_eq_repr, Int.repr_eq_if, if_neg negative, Int.neg_neg,
    Int.toNat_natCast, String.toList_append, Nat.toList_repr]
  rfl

theorem Token.scanNumber_write {n : Int} (fits : Fits n) {rest : List Char}
    (closed : Closed rest) :
    Token.scanNumber ((Number.int n).write ++ rest) = .ok (.int n, rest) := by
  obtain ⟨low, high⟩ := fits
  simp only [Token.scanNumber]
  rcases Int.lt_or_le n 0 with negative | nonnegative
  · obtain ⟨magnitude, rfl⟩ := Int.exists_eq_neg_ofNat (Int.le_of_lt negative)
    have positive : 0 < magnitude := by omega
    have small : magnitude ≤ signedLimit := by omega
    rw [write_int_of_neg positive, List.cons_append, Numeral.scan_minus magnitude closed]
    dsimp only
    rw [Numeral.value_minus positive small]
  · obtain ⟨magnitude, rfl⟩ := Int.eq_ofNat_of_zero_le nonnegative
    have small : magnitude < longLimit := Int.ofNat_lt.mp high
    rw [write_int_of_nonneg, Numeral.scan_toDigits magnitude closed]
    dsimp only
    rw [Numeral.value_toDigits small]

end Marquee.Json
