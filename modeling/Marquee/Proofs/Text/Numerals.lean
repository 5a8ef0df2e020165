import Marquee.Text.Hex
import Marquee.Text.Numeral
import Mathlib.Data.List.DropRight
import Mathlib.Data.Nat.Digits.Defs

/-!
# What readers of loose text accept

Trimming takes away exactly the blanks around a text. The readers of digits accept exactly the
digits that are written, in either case for the hexadecimal ones, and a numeral reads as the number
that its digits stand for.
-/

namespace Marquee.Text

/-- A text with blanks around it. -/
def Padded (core cs : List Char) : Prop :=
  ∃ before after, cs = before ++ core ++ after ∧
    (∀ c ∈ before, isBlank c = true) ∧ ∀ c ∈ after, isBlank c = true

/-- A text that neither begins nor ends with a blank. -/
def Bare (core : List Char) : Prop :=
  (∀ c ∈ core.head?, isBlank c = false) ∧ ∀ c ∈ core.getLast?, isBlank c = false

theorem bare_of_visible {core : List Char} (visible : ∀ c ∈ core, isBlank c = false) :
    Bare core :=
  ⟨fun c first => visible c (List.mem_of_mem_head? first),
    fun c last => visible c (List.mem_of_mem_getLast? last)⟩

theorem padded_trim (cs : List Char) : Padded (trim cs) cs := by
  refine ⟨cs.takeWhile isBlank, (trimStart cs).rtakeWhile isBlank, ?_, ?_, ?_⟩
  · have ends : trim cs ++ (trimStart cs).rtakeWhile isBlank = trimStart cs :=
      List.rdropWhile_append_rtakeWhile
    rw [List.append_assoc, ends]
    exact List.takeWhile_append_dropWhile.symm
  · intro c among
    exact List.mem_takeWhile_imp among
  · intro c among
    exact List.mem_rtakeWhile_imp among

theorem trimStart_of_visible {cs : List Char} (visible : ∀ c ∈ cs.head?, isBlank c = false) :
    trimStart cs = cs := by
  cases cs with
  | nil => rfl
  | cons c rest => exact trimStart_cons_of_not_blank (visible c rfl)

private theorem trimEnd_of_visible {cs : List Char}
    (visible : ∀ c ∈ cs.getLast?, isBlank c = false) :
    trimEnd cs = cs := by
  have reversed : trimStart cs.reverse = cs.reverse := by
    apply trimStart_of_visible
    simpa only [List.head?_reverse] using visible
  rw [trimStart] at reversed
  rw [trimEnd, reversed, List.reverse_reverse]

theorem trimStart_append {before : List Char} (blank : ∀ c ∈ before, isBlank c = true)
    (cs : List Char) : trimStart (before ++ cs) = trimStart cs :=
  List.dropWhile_append_of_pos blank

private theorem trimEnd_append {after : List Char} (blank : ∀ c ∈ after, isBlank c = true)
    (cs : List Char) : trimEnd (cs ++ after) = trimEnd cs := by
  have reversed : ∀ c ∈ after.reverse, isBlank c = true := by simpa using blank
  rw [trimEnd, trimEnd, List.reverse_append, List.dropWhile_append_of_pos reversed]

theorem trim_eq_of_padded {core cs : List Char} (padded : Padded core cs) (bare : Bare core) :
    trim cs = core := by
  obtain ⟨before, after, rfl, blankBefore, blankAfter⟩ := padded
  rw [trim, List.append_assoc, trimStart_append blankBefore]
  by_cases empty : core = []
  · subst empty
    have gone := trimStart_append blankAfter []
    rw [List.append_nil] at gone
    rw [List.nil_append, gone]
    rfl
  · have visible : ∀ c ∈ (core ++ after).head?, isBlank c = false := by
      rw [List.head?_append_of_ne_nil _ empty]
      exact bare.1
    rw [trimStart_of_visible visible, trimEnd_append blankAfter, trimEnd_of_visible bare.2]

/-- A hexadecimal digit of either case, and its value. -/
def HexDigit (c : Char) (value : Nat) : Prop :=
  value < 16 ∧ (c = hexDigit value ∨ c = hexDigitUpper value)

private theorem hexValue?_hexDigit :
    ∀ value < 16, hexValue? (hexDigit value) = some value ∧
      hexValue? (hexDigitUpper value) = some value := by
  decide

private theorem ofNat_offset {low c : Char} (above : low ≤ c) :
    Char.ofNat (low.toNat + (c.toNat - low.toNat)) = c := by
  have ordered : low.toNat ≤ c.toNat := above
  rw [Nat.add_sub_cancel' ordered, Char.ofNat_toNat]

private theorem hexDigit_of_hexValue? {c : Char} {value : Nat} (read : hexValue? c = some value) :
    HexDigit c value := by
  have bounded (high : Char) (below : c ≤ high) : c.toNat ≤ high.toNat := below
  rw [hexValue?] at read
  split at read
  · next range =>
      have high := bounded '9' range.2
      cases read
      simp only [Char.reduceToNat] at high ⊢
      have small : c.toNat - 48 < 10 := by omega
      refine ⟨by omega, Or.inl ?_⟩
      rw [hexDigit, if_pos small]
      exact (ofNat_offset range.1).symm
  · split at read
    · next range =>
        have high := bounded 'f' range.2
        cases read
        simp only [Char.reduceToNat] at high ⊢
        refine ⟨by omega, Or.inl ?_⟩
        rw [hexDigit, if_neg (by omega), Nat.add_sub_cancel]
        exact (ofNat_offset range.1).symm
    · split at read
      · next range =>
          have high := bounded 'F' range.2
          cases read
          simp only [Char.reduceToNat] at high ⊢
          refine ⟨by omega, Or.inr ?_⟩
          rw [hexDigitUpper, if_neg (by omega), Nat.add_sub_cancel]
          exact (ofNat_offset range.1).symm
      · cases read

theorem hexValue?_eq_some_iff {c : Char} {value : Nat} :
    hexValue? c = some value ↔ HexDigit c value := by
  constructor
  · exact hexDigit_of_hexValue?
  · rintro ⟨small, rfl | rfl⟩
    · exact (hexValue?_hexDigit value small).1
    · exact (hexValue?_hexDigit value small).2

theorem not_hexDigit {c : Char} (unread : hexValue? c = none) (value : Nat) :
    ¬HexDigit c value := by
  intro digit
  have read := hexValue?_eq_some_iff.mpr digit
  rw [unread] at read
  cases read

theorem HexDigit.visible {c : Char} {value : Nat} (digit : HexDigit c value) :
    isBlank c = false := by
  obtain ⟨small, written⟩ := digit
  have both : ∀ value < 16, isBlank (hexDigit value) = false ∧
      isBlank (hexDigitUpper value) = false := by
    decide
  rcases written with rfl | rfl
  · exact (both value small).1
  · exact (both value small).2

/-- Decimal digits that stand for a number, the most significant first. -/
def Numeral (cs : List Char) (n : Nat) : Prop :=
  ∃ digits : List Nat, digits ≠ [] ∧ (∀ digit ∈ digits, digit < 10) ∧
    cs = digits.map Nat.digitChar ∧ Nat.ofDigits 10 digits.reverse = n

private theorem isDigit_digitChar {digit : Nat} (small : digit < 10) :
    isDigit (Nat.digitChar digit) = true := by
  decide +revert

private theorem digitValue_digitChar {digit : Nat} (small : digit < 10) :
    digitValue (Nat.digitChar digit) = digit := by
  rw [digitValue, Nat.toNat_digitChar_of_lt_ten small]
  simp

private theorem digitChar_digitValue {c : Char} (isOne : isDigit c = true) :
    digitValue c < 10 ∧ Nat.digitChar (digitValue c) = c := by
  simp only [isDigit, Bool.and_eq_true, decide_eq_true_eq] at isOne
  have low : 48 ≤ c.toNat := isOne.1
  have high : c.toNat ≤ 57 := isOne.2
  have small : digitValue c < 10 := by
    simp only [digitValue, Char.reduceToNat]
    omega
  refine ⟨small, Char.toNat_inj.mp ?_⟩
  rw [Nat.toNat_digitChar_of_lt_ten small]
  simp only [digitValue, Char.reduceToNat]
  omega

private theorem valueOf_eq (cs : List Char) :
    valueOf cs = Nat.ofDigits 10 (cs.map digitValue).reverse := by
  rw [Nat.ofDigits_eq_foldr, List.foldr_reverse, List.foldl_map, valueOf]
  simp only [Nat.cast_id, Nat.add_comm]

theorem readNat_eq_valueOf {cs : List Char} (nonempty : cs ≠ [])
    (digits : ∀ c ∈ cs, isDigit c = true) : readNat cs = some (valueOf cs) := by
  have accepted : ¬(cs.isEmpty || !cs.all isDigit) = true := by
    simpa [nonempty] using digits
  rw [readNat, if_neg accepted]

theorem digits_of_readNat {cs : List Char} {n : Nat} (read : readNat cs = some n) :
    cs ≠ [] ∧ (∀ c ∈ cs, isDigit c = true) ∧ valueOf cs = n := by
  rw [readNat] at read
  split at read
  · cases read
  · next accepted =>
      simp only [Bool.or_eq_true, Bool.not_eq_true', not_or, List.isEmpty_iff,
        Bool.not_eq_false, List.all_eq_true] at accepted
      exact ⟨accepted.1, accepted.2, Option.some.inj read⟩

/-- Digits are read as the number that they stand for, and nothing else is read. -/
theorem readNat_eq_some_iff {cs : List Char} {n : Nat} :
    readNat cs = some n ↔ Numeral cs n := by
  constructor
  · intro read
    obtain ⟨nonempty, digits, rfl⟩ := digits_of_readNat read
    refine ⟨cs.map digitValue, by simpa using nonempty, ?_, ?_, (valueOf_eq cs).symm⟩
    · intro digit among
      obtain ⟨c, member, rfl⟩ := List.mem_map.mp among
      exact (digitChar_digitValue (digits c member)).1
    · rw [List.map_map]
      refine (List.map_id cs).symm.trans (List.map_congr_left fun c member => ?_)
      exact (digitChar_digitValue (digits c member)).2.symm
  · rintro ⟨digits, nonempty, small, rfl, rfl⟩
    have values : (digits.map Nat.digitChar).map digitValue = digits := by
      rw [List.map_map]
      refine (List.map_congr_left fun digit member => ?_).trans (List.map_id digits)
      exact digitValue_digitChar (small digit member)
    rw [readNat_eq_valueOf (by simpa using nonempty), valueOf_eq, values]
    intro c among
    obtain ⟨digit, member, rfl⟩ := List.mem_map.mp among
    exact isDigit_digitChar (small digit member)

/-- A number is written with digits that stand for it. -/
theorem numeral_toDigits (n : Nat) : Numeral (Nat.toDigits 10 n) n := by
  have digits : ∀ c ∈ Nat.toDigits 10 n, isDigit c = true := fun _ member =>
    Nat.isDigit_of_mem_toDigits (by decide) (by decide) member
  rw [← readNat_eq_some_iff, readNat_eq_valueOf Nat.toDigits_ne_nil digits]
  exact congrArg some Nat.ofDigitChars_ten_toDigits

/-- A numeral without a minus sign. With a sign, a plus may stand in front of it. -/
inductive Unsigned (signed : Bool) : List Char → Nat → Prop where
  | digits {cs : List Char} {n : Nat} (number : Numeral cs n) : Unsigned signed cs n
  | plus {cs : List Char} {n : Nat} (allowed : signed = true) (number : Numeral cs n) :
      Unsigned signed ('+' :: cs) n

theorem Numeral.isDigit {cs : List Char} {n : Nat} (number : Numeral cs n) :
    ∀ c ∈ cs, isDigit c = true :=
  (digits_of_readNat (readNat_eq_some_iff.mpr number)).2.1

theorem visible_of_isDigit {c : Char} (digit : isDigit c = true) : isBlank c = false := by
  simp only [isDigit, Bool.and_eq_true, decide_eq_true_eq] at digit
  have low : 48 ≤ c.toNat := digit.1
  have high : c.toNat ≤ 57 := digit.2
  simp only [isBlank, Bool.or_eq_false_iff, Bool.and_eq_false_iff, decide_eq_false_iff_not,
    beq_eq_false_iff_ne]
  omega

theorem Unsigned.mem {signed : Bool} {cs : List Char} {n : Nat} (unsigned : Unsigned signed cs n) :
    ∀ c ∈ cs, isDigit c = true ∨ signed = true ∧ c = '+' := by
  intro c among
  cases unsigned with
  | digits number => exact Or.inl (number.isDigit c among)
  | plus allowed number =>
      rcases List.mem_cons.mp among with sign | member
      · exact Or.inr ⟨allowed, sign⟩
      · exact Or.inl (number.isDigit c member)

/-- Without a sign, a numeral is one in which there is none. -/
theorem Unsigned.plain_iff {cs : List Char} {n : Nat} :
    Unsigned false cs n ↔ Unsigned true cs n ∧ '+' ∉ cs := by
  constructor
  · intro unsigned
    cases unsigned with
    | digits number =>
        refine ⟨.digits number, fun sign => ?_⟩
        have digit := number.isDigit '+' sign
        cases digit
    | plus allowed number => cases allowed
  · rintro ⟨unsigned, plain⟩
    cases unsigned with
    | digits number => exact .digits number
    | plus allowed number => exact absurd List.mem_cons_self plain

theorem Unsigned.bare {signed : Bool} {cs : List Char} {n : Nat} (unsigned : Unsigned signed cs n) :
    Bare cs := by
  apply bare_of_visible
  intro c among
  rcases unsigned.mem c among with digit | ⟨_, rfl⟩
  · exact visible_of_isDigit digit
  · rfl

theorem readUnsigned_eq_some_iff {cs : List Char} {n : Nat} :
    readUnsigned cs = some n ↔ Unsigned true cs n := by
  constructor
  · intro read
    rw [readUnsigned.eq_def] at read
    split at read
    · exact .plus rfl (readNat_eq_some_iff.mp read)
    · exact .digits (readNat_eq_some_iff.mp read)
  · intro unsigned
    cases unsigned with
    | plus allowed number => exact readNat_eq_some_iff.mpr number
    | digits number =>
        rw [readUnsigned.eq_def]
        split
        · next rest =>
            have sign := number.isDigit '+' List.mem_cons_self
            cases sign
        · exact readNat_eq_some_iff.mpr number

private theorem toByte?_eq_some_iff {n : Nat} {byte : UInt8} :
    toByte? n = some byte ↔ byte.toNat = n := by
  rw [toByte?]
  constructor
  · intro fits
    split at fits
    · next small =>
        cases fits
        exact UInt8.toNat_ofNat_of_lt' small
    · cases fits
  · intro value
    subst value
    rw [if_pos byte.toNat_lt, UInt8.ofNat_toNat]

theorem readByte_eq_some_iff {cs : List Char} {byte : UInt8} :
    readByte cs = some byte ↔ Unsigned true cs byte.toNat := by
  rw [readByte, Option.bind_eq_bind, Option.bind_eq_some_iff]
  constructor
  · rintro ⟨n, read, fits⟩
    rw [toByte?_eq_some_iff.mp fits]
    exact readUnsigned_eq_some_iff.mp read
  · intro unsigned
    exact ⟨_, readUnsigned_eq_some_iff.mpr unsigned, toByte?_eq_some_iff.mpr rfl⟩

end Marquee.Text
