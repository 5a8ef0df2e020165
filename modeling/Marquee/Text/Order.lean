/-!
# The order of texts

Texts are ordered by their characters from left to right, and characters by their code points. A
text comes before every longer one that starts with it. This is also the order of the bytes of the
texts in UTF-8.
-/

namespace Marquee.Text

/-- Whether one sequence of characters comes before another. -/
def charsBefore : List Char → List Char → Bool
  | _, [] => false
  | [], _ :: _ => true
  | left :: lefts, right :: rights =>
    if left = right then charsBefore lefts rights else decide (left.toNat < right.toNat)

def before (left right : String) : Bool :=
  charsBefore left.toList right.toList

/-- Whether a text comes before another or is the same. -/
def upTo (left right : String) : Bool :=
  !before right left

theorem charsBefore_irrefl (cs : List Char) : charsBefore cs cs = false := by
  induction cs with
  | nil => rfl
  | cons c cs inductionHypothesis => simp [charsBefore, inductionHypothesis]

theorem charsBefore_trans {first second third : List Char}
    (lower : charsBefore first second = true) (upper : charsBefore second third = true) :
    charsBefore first third = true := by
  induction first generalizing second third with
  | nil =>
    cases third with
    | nil => cases second <;> simp [charsBefore] at upper
    | cons => rfl
  | cons a as inductionHypothesis =>
    cases second with
    | nil => simp [charsBefore] at lower
    | cons b bs =>
      cases third with
      | nil => simp [charsBefore] at upper
      | cons c cs =>
        simp only [charsBefore] at lower upper ⊢
        by_cases firstEqual : a = b
        · subst firstEqual
          by_cases secondEqual : a = c
          · subst secondEqual
            simp only [if_true] at lower upper ⊢
            exact inductionHypothesis lower upper
          · simpa [secondEqual] using upper
        · by_cases secondEqual : b = c
          · subst secondEqual
            simpa [firstEqual] using lower
          · simp only [firstEqual, secondEqual, if_false, decide_eq_true_eq] at lower upper
            have different : a ≠ c := by
              intro equal
              subst equal
              omega
            simp only [different, if_false, decide_eq_true_eq]
            omega

theorem charsBefore_total (left right : List Char) :
    left = right ∨ charsBefore left right = true ∨ charsBefore right left = true := by
  induction left generalizing right with
  | nil => cases right <;> simp [charsBefore]
  | cons a as inductionHypothesis =>
    cases right with
    | nil => simp [charsBefore]
    | cons b bs =>
      by_cases equal : a = b
      · subst equal
        simpa [charsBefore] using inductionHypothesis bs
      · have codes : a.toNat ≠ b.toNat := fun same => equal (Char.toNat_inj.mp same)
        have swapped : ¬b = a := fun same => equal same.symm
        simp only [charsBefore, equal, swapped, if_false, decide_eq_true_eq]
        omega

theorem before_irrefl (text : String) : before text text = false :=
  charsBefore_irrefl text.toList

theorem ne_of_before {left right : String} (first : before left right = true) : left ≠ right := by
  rintro rfl
  rw [before_irrefl] at first
  cases first

theorem before_trans {first second third : String} (lower : before first second = true)
    (upper : before second third = true) : before first third = true :=
  charsBefore_trans lower upper

theorem before_asymm {left right : String} (first : before left right = true) :
    before right left = false := by
  cases second : before right left with
  | false => rfl
  | true => exact absurd rfl (ne_of_before (before_trans first second))

theorem before_total (left right : String) :
    left = right ∨ before left right = true ∨ before right left = true := by
  rcases charsBefore_total left.toList right.toList with equal | order
  · exact Or.inl (String.toList_inj.mp equal)
  · exact Or.inr order

theorem upTo_iff {left right : String} :
    upTo left right = true ↔ left = right ∨ before left right = true := by
  rw [upTo, Bool.not_eq_true']
  constructor
  · intro notAfter
    rcases before_total left right with equal | first | second
    · exact Or.inl equal
    · exact Or.inr first
    · rw [notAfter] at second
      cases second
  · rintro (rfl | first)
    · exact before_irrefl left
    · exact before_asymm first

end Marquee.Text
