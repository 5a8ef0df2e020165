import Marquee.Json.Numeral
import Marquee.Text.Hex

/-!
# JSON tokens

A text is cut into tokens from left to right. Where no token can be cut the list ends with a fault,
which knows whether it arose inside a string: whoever reads the tokens decides which error wins.
-/

namespace Marquee.Json

inductive Token where
  | openArray
  | closeArray
  | openObject
  | closeObject
  | comma
  | colon
  | null
  | bool (value : Bool)
  | number (value : Number)
  | string (text : String)
  | fault (reason : Fault) (inString : Bool)
  deriving DecidableEq, Repr

namespace Token

def isSpace (c : Char) : Bool :=
  c == ' ' || c == '\n' || c == '\t' || c == '\r'

def shortEscape? : Char → Option Char
  | '"' => some '"'
  | '\\' => some '\\'
  | '/' => some '/'
  | 'b' => some '\x08'
  | 'f' => some '\x0c'
  | 'n' => some '\n'
  | 'r' => some '\r'
  | 't' => some '\t'
  | _ => none

/-- Four hexadecimal digits. A text with fewer than four bytes left ends too early, whatever they
are. -/
def scanQuad : List Char → Except Fault (Nat × List Char)
  | a :: b :: c :: d :: rest =>
    match Text.hexQuad? a b c d with
    | some code => .ok (code, rest)
    | none => .error .malformed
  | short =>
    if (String.ofList short).utf8ByteSize < 4 then .error .cut else .error .malformed

def pairCode (high low : Nat) : Nat :=
  0x10000 + (high - 0xD800) * 0x400 + (low - 0xDC00)

/-- The second half of a surrogate pair, after the first one. -/
def scanLowHalf (high : Nat) : List Char → Except Fault (Char × List Char)
  | '\\' :: 'u' :: cs =>
    match scanQuad cs with
    | .error reason => .error reason
    | .ok (low, rest) =>
      if 0xDC00 ≤ low ∧ low ≤ 0xDFFF then .ok (Char.ofNat (pairCode high low), rest)
      else .error .malformed
  | ['\\'] => .error .cut
  | [] => .error .cut
  | _ => .error .malformed

/-- The character of a `\u` escape, after its `u`. -/
def scanUnicode (cs : List Char) : Except Fault (Char × List Char) :=
  match scanQuad cs with
  | .error reason => .error reason
  | .ok (code, rest) =>
    if 0xDC00 ≤ code ∧ code ≤ 0xDFFF then .error .malformed
    else if 0xD800 ≤ code ∧ code ≤ 0xDBFF then scanLowHalf code rest
    else .ok (Char.ofNat code, rest)

/-- The character of an escape, after its backslash. -/
def scanEscape : List Char → Except Fault (Char × List Char)
  | [] => .error .cut
  | 'u' :: cs => scanUnicode cs
  | c :: cs =>
    match shortEscape? c with
    | some plain => .ok (plain, cs)
    | none => .error .malformed

theorem length_scanQuad {cs rest : List Char} {code : Nat}
    (scanned : scanQuad cs = .ok (code, rest)) :
    rest.length < cs.length := by
  unfold scanQuad at scanned
  split at scanned
  · split at scanned
    · cases scanned
      simp only [List.length_cons]
      omega
    · cases scanned
  · split at scanned <;> cases scanned

theorem length_scanLowHalf {high : Nat} {cs rest : List Char} {c : Char}
    (scanned : scanLowHalf high cs = .ok (c, rest)) :
    rest.length < cs.length := by
  unfold scanLowHalf at scanned
  split at scanned
  · split at scanned
    · cases scanned
    · rename_i quad
      split at scanned
      · simp only [Except.ok.injEq, Prod.mk.injEq] at scanned
        have shorter := length_scanQuad quad
        rw [← scanned.2]
        simp only [List.length_cons]
        omega
      · cases scanned
  all_goals cases scanned

theorem length_scanUnicode {cs rest : List Char} {c : Char}
    (scanned : scanUnicode cs = .ok (c, rest)) :
    rest.length < cs.length := by
  unfold scanUnicode at scanned
  split at scanned
  · cases scanned
  · rename_i quad
    have shorter := length_scanQuad quad
    split at scanned
    · cases scanned
    · split at scanned
      · have shorterStill := length_scanLowHalf scanned
        omega
      · simp only [Except.ok.injEq, Prod.mk.injEq] at scanned
        rw [← scanned.2]
        exact shorter

theorem length_scanEscape {cs rest : List Char} {c : Char}
    (scanned : scanEscape cs = .ok (c, rest)) :
    rest.length < cs.length := by
  unfold scanEscape at scanned
  split at scanned
  · cases scanned
  · have shorter := length_scanUnicode scanned
    simp only [List.length_cons]
    omega
  · split at scanned
    · cases scanned
      simp
    · cases scanned

/-- The characters of a string up to its closing quote, after the opening one. -/
def scanString : List Char → Except Fault (List Char × List Char)
  | [] => .error .cut
  | '"' :: cs => .ok ([], cs)
  | '\\' :: cs =>
    match escape : scanEscape cs with
    | .error reason => .error reason
    | .ok (c, rest) =>
      have : rest.length < cs.length := length_scanEscape escape
      match scanString rest with
      | .error reason => .error reason
      | .ok (text, after) => .ok (c :: text, after)
  | c :: cs =>
    if c.toNat < 0x20 then .error .malformed
    else
      match scanString cs with
      | .error reason => .error reason
      | .ok (text, after) => .ok (c :: text, after)
termination_by cs => cs.length

theorem length_scanString {cs text rest : List Char}
    (scanned : scanString cs = .ok (text, rest)) :
    rest.length < cs.length := by
  fun_induction scanString cs generalizing text rest with
  | case1 => cases scanned
  | case2 cs =>
    cases scanned
    simp
  | case3 => cases scanned
  | case4 => cases scanned
  | case5 cs c middle escape shorter inner after string inductionHypothesis =>
    cases scanned
    have smaller := inductionHypothesis string
    simp only [List.length_cons]
    omega
  | case6 => cases scanned
  | case7 => cases scanned
  | case8 c cs _ _ _ inner after string inductionHypothesis =>
    cases scanned
    have smaller := inductionHypothesis string
    simp only [List.length_cons]
    omega

/-- The rest of a text after the remaining letters of a word. -/
def scanWord : List Char → List Char → Except Fault (List Char)
  | [], cs => .ok cs
  | _ :: _, [] => .error .cut
  | letter :: letters, c :: cs => if c = letter then scanWord letters cs else .error .malformed

theorem length_scanWord {letters cs rest : List Char}
    (scanned : scanWord letters cs = .ok rest) :
    rest.length ≤ cs.length := by
  fun_induction scanWord letters cs with
  | case1 =>
    cases scanned
    exact Nat.le_refl _
  | case2 => cases scanned
  | case3 letter letters cs inductionHypothesis =>
    have smaller := inductionHypothesis scanned
    simp only [List.length_cons]
    omega
  | case4 => cases scanned

/-- A number, valued. -/
def scanNumber (cs : List Char) : Except Fault (Number × List Char) :=
  match Numeral.scan cs with
  | .error reason => .error reason
  | .ok (numeral, rest) =>
    match numeral.value with
    | .error reason => .error reason
    | .ok value => .ok (value, rest)

theorem length_scanDigits {cs digits rest : List Char}
    (scanned : Numeral.scanDigits cs = .ok (digits, rest)) :
    rest.length < cs.length := by
  unfold Numeral.scanDigits at scanned
  split at scanned
  · cases scanned
  · rename_i found nonempty
    cases scanned
    have whole := congrArg List.length
      (List.takeWhile_append_dropWhile (p := Text.isDigit) (l := cs))
    rw [List.length_append] at whole
    have positive : 0 < (cs.takeWhile Text.isDigit).length :=
      List.length_pos_iff.mpr (fun empty => nonempty empty)
    omega

theorem length_scanWhole {cs digits rest : List Char}
    (scanned : Numeral.scanWhole cs = .ok (digits, rest)) :
    rest.length < cs.length := by
  unfold Numeral.scanWhole at scanned
  split at scanned
  · cases scanned
  · cases scanned
  · rename_i parts _ found
    cases scanned
    exact length_scanDigits found

theorem length_scanFraction {cs rest : List Char} {fraction : Option (List Char)}
    (scanned : Numeral.scanFraction cs = .ok (fraction, rest)) :
    rest.length ≤ cs.length := by
  unfold Numeral.scanFraction at scanned
  split at scanned
  · split at scanned
    · cases scanned
    · rename_i found
      cases scanned
      have shorter := length_scanDigits found
      simp only [List.length_cons]
      omega
  · cases scanned
    exact Nat.le_refl _

theorem length_scanSign (cs : List Char) : (Numeral.scanSign cs).2.length ≤ cs.length := by
  unfold Numeral.scanSign
  split <;> simp

theorem length_scanExponent {cs rest : List Char} {exponent : Option (Bool × List Char)}
    (scanned : Numeral.scanExponent cs = .ok (exponent, rest)) :
    rest.length ≤ cs.length := by
  unfold Numeral.scanExponent at scanned
  split at scanned
  · cases scanned
    exact Nat.le_refl _
  · rename_i c tail
    split at scanned
    · split at scanned
      · cases scanned
      · rename_i found
        cases scanned
        have shorter := length_scanDigits found
        have sign := length_scanSign tail
        simp only [List.length_cons]
        omega
    · cases scanned
      exact Nat.le_refl _

theorem length_scanNumeral {cs rest : List Char} {numeral : Numeral}
    (scanned : Numeral.scan cs = .ok (numeral, rest)) :
    rest.length < cs.length := by
  unfold Numeral.scan at scanned
  split at scanned
  rename_i negative unsigned split_sign
  have sign : unsigned.length ≤ cs.length := by
    split at split_sign <;> cases split_sign <;> simp
  split at scanned
  · cases scanned
  · rename_i found
    have whole := length_scanWhole found
    split at scanned
    · cases scanned
    · rename_i found
      have fraction := length_scanFraction found
      split at scanned
      · cases scanned
      · rename_i found
        have exponent := length_scanExponent found
        cases scanned
        omega

theorem length_scanNumber {cs rest : List Char} {value : Number}
    (scanned : scanNumber cs = .ok (value, rest)) :
    rest.length < cs.length := by
  unfold scanNumber at scanned
  split at scanned
  · cases scanned
  · rename_i found
    split at scanned
    · cases scanned
    · cases scanned
      exact length_scanNumeral found

/-- What stands at the front of a text that does not start with a blank: a token and the rest, or
the fault that ends the list. -/
def next (c : Char) (cs : List Char) : Token × List Char :=
  match c with
  | '[' => (.openArray, cs)
  | ']' => (.closeArray, cs)
  | '\x7b' => (.openObject, cs)
  | '\x7d' => (.closeObject, cs)
  | ',' => (.comma, cs)
  | ':' => (.colon, cs)
  | 'n' => word "ull".toList .null
  | 't' => word "rue".toList (.bool true)
  | 'f' => word "alse".toList (.bool false)
  | '"' =>
    match scanString cs with
    | .ok (text, rest) => (.string (String.ofList text), rest)
    | .error reason => (.fault reason true, [])
  | c =>
    if c = '-' ∨ Text.isDigit c then
      match scanNumber (c :: cs) with
      | .ok (value, rest) => (.number value, rest)
      | .error reason => (.fault reason false, [])
    else (.fault .malformed false, [])
where
  /-- A word whose first letter is read. -/
  word (letters : List Char) (token : Token) : Token × List Char :=
    match scanWord letters cs with
    | .ok rest => (token, rest)
    | .error reason => (.fault reason false, [])

theorem length_next_word (cs letters : List Char) (token : Token) :
    (next.word cs letters token).2.length ≤ cs.length := by
  unfold next.word
  split
  · rename_i scanned
    exact length_scanWord scanned
  · simp

theorem length_next (c : Char) (cs : List Char) : (next c cs).2.length ≤ cs.length := by
  unfold next
  split
  case h_10 =>
    split
    · rename_i scanned
      exact Nat.le_of_lt (length_scanString scanned)
    · simp
  case h_11 =>
    split
    · split
      · rename_i scanned
        have shorter := length_scanNumber scanned
        simp only [List.length_cons] at shorter
        exact Nat.le_of_lt_succ shorter
      · simp
    · simp
  all_goals first
    | exact Nat.le_refl _
    | exact length_next_word ..

/-- The tokens of a text. A fault is the last one. -/
def scan : List Char → List Token
  | [] => []
  | c :: cs =>
    if isSpace c then scan cs
    else
      have : (next c cs).2.length ≤ cs.length := length_next c cs
      (next c cs).1 :: scan (next c cs).2
termination_by cs => cs.length

end Token

end Marquee.Json
