import Marquee.Json.Basic
import Marquee.Text.Numeral

/-!
# Reading JSON numbers

A number is cut into its parts first, and then valued. Digits are gathered into a significand of at
most 64 bits; those that no longer fit only shift the decimal exponent. An integer that fits 64 bits
stays one; everything else is the product or quotient of the significand and a power of ten, in
binary64. Minus zero is a binary64 number.
-/

namespace Marquee.Json

/-- Why a text is not JSON: it ends too early, or it holds something that cannot stand there. -/
inductive Fault where
  | cut
  | malformed
  deriving DecidableEq, Repr

/-- What a missing part means before this rest of the text. -/
def Fault.before : List Char → Fault
  | [] => .cut
  | _ :: _ => .malformed

structure Numeral where
  negative : Bool
  whole : List Char
  /-- The digits after the point, if there is one. -/
  fraction : Option (List Char)
  /-- Whether the exponent is negative, and its digits, if there is one. -/
  exponent : Option (Bool × List Char)

namespace Numeral

/-- Splits the digits off the front of a text that must start with one. -/
def scanDigits (cs : List Char) : Except Fault (List Char × List Char) :=
  match cs.takeWhile Text.isDigit with
  | [] => .error (.before cs)
  | digits => .ok (digits, cs.dropWhile Text.isDigit)

/-- The whole part: a single zero, or digits that do not start with one. -/
def scanWhole (cs : List Char) : Except Fault (List Char × List Char) :=
  match scanDigits cs with
  | .error fault => .error fault
  | .ok ('0' :: _ :: _, _) => .error .malformed
  | .ok parts => .ok parts

def scanFraction : List Char → Except Fault (Option (List Char) × List Char)
  | '.' :: cs =>
    match scanDigits cs with
    | .error fault => .error fault
    | .ok (digits, rest) => .ok (some digits, rest)
  | cs => .ok (none, cs)

def scanSign : List Char → Bool × List Char
  | '-' :: cs => (true, cs)
  | '+' :: cs => (false, cs)
  | cs => (false, cs)

/-- An exponent mark, a sign and the digits after it. -/
def scanExponent (cs : List Char) : Except Fault (Option (Bool × List Char) × List Char) :=
  match cs with
  | [] => .ok (none, [])
  | c :: tail =>
    if c = 'e' ∨ c = 'E' then
      match scanDigits (scanSign tail).2 with
      | .error fault => .error fault
      | .ok (digits, rest) => .ok (some ((scanSign tail).1, digits), rest)
    else .ok (none, cs)

def scan (cs : List Char) : Except Fault (Numeral × List Char) :=
  let (negative, unsigned) :=
    match cs with
    | '-' :: tail => (true, tail)
    | _ => (false, cs)
  match scanWhole unsigned with
  | .error fault => .error fault
  | .ok (whole, afterWhole) =>
    match scanFraction afterWhole with
    | .error fault => .error fault
    | .ok (fraction, afterFraction) =>
      match scanExponent afterFraction with
      | .error fault => .error fault
      | .ok (exponent, rest) => .ok (⟨negative, whole, fraction, exponent⟩, rest)

/-- Gathers digits behind a significand as long as 64 bits hold it; answers what was gathered and
how many digits were left over. -/
def gather : Nat → List Char → Nat × Nat
  | significand, [] => (significand, 0)
  | significand, c :: cs =>
    let next := 10 * significand + Text.digitValue c
    if next < longLimit then gather next cs else (significand, cs.length + 1)

def powerOfTen (exponent : Nat) : Float :=
  Float.ofScientific 1 false exponent

/-- Scales a magnitude by a power of ten. The largest power is the 308th: a larger one overflows
anything but zero, and a smaller one than its inverse is reached in several divisions. -/
def scale : Nat → Float → Int → Option Float
  | 0, value, _ => some value
  | fuel + 1, value, exponent =>
    if exponent.natAbs ≤ 308 then
      if 0 ≤ exponent then
        let scaled := value * powerOfTen exponent.natAbs
        if scaled.isInf then none else some scaled
      else some (value / powerOfTen exponent.natAbs)
    else if value == 0.0 then some value
    else if 0 ≤ exponent then none
    else scale fuel (value / powerOfTen 308) (exponent + 308)

/-- The binary64 number `significand * 10 ^ exponent`, with a sign. -/
def float (negative : Bool) (significand : Nat) (exponent : Int) : Except Fault Number :=
  match scale (exponent.natAbs / 308 + 2) (UInt64.ofNat significand).toFloat exponent with
  | none => .error .malformed
  | some magnitude =>
    .ok (.float (if negative then (-magnitude).toBits else magnitude.toBits))

/-- The first exponent that 32 bits with a sign do not hold. -/
def exponentLimit : Nat := 0x80000000

/-- The value of a number. An exponent beyond that limit makes zero of it, unless it would make it
infinite. -/
def value (n : Numeral) : Except Fault Number :=
  let (whole, spilled) := gather 0 n.whole
  let (significand, shift) : Nat × Int :=
    match n.fraction with
    | none => (whole, spilled)
    | some digits =>
      let (significand, unread) := gather whole digits
      (significand, (spilled : Int) - (digits.length - unread : Nat))
  match n.exponent with
  | some (negativeExponent, digits) =>
    let exponent := Text.valueOf digits
    if exponent < exponentLimit then
      let signed : Int := if negativeExponent then -(exponent : Int) else exponent
      float n.negative significand (shift + signed)
    else if significand ≠ 0 ∧ negativeExponent = false then .error .malformed
    else float n.negative 0 0
  | none =>
    if n.fraction.isSome || spilled != 0 then float n.negative significand shift
    else if n.negative = false then .ok (.int significand)
    else if significand = 0 ∨ signedLimit < significand then float true significand 0
    else .ok (.int (-(significand : Int)))

end Numeral

end Marquee.Json
