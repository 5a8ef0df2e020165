/-!
# The shortest decimal that reads back

A finite binary64 number stands for an interval of reals, all of which round to it. The shortest
decimal is the one with the fewest digits inside that interval, and of those the one nearest to the
number. Everything is computed exactly on natural numbers from the 64 bits of the number.
-/

namespace Marquee.Decimal

/-- The magnitude `significand * 2 ^ exponent` of a finite binary64 number. -/
structure Binary where
  significand : Nat
  exponent : Int
  /-- Whether the next number below is only half as far away as the next one above. -/
  narrowBelow : Bool
  deriving DecidableEq, Repr

/-- The leading bit of a normal significand, which is not stored: the 53rd. -/
def hiddenBit : Nat := 0x10000000000000

def Binary.ofBits (bits : UInt64) : Binary :=
  let fraction : Nat := bits.toNat % hiddenBit
  let power : Nat := bits.toNat / hiddenBit % 2048
  if power = 0 then ⟨fraction, -1074, false⟩
  else ⟨hiddenBit + fraction, (power : Int) - 1075, fraction == 0 && power != 1⟩

/-- The decimal `digits * 10 ^ exponent`. -/
structure Digits where
  digits : Nat
  exponent : Int
  deriving DecidableEq, Repr

/-- The interval that rounds to a number, on a common denominator: each real is `_ / unit`. -/
structure Interval where
  low : Nat
  value : Nat
  high : Nat
  unit : Nat
  closed : Bool

def Interval.of (b : Binary) : Interval :=
  let scale := Nat.pow 2 (b.exponent - 2).toNat
  { low := (4 * b.significand - if b.narrowBelow then 1 else 2) * scale
    value := 4 * b.significand * scale
    high := (4 * b.significand + 2) * scale
    unit := Nat.pow 2 (2 - b.exponent).toNat
    closed := b.significand % 2 == 0 }

/-- Whether `digits * 10 ^ exponent` lies in the interval. -/
def Interval.contains (i : Interval) (d : Digits) : Bool :=
  let point := d.digits * Nat.pow 10 d.exponent.toNat * i.unit
  let scale := Nat.pow 10 (-d.exponent).toNat
  if i.closed then i.low * scale ≤ point && point ≤ i.high * scale
  else i.low * scale < point && point < i.high * scale

/-- The power of ten of the leading digit of a positive value. -/
def Interval.leading (i : Interval) : Int :=
  if i.unit ≤ i.value then ((Nat.toDigits 10 (i.value / i.unit)).length : Int) - 1
  else
    let reaches (shift : Nat) : Bool := i.unit ≤ i.value * Nat.pow 10 (shift + 1)
    match (List.range 330).find? reaches with
    | some shift => -((shift : Int) + 1)
    | none => -330

/-- The point of the grid of multiples of `10 ^ exponent` that stands for the value, if one of its
two neighbours there lies in the interval. The nearer one wins, and the even one of two equally
near ones. -/
def Interval.onGrid (i : Interval) (exponent : Int) : Option Digits :=
  let grid := Nat.pow 10 exponent.toNat * i.unit
  let value := i.value * Nat.pow 10 (-exponent).toNat
  let below : Digits := ⟨value / grid, exponent⟩
  let above : Digits := ⟨value / grid + 1, exponent⟩
  match i.contains below, i.contains above with
  | false, false => none
  | true, false => some below
  | false, true => some above
  | true, true =>
    let past := 2 * (value % grid)
    if past < grid then some below
    else if grid < past then some above
    else if below.digits % 2 = 0 then some below else some above

/-- Moves trailing zeros of the digits into the exponent. -/
def Digits.strip (d : Digits) : Nat → Digits
  | 0 => d
  | fuel + 1 =>
    if d.digits % 10 = 0 ∧ d.digits ≠ 0 then
      Digits.strip ⟨d.digits / 10, d.exponent + 1⟩ fuel
    else d

/-- The shortest decimal of a finite number, given by its bits. Zero has the digit zero. -/
def shortest (bits : UInt64) : Digits :=
  let b := Binary.ofBits bits
  if b.significand = 0 then ⟨0, 0⟩
  else
    let i := Interval.of b
    let leading := i.leading
    let grids := (List.range 17).map fun (count : Nat) => leading - (count : Int)
    match grids.findSome? i.onGrid with
    | some d => d.strip 20
    | none => ⟨b.significand, 0⟩

end Marquee.Decimal
