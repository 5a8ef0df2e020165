/-!
# Integers of fixed width

The bounds of the integers of 8, 32 and 64 bits, and the way from an unbounded integer to a bounded
one, which answers `none` for an integer that does not fit.
-/

namespace Marquee

/-- The first natural number that 8 bits do not hold. -/
abbrev byteLimit : Nat := 0x100

/-- The first natural number that 32 bits do not hold. -/
abbrev wordLimit : Nat := 0x100000000

/-- The first natural number that 64 bits do not hold. -/
abbrev longLimit : Nat := 0x10000000000000000

/-- The first natural number that 64 bits with a sign do not hold. -/
abbrev signedLimit : Nat := 0x8000000000000000

def toInt64? (n : Int) : Option Int64 :=
  if -(signedLimit : Int) ≤ n ∧ n < (signedLimit : Int) then some (Int64.ofInt n) else none

def toUInt64? (n : Nat) : Option UInt64 :=
  if n < longLimit then some (UInt64.ofNat n) else none

def toByte? (n : Nat) : Option UInt8 :=
  if n < byteLimit then some (UInt8.ofNat n) else none

end Marquee
