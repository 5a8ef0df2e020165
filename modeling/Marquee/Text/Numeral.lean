import Marquee.Text.Blank
import Marquee.Width

/-!
# Decimal numerals

Readers of integers written with the ASCII digits. A numeral has at least one digit; leading
zeros do not matter. Bounded readers answer `none` for a value that their type cannot hold.
-/

namespace Marquee.Text

/-- One of the ten ASCII digits. -/
def isDigit (c : Char) : Bool :=
  '0' ≤ c && c ≤ '9'

def digitValue (c : Char) : Nat :=
  c.toNat - '0'.toNat

/-- The number written by digits, the most significant first. -/
def valueOf (digits : List Char) : Nat :=
  digits.foldl (fun value c => 10 * value + digitValue c) 0

/-- A text of one or more digits and nothing else. -/
def readNat (cs : List Char) : Option Nat :=
  if cs.isEmpty || !cs.all isDigit then none else some (valueOf cs)

/-- Digits with an optional sign of either kind. -/
def readInt : List Char → Option Int
  | '-' :: cs => (readNat cs).map fun n => -(n : Int)
  | '+' :: cs => (readNat cs).map fun n => (n : Int)
  | cs => (readNat cs).map fun n => (n : Int)

/-- A signed 64-bit integer, with an optional sign. -/
def readInt64 (cs : List Char) : Option Int64 :=
  readInt cs >>= toInt64?

/-- An unsigned numeral, which may carry a plus sign. -/
def readUnsigned : List Char → Option Nat
  | '+' :: cs => readNat cs
  | cs => readNat cs

def readUInt64 (cs : List Char) : Option UInt64 :=
  readUnsigned cs >>= toUInt64?

def readByte (cs : List Char) : Option UInt8 :=
  readUnsigned cs >>= toByte?

end Marquee.Text
