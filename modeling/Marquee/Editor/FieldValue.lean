import Marquee.Text.Numeral

/-!
# Field values

The fields of an editor block hold numbers and texts, and each can be asked for as the other. A
text is read as an integer from its front: blanks, one sign, and then digits up to the first other
character.
-/

namespace Marquee

/-- The value of a field. -/
inductive FieldValue where
  | number (value : Int64)
  | text (text : String)
  deriving DecidableEq, Repr, Inhabited

namespace FieldValue

/-- The digits at the front of a text, as an integer without sign that fits 64 bits. -/
def leadingMagnitude (cs : List Char) : Option Int64 :=
  Text.readInt64 (cs.takeWhile Text.isDigit)

/-- The integer at the front of a text. Its magnitude must fit 64 bits. -/
def leadingInt (cs : List Char) : Option Int64 :=
  match Text.trimStart cs with
  | '-' :: digits => (leadingMagnitude digits).map fun magnitude => -magnitude
  | '+' :: digits => leadingMagnitude digits
  | digits => leadingMagnitude digits

def toInt? : FieldValue → Option Int64
  | number value => some value
  | text literal => leadingInt literal.toList

def toText : FieldValue → String
  | number value => toString value.toInt
  | text literal => literal

end FieldValue

end Marquee
