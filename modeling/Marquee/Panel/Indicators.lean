import Marquee.Run.PinBank

/-!
# Indicators

The panel shows the levels of the first ten pins, and those can be flipped on it by hand.
-/

namespace Marquee.Indicators

def count : Nat := 10

def has (pin : UInt8) : Bool :=
  pin.toNat < count

/-- Whether the indicator of a pin is lit. -/
def isLit (bank : PinBank) (pin : UInt8) : Bool :=
  has pin && bank.isHigh pin

/-- Flips a pin by hand. Gives its new level, if it has an indicator. -/
def toggle (bank : PinBank) (pin : UInt8) : Option Bool × PinBank :=
  if has pin then (some !bank.isHigh pin, bank.toggle pin) else (none, bank)

def line (bank : PinBank) : String :=
  " ".intercalate <| (List.range count).map fun pin =>
    toString pin ++ ":" ++ if isLit bank (UInt8.ofNat pin) then "H" else "L"

end Marquee.Indicators
