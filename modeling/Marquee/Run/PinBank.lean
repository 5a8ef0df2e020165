/-!
# GPIO pins

The bank holds the levels of the pins 0 to 40. A pin outside of it reads low and cannot be set.
-/

namespace Marquee

def pinCount : Nat := 41

/-- The levels of the pins; a pin that is on is high. -/
structure PinBank where
  levels : Vector Bool pinCount
  deriving DecidableEq

namespace PinBank

def low : PinBank :=
  ⟨Vector.replicate pinCount false⟩

instance : Inhabited PinBank :=
  ⟨low⟩

def has (pin : UInt8) : Bool :=
  pin.toNat < pinCount

def isHigh (bank : PinBank) (pin : UInt8) : Bool :=
  bank.levels[pin.toNat]?.getD false

/-- Sets a pin; one outside the bank is ignored. -/
def set (bank : PinBank) (pin : UInt8) (high : Bool) : PinBank :=
  ⟨bank.levels.setIfInBounds pin.toNat high⟩

def toggle (bank : PinBank) (pin : UInt8) : PinBank :=
  bank.set pin !bank.isHigh pin

/-- The pins that are high, in ascending order. -/
def highPins (bank : PinBank) : List Nat :=
  (List.range pinCount).filter fun pin => bank.levels[pin]?.getD false

/-- A pin of the bank reads as it was set, and the others as before. -/
theorem isHigh_set (bank : PinBank) (pin other : UInt8) (high : Bool) :
    (bank.set pin high).isHigh other =
      if other = pin ∧ has pin then high else bank.isHigh other := by
  simp only [isHigh, set, has, Vector.getElem?_setIfInBounds]
  by_cases equal : other = pin
  · subst equal
    by_cases inside : other.toNat < pinCount <;> simp [inside]
  · have different : pin.toNat ≠ other.toNat := fun same => equal (UInt8.toNat_inj.mp same.symm)
    simp [equal, different]

end PinBank

end Marquee
