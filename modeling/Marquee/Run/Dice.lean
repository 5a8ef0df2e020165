/-!
# Random draws

Draws come from an endless sequence of numbers, of which a run uses up one a draw. What a run does
is thus a function of the sequence.
-/

namespace Marquee

/-- A sequence of numbers below `2 ^ 64`, and how many of them are used up. -/
structure Dice where
  sequence : Nat → UInt64
  used : Nat

namespace Dice

instance : Inhabited Dice :=
  ⟨⟨fun _ => 0, 0⟩⟩

/-- Scrambles the bits of a number so that neighbours have nothing in common. -/
def scramble (n : UInt64) : UInt64 :=
  let first := (n ^^^ (n >>> 30)) * 0xBF58476D1CE4E5B9
  let second := (first ^^^ (first >>> 27)) * 0x94D049BB133111EB
  second ^^^ (second >>> 31)

def ofSeed (seed : UInt64) : Dice :=
  ⟨fun index => scramble (seed + (UInt64.ofNat index + 1) * 0x9E3779B97F4A7C15), 0⟩

/-- A number below `count`, which must be positive, and the dice after the draw. -/
def draw (dice : Dice) (count : Nat) : Nat × Dice :=
  ((dice.sequence dice.used).toNat % count, { dice with used := dice.used + 1 })

/-- An integer between two bounds, given in either order, both included. -/
def drawBetween (dice : Dice) (first second : Int64) : Int64 × Dice :=
  let low := min first.toInt second.toInt
  let high := max first.toInt second.toInt
  let (offset, rest) := dice.draw ((high - low).toNat + 1)
  (Int64.ofInt (low + offset), rest)

/-- One of the items of a list. Nothing is drawn from an empty list. -/
def pick {α : Type} (dice : Dice) (items : List α) : Option α × Dice :=
  match items with
  | [] => (none, dice)
  | head :: tail =>
    let (index, rest) := dice.draw (tail.length + 1)
    (some ((head :: tail).getD index head), rest)

def drawMany (dice : Dice) (first second : Int64) : Nat → List Int64 × Dice
  | 0 => ([], dice)
  | count + 1 =>
    let (value, rest) := dice.drawBetween first second
    let (values, last) := rest.drawMany first second count
    (value :: values, last)

end Dice

end Marquee
