import Marquee.Run.Dice
import Marquee.Run.Value

/-!
# Evaluating inputs

An input evaluates to a value and uses up draws. The left side of a comparison comes before the
right one. An empty input is zero, and a color is its text.
-/

namespace Marquee

mutual

/-- The value of an input, and the dice after it. -/
def Input.evaluate (store : Variables) : Input → Dice → Value × Dice
  | .empty, dice => (.zero, dice)
  | .number value, dice => (.number value, dice)
  | .text text, dice => (.text text, dice)
  | .block _ expression, dice => expression.evaluate store dice

/-- The value of a value block, and the dice after it. -/
def Expression.evaluate (store : Variables) : Expression → Dice → Value × Dice
  | .number value, dice => (.number value, dice)
  | .randomRange min max, dice =>
    let (value, rest) := dice.drawBetween min max
    (.number value, rest)
  | .getVariable name, dice => (store.get name, dice)
  | .compare left relation right, dice =>
    let (leftValue, afterLeft) := left.evaluate store dice
    let (rightValue, afterRight) := right.evaluate store afterLeft
    (.bool (relation.holds leftValue rightValue), afterRight)
  | .colorValue color, dice => (.text color, dice)
  | .customColor color, dice => (.text color, dice)
  | .rgbColor color, dice => (.text color.hex, dice)

end

end Marquee
