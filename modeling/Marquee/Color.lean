import Marquee.Text.Hex
import Marquee.Text.Numeral

/-!
# Colors

A color has a byte for each of its channels. It is written as a hexadecimal number in either case
or as a list of channels, and read from both.
-/

namespace Marquee

structure Color where
  red : UInt8
  green : UInt8
  blue : UInt8
  deriving DecidableEq, Repr, Inhabited

namespace Color

/-- The color of the panel when nothing else is said. -/
def white : Color :=
  ⟨255, 255, 255⟩

def pureRed : Color :=
  ⟨255, 0, 0⟩

/-- A hash and six lower-case digits. -/
def hex (color : Color) : String :=
  String.ofList <|
    '#' :: Text.hexPair color.red ++ Text.hexPair color.green ++ Text.hexPair color.blue

/-- A hash and six upper-case digits. -/
def hexUpper (color : Color) : String :=
  String.ofList <|
    '#' :: Text.hexPairUpper color.red ++ Text.hexPairUpper color.green ++
      Text.hexPairUpper color.blue

def channelText (channel : UInt8) : List Char :=
  Nat.toDigits 10 channel.toNat

def channels (color : Color) : String :=
  String.ofList <|
    ['r', 'g', 'b', '('] ++ channelText color.red ++ [',', ' '] ++ channelText color.green ++
      [',', ' '] ++ channelText color.blue ++ [')']

/-- The number whose bytes are the channels, red the highest. -/
def toNat (color : Color) : Nat :=
  (color.red.toNat * 256 + color.green.toNat) * 256 + color.blue.toNat

def splitCommas : List Char → List (List Char)
  | [] => [[]]
  | c :: cs =>
    if c = ',' then [] :: splitCommas cs
    else
      match splitCommas cs with
      | [] => [[c]]
      | part :: parts => (c :: part) :: parts

/-- The text between `rgb(` and a closing parenthesis. -/
def channelList? : List Char → Option (List Char)
  | 'r' :: 'g' :: 'b' :: '(' :: cs =>
    match cs.reverse with
    | ')' :: inner => some inner.reverse
    | _ => none
  | _ => none

/-- A channel in decimal, between blanks. -/
def readChannel (cs : List Char) : Option UInt8 :=
  Text.readByte (Text.trim cs)

/-- A channel of two characters: two hexadecimal digits, or one after a plus sign. -/
def readHexPair (high low : Char) : Option UInt8 := do
  let units ← Text.hexValue? low
  if high = '+' then return UInt8.ofNat units
  else
    let sixteens ← Text.hexValue? high
    return UInt8.ofNat (16 * sixteens + units)

/-- Six characters, two a channel, with an optional hash in front. -/
def readHex (cs : List Char) : Option Color :=
  let digits :=
    match cs with
    | '#' :: rest => rest
    | _ => cs
  match digits with
  | [a, b, c, d, e, f] => do
    let red ← readHexPair a b
    let green ← readHexPair c d
    let blue ← readHexPair e f
    return ⟨red, green, blue⟩
  | _ => none

def parse? (text : String) : Option Color :=
  let cs := Text.trim text.toList
  match channelList? cs with
  | some inner =>
    match splitCommas inner with
    | [first, second, third] => do
      let red ← readChannel first
      let green ← readChannel second
      let blue ← readChannel third
      return ⟨red, green, blue⟩
    | _ => none
  | none => readHex cs

/-- Reads a color; a text that is none stands for white. -/
def parse (text : String) : Color :=
  (parse? text).getD white

end Color

end Marquee
