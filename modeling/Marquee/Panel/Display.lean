import Marquee.Color

/-!
# The display

The display has 24 rows of 32 pixels, each on or off. What is on screen keeps the color it was drawn
in; the current color is that of the next drawing. A frame is a drawing in 96 bytes: a bit for each
pixel, row by row, the highest bit of a byte first.
-/

namespace Marquee

def panelWidth : Nat := 32

def panelHeight : Nat := 24

def pixelCount : Nat := panelWidth * panelHeight

def frameBytes : Nat := pixelCount / 8

/-- The bytes of a frame, or of what should be one. -/
abbrev FrameData :=
  Array UInt8

structure Display where
  /-- Which pixels are on, row by row. -/
  pixels : Vector Bool pixelCount
  color : Color
  /-- The color of what is on screen. -/
  ink : Color
  needsRedraw : Bool
  deriving DecidableEq

namespace Display

/-- A drawing, by column and row. -/
def drawing (isOn : Nat → Nat → Bool) : Vector Bool pixelCount :=
  Vector.ofFn fun index => isOn (index.val % panelWidth) (index.val / panelWidth)

def blank : Vector Bool pixelCount :=
  Vector.replicate pixelCount false

def new : Display :=
  ⟨blank, .white, .white, true⟩

instance : Inhabited Display :=
  ⟨new⟩

def present (display : Display) (pixels : Vector Bool pixelCount) (ink : Color) : Display :=
  { display with pixels, ink, needsRedraw := true }

def setColor (display : Display) (color : Color) : Display :=
  { display with color }

def clear (display : Display) : Display :=
  { display with pixels := blank, needsRedraw := true }

def redrawn (display : Display) : Display :=
  { display with needsRedraw := false }

/-- The bit of a byte at a position, the highest bit first. -/
def bitAt (byte : UInt8) (position : Nat) : Bool :=
  byte.toNat.testBit (7 - position)

/-- The drawing of a frame; missing bytes are off. -/
def decode (frame : FrameData) : Vector Bool pixelCount :=
  Vector.ofFn fun index => bitAt (frame.getD (index.val / 8) 0) (index.val % 8)

def drawFrame? (display : Display) (frame : FrameData) : Option Display :=
  if frame.size = frameBytes then some (display.present (decode frame) display.color) else none

def frameSizeMessage (actual : Nat) : String :=
  "Frame must be " ++ toString frameBytes ++ " bytes, got " ++ toString actual

/-- The error pattern: a border and both diagonals, stretched over the panel. -/
def errorPattern : Vector Bool pixelCount :=
  drawing fun x y =>
    let right := panelWidth - 1
    let bottom := panelHeight - 1
    x == 0 || y == 0 || x == right || y == bottom ||
      x * bottom / right == y || (right - x) * bottom / right == y

def showError (display : Display) : Display :=
  display.present errorPattern .pureRed

def markers : List (Nat × Nat) :=
  [(0, 0), (panelWidth - 1, 0), (0, panelHeight - 1), (panelWidth - 1, panelHeight - 1),
    (panelWidth / 2, panelHeight / 2)]

/-- Shows the idle screen in the current color: the corners and the center. -/
def showMarkers (display : Display) : Display :=
  display.present (drawing fun x y => markers.contains (x, y)) display.color

/-- Draws a frame, or the error pattern if there is none or it has the wrong size. -/
def drawOrError (display : Display) (frame : Option FrameData) : Display :=
  ((frame.bind display.drawFrame?).getD display.showError)

/-- Whether a pixel is on; outside the panel none is. -/
def pixel (display : Display) (x y : Nat) : Bool :=
  if x < panelWidth ∧ y < panelHeight then
    (display.pixels[y * panelWidth + x]?).getD false
  else false

def lit (display : Display) : Nat :=
  display.pixels.toList.countP id

/-- The number of each pixel: that of the ink, or zero if it is off. -/
def buffer (display : Display) : List Nat :=
  display.pixels.toList.map fun isOn => if isOn then display.ink.toNat else 0

/-- The byte of eight pixels, the first in the highest bit. -/
def packByte (bits : List Bool) : UInt8 :=
  UInt8.ofNat (bits.foldl (fun value bit => 2 * value + bit.toNat) 0)

def toFrame (display : Display) : FrameData :=
  Array.ofFn fun index : Fin frameBytes =>
    packByte ((List.range 8).map fun bit => (display.pixels[8 * index.val + bit]?).getD false)

def drawRow (display : Display) (y : Nat) : String :=
  let cells := (List.range panelWidth).map fun x => if display.pixel x y then '█' else ' '
  "│" ++ String.ofList cells ++ "│\n"

/-- The screen in characters, in a frame, with the name of the ink. -/
def draw (display : Display) : String :=
  let edge := String.ofList (List.replicate panelWidth '─')
  "┌" ++ edge ++ "┐ " ++ display.ink.hexUpper ++ "\n" ++
    String.join ((List.range panelHeight).map display.drawRow) ++ "└" ++ edge ++ "┘\n"

end Display

end Marquee
