import Marquee.Panel.Indicators
import Marquee.Panel.Library
import Marquee.Run.Preview

/-!
# The simulated panel

A panel that draws on a display in memory, logs what it is asked for, and counts how often it had to
be redrawn. A picture that is missing or broken shows as the error pattern. The levels of its
indicators are those of the pins themselves.
-/

namespace Marquee

/-- Something that a panel was asked for, with what came of it. -/
inductive PanelEvent where
  | cleared
  | image (filename : String) (found : Bool)
  | frame (animation : String) (index : Nat)
  | color (text : String) (color : Color)
  | indicator (pin : UInt8) (high : Bool)
  deriving DecidableEq, Repr

structure SimulatedPanel where
  library : FrameLibrary
  display : Display
  events : Array PanelEvent
  redraws : Nat
  deriving DecidableEq

namespace SimulatedPanel

def new (library : FrameLibrary) : SimulatedPanel :=
  ⟨library, Display.new.showMarkers, #[], 0⟩

def redraw (panel : SimulatedPanel) (event : PanelEvent) (display : Display) : SimulatedPanel :=
  { panel with
    display := display.redrawn
    events := panel.events.push event
    redraws := panel.redraws + 1 }

/-- Does what a call asks for. A color takes effect with the next drawing. -/
def take (panel : SimulatedPanel) : PanelCall → SimulatedPanel
  | .clear => panel.redraw .cleared panel.display.clear
  | .image filename =>
    let data := panel.library.image? filename
    panel.redraw (.image filename data.isSome) (panel.display.drawOrError data)
  | .frame folder index =>
    panel.redraw (.frame folder index)
      (panel.display.drawOrError (panel.library.frame? folder index))
  | .color text =>
    let color := Color.parse text
    { panel with
      display := panel.display.setColor color
      events := panel.events.push (.color text color) }
  | .indicator pin high => panel.redraw (.indicator pin high) panel.display

/-- Does what several calls ask for, one after the other. -/
def takeAll (panel : SimulatedPanel) (calls : List PanelCall) : SimulatedPanel :=
  calls.foldl take panel

/-- The panel in characters: its display and its indicators. -/
def draw (panel : SimulatedPanel) (pins : PinBank) : String :=
  panel.display.draw ++ "GPIO " ++ Indicators.line pins ++ "\n"

end SimulatedPanel

/-- The settings of a preview on a panel with this library. -/
def FrameLibrary.settings (library : FrameLibrary) : PreviewSettings :=
  { (default : PreviewSettings) with frames := library.frameCount }

end Marquee
