import Marquee.Panel.Simulated
import Marquee.Proofs.Panel.Pixels

/-!
# The screen of a panel

What a panel shows depends on the last call that drew something and on the color that was set before
it, and on nothing else: not on what was drawn earlier, and not on the colors and the levels that
came later.
-/

namespace Marquee

namespace Display

/-- The number of each pixel of a picture in a color. -/
def inColor (color : Color) (picture : Vector Bool pixelCount) : List Nat :=
  picture.toList.map fun isOn => if isOn then color.toNat else 0

/-- The numbers of the screen before anything is drawn. -/
def idleScreen : List Nat :=
  inColor .white (drawing fun x y => markers.contains (x, y))

def errorScreen : List Nat :=
  inColor .pureRed errorPattern

/-- The numbers of the screen of a frame, if there is one and it has the right size. -/
def frameScreen (color : Color) : Option FrameData → List Nat
  | some frame => if frame.size = 96 then inColor color (decode frame) else errorScreen
  | none => errorScreen

private theorem buffer_clear (display : Display) :
    display.clear.buffer = List.replicate pixelCount 0 := by
  simp [buffer, clear, blank, Vector.toList_replicate]

private theorem buffer_present (display : Display) (picture : Vector Bool pixelCount)
    (ink : Color) :
    (display.present picture ink).buffer = inColor ink picture :=
  rfl

private theorem buffer_showError (display : Display) : display.showError.buffer = errorScreen := by
  rw [showError, buffer_present, errorScreen]

private theorem drawOrError_none (display : Display) :
    display.drawOrError none = display.showError :=
  rfl

private theorem drawOrError_of_size_ne {display : Display} {frame : FrameData}
    (size : frame.size ≠ frameBytes) : display.drawOrError (some frame) = display.showError := by
  rw [drawOrError, Option.bind_some, drawFrame?, if_neg size, Option.getD_none]

private theorem drawOrError_of_size {display : Display} {frame : FrameData}
    (size : frame.size = frameBytes) :
    display.drawOrError (some frame) = display.present (decode frame) display.color := by
  rw [drawOrError, Option.bind_some, drawFrame?, if_pos size, Option.getD_some]

private theorem buffer_drawOrError (display : Display) (data : Option FrameData) :
    (display.drawOrError data).buffer = frameScreen display.color data := by
  cases data with
  | none => exact display.buffer_showError
  | some frame =>
      by_cases size : frame.size = 96
      · rw [drawOrError_of_size size, buffer_present, frameScreen, if_pos size]
      · rw [drawOrError_of_size_ne size, buffer_showError, frameScreen, if_neg size]

private theorem color_present (display : Display) (picture : Vector Bool pixelCount) (ink : Color) :
    (display.present picture ink).color = display.color :=
  rfl

/-- A drawing does not change the color of the next one. -/
theorem color_drawOrError (display : Display) (data : Option FrameData) :
    (display.drawOrError data).color = display.color := by
  cases data with
  | none => rw [drawOrError_none, showError, color_present]
  | some frame =>
      by_cases size : frame.size = frameBytes
      · rw [drawOrError_of_size size, color_present]
      · rw [drawOrError_of_size_ne size, showError, color_present]

end Display

namespace PanelCall

/-- The color that a call sets for the drawings after it. -/
def color? : PanelCall → Option Color
  | .color text => some (Color.parse text)
  | _ => none

/-- The color that is in force on a new panel after some calls: the last one that was set. -/
def inForce (calls : List PanelCall) : Color :=
  (calls.filterMap color?).getLast?.getD .white

/-- What a call draws in a color, as the numbers of the screen. -/
def drawn? (library : FrameLibrary) (color : Color) : PanelCall → Option (List Nat)
  | .clear => some (List.replicate 768 0)
  | .image filename => some (Display.frameScreen color (library.image? filename))
  | .frame folder index => some (Display.frameScreen color (library.frame? folder index))
  | .color _ => none
  | .indicator _ _ => none

/-- Whether a call leaves the screen as it is. -/
def isStill : PanelCall → Bool
  | .color _ => true
  | .indicator _ _ => true
  | _ => false

/-- What the log says of a call. -/
def event (library : FrameLibrary) : PanelCall → PanelEvent
  | .clear => .cleared
  | .image filename => .image filename (library.image? filename).isSome
  | .frame folder index => .frame folder index
  | .color text => .color text (Color.parse text)
  | .indicator pin high => .indicator pin high

private theorem drawn?_eq_none {call : PanelCall} (still : call.isStill) (library : FrameLibrary)
    (color : Color) : call.drawn? library color = none := by
  cases call with
  | clear => contradiction
  | image filename => contradiction
  | frame folder index => contradiction
  | color text => rfl
  | indicator pin high => rfl

end PanelCall

namespace SimulatedPanel

private theorem library_take (panel : SimulatedPanel) (call : PanelCall) :
    (panel.take call).library = panel.library := by
  cases call <;> rfl

theorem color_take (panel : SimulatedPanel) (call : PanelCall) :
    (panel.take call).display.color = call.color?.getD panel.display.color := by
  cases call with
  | clear => rfl
  | image filename => exact Display.color_drawOrError _ _
  | frame folder index => exact Display.color_drawOrError _ _
  | color text => rfl
  | indicator pin high => rfl

/-- A call that draws nothing leaves the screen as it is. -/
theorem buffer_take (panel : SimulatedPanel) (call : PanelCall) :
    (panel.take call).display.buffer =
      (call.drawn? panel.library panel.display.color).getD panel.display.buffer := by
  cases call with
  | clear => exact panel.display.buffer_clear
  | image filename => exact panel.display.buffer_drawOrError _
  | frame folder index => exact panel.display.buffer_drawOrError _
  | color text => rfl
  | indicator pin high => rfl

private theorem events_take (panel : SimulatedPanel) (call : PanelCall) :
    (panel.take call).events = panel.events.push (call.event panel.library) := by
  cases call <;> rfl

private theorem redraws_take (panel : SimulatedPanel) (call : PanelCall) :
    (panel.take call).redraws = panel.redraws + if call.color?.isNone then 1 else 0 := by
  cases call <;> rfl

private theorem takeAll_cons (panel : SimulatedPanel) (call : PanelCall) (calls : List PanelCall) :
    panel.takeAll (call :: calls) = (panel.take call).takeAll calls :=
  rfl

theorem takeAll_append (panel : SimulatedPanel) (before after : List PanelCall) :
    panel.takeAll (before ++ after) = (panel.takeAll before).takeAll after :=
  List.foldl_append

private theorem library_takeAll (panel : SimulatedPanel) (calls : List PanelCall) :
    (panel.takeAll calls).library = panel.library := by
  induction calls generalizing panel with
  | nil => rfl
  | cons call rest inductionHypothesis =>
      rw [takeAll_cons, inductionHypothesis, library_take]

private theorem color_takeAll (panel : SimulatedPanel) (calls : List PanelCall) :
    (panel.takeAll calls).display.color =
      (calls.filterMap PanelCall.color?).getLast?.getD panel.display.color := by
  induction calls generalizing panel with
  | nil => rfl
  | cons call rest inductionHypothesis =>
      rw [takeAll_cons, inductionHypothesis, color_take, List.filterMap_cons]
      cases call.color? with
      | none => rfl
      | some color => simp [List.getLast?_cons]

private theorem buffer_takeAll (panel : SimulatedPanel) {calls : List PanelCall}
    (still : ∀ call ∈ calls, call.isStill) :
    (panel.takeAll calls).display.buffer = panel.display.buffer := by
  induction calls generalizing panel with
  | nil => rfl
  | cons call rest inductionHypothesis =>
      have first := still call List.mem_cons_self
      have others := inductionHypothesis (panel.take call)
        fun later member => still later (List.mem_cons_of_mem call member)
      rw [takeAll_cons, others, buffer_take, PanelCall.drawn?_eq_none first, Option.getD_none]

private theorem events_takeAll (panel : SimulatedPanel) (calls : List PanelCall) :
    (panel.takeAll calls).events.toList =
      panel.events.toList ++ calls.map (PanelCall.event panel.library) := by
  induction calls generalizing panel with
  | nil => simp [takeAll]
  | cons call rest inductionHypothesis =>
      rw [takeAll_cons, inductionHypothesis, library_take, events_take, Array.toList_push,
        List.append_assoc, List.singleton_append, List.map_cons]

private theorem redraws_takeAll (panel : SimulatedPanel) (calls : List PanelCall) :
    (panel.takeAll calls).redraws = panel.redraws + calls.countP (·.color?.isNone) := by
  induction calls generalizing panel with
  | nil => rfl
  | cons call rest inductionHypothesis =>
      rw [takeAll_cons, inductionHypothesis, redraws_take, List.countP_cons]
      omega

/-- The calls after the last drawing leave the screen as that drawing left it. -/
theorem buffer_takeAll_append (panel : SimulatedPanel) (before : List PanelCall) (call : PanelCall)
    {after : List PanelCall} (still : ∀ later ∈ after, later.isStill) :
    (panel.takeAll (before ++ call :: after)).display.buffer =
      ((panel.takeAll before).take call).display.buffer := by
  rw [takeAll_append, takeAll_cons, buffer_takeAll _ still]

/-- The screen after some calls on a new panel is what the last drawing among them drew in the color
that was in force then: nothing at all, the frame that was asked for, or the error pattern in red if
that is missing or broken. The log has an event for each call, and each of them but those that set a
color makes the panel redraw. -/
theorem screen_of_last_drawing (library : FrameLibrary) (calls : List PanelCall) :
    let panel := (new library).takeAll calls
    (∀ before call after shown, calls = before ++ call :: after →
      call.drawn? library (PanelCall.inForce before) = some shown →
      (∀ later ∈ after, later.isStill) → panel.display.buffer = shown) ∧
    ((∀ call ∈ calls, call.isStill) → panel.display.buffer = Display.idleScreen) ∧
    panel.events.toList = calls.map (PanelCall.event library) ∧
    panel.redraws = calls.countP (·.color?.isNone) := by
  intro panel
  refine ⟨?_, ?_, ?_, ?_⟩
  · intro before call after shown parts drawing still
    have known : ((new library).takeAll before).library = library := library_takeAll _ _
    have color : ((new library).takeAll before).display.color = PanelCall.inForce before :=
      color_takeAll _ _
    subst parts
    rw [buffer_takeAll_append _ _ _ still, buffer_take, known, color, drawing, Option.getD_some]
  · intro still
    exact (new library).buffer_takeAll still
  · exact (new library).events_takeAll calls
  · have count := (new library).redraws_takeAll calls
    rwa [new, Nat.zero_add] at count

end SimulatedPanel

end Marquee
