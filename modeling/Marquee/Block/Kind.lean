/-!
# Kinds of blocks

The vocabulary that the editor, the program text and the interpreter share: which blocks there are,
how they are called, how they connect, and which fields and sockets they have.

A block is a statement or a value. Statements stack: all but the start block have a connection to
the block before, and all but the start block and the break have one to the block after. Values
plug into value sockets.
-/

namespace Marquee

inductive Kind where
  | start
  | displayImage
  | playAnimation
  | wait
  | number
  | randomRange
  | branch
  | compare
  | setVariable
  | getVariable
  | forever
  | repeatLoop
  | whileLoop
  | breakLoop
  | gpio
  | gpioBranch
  | gpioTrigger
  | setColor
  | colorValue
  | customColor
  | rgbColor
  deriving DecidableEq, Repr, Inhabited

namespace Kind

/-- All kinds, in the order of the vocabulary. -/
def all : List Kind :=
  [start, displayImage, playAnimation, wait, number, randomRange, branch, compare, setVariable,
    getVariable, forever, repeatLoop, whileLoop, breakLoop, gpio, gpioBranch, gpioTrigger,
    setColor, colorValue, customColor, rgbColor]

/-- The name in program text and in the editor. -/
def name : Kind → String
  | start => "start"
  | displayImage => "display_image"
  | playAnimation => "play_animation"
  | wait => "wait"
  | number => "number"
  | randomRange => "random_range"
  | branch => "if"
  | compare => "compare"
  | setVariable => "set_variable"
  | getVariable => "get_variable"
  | forever => "forever"
  | repeatLoop => "repeat"
  | whileLoop => "while"
  | breakLoop => "break"
  | gpio => "gpio"
  | gpioBranch => "if_gpio"
  | gpioTrigger => "gpio_trigger"
  | setColor => "set_color"
  | colorValue => "color_value"
  | customColor => "custom_color"
  | rgbColor => "rgb_color"

/-- What the block does, in a few words. -/
def description : Kind → String
  | start => "Program entry point"
  | displayImage => "Show a raw image on the panel"
  | playAnimation => "Play an animation folder for a duration"
  | wait => "Pause for a number of milliseconds"
  | number => "Integer literal"
  | randomRange => "Random integer between two bounds"
  | branch => "Branch on a condition"
  | compare => "Compare two numbers"
  | setVariable => "Store a value in a variable"
  | getVariable => "Read a variable"
  | forever => "Loop until stopped"
  | repeatLoop => "Loop a fixed number of times"
  | whileLoop => "Loop while a condition holds"
  | breakLoop => "Break out of loop (reserved)"
  | gpio => "Drive a GPIO pin high or low"
  | gpioBranch => "Branch on a GPIO pin state"
  | gpioTrigger => "Actions for a GPIO edge or level"
  | setColor => "Set the drawing color"
  | colorValue => "Predefined color"
  | customColor => "Hex color"
  | rgbColor => "Color from red, green and blue"

def ofName? (name : String) : Option Kind :=
  all.find? fun kind => kind.name == name

/-- Value blocks. -/
def isValue : Kind → Bool
  | number | randomRange | getVariable | compare | colorValue | customColor | rgbColor => true
  | _ => false

/-- Whether another statement can follow. -/
def hasNext (kind : Kind) : Bool :=
  !kind.isValue && kind != start && kind != breakLoop

/-- Whether the block can follow another statement or head a statement socket. -/
def hasPrevious (kind : Kind) : Bool :=
  !kind.isValue && kind != start

def fields : Kind → List String
  | displayImage => ["FILENAME"]
  | playAnimation => ["FOLDER", "PLAY_FOR"]
  | number => ["NUMBER"]
  | randomRange => ["MIN", "MAX"]
  | compare => ["OPERATOR"]
  | setVariable | getVariable => ["VAR_NAME"]
  | gpio | gpioBranch => ["PIN", "STATE"]
  | gpioTrigger => ["PIN", "TRIGGER"]
  | colorValue | customColor => ["COLOR"]
  | rgbColor => ["RED", "GREEN", "BLUE"]
  | _ => []

/-- The sockets that take a chain of statements. -/
def statementSockets : Kind → List String
  | branch | gpioBranch => ["TRUE", "FALSE"]
  | forever | repeatLoop | whileLoop | gpioTrigger | start => ["DO"]
  | _ => []

def valueSockets : Kind → List String
  | wait => ["TIME"]
  | branch | whileLoop => ["CONDITION"]
  | compare => ["LEFT", "RIGHT"]
  | setVariable => ["VALUE"]
  | repeatLoop => ["TIMES"]
  | setColor => ["COLOR"]
  | _ => []

theorem mem_all (kind : Kind) : kind ∈ all := by
  cases kind <;> decide

theorem ofName?_name (kind : Kind) : ofName? kind.name = some kind := by
  cases kind <;> decide

theorem name_inj {first second : Kind} : first.name = second.name ↔ first = second := by
  refine ⟨fun same => ?_, congrArg name⟩
  rw [← Option.some.injEq, ← ofName?_name first, same, ofName?_name]

theorem name_of_ofName? {name : String} {kind : Kind} (found : ofName? name = some kind) :
    kind.name = name := by
  have equal := List.find?_some found
  simpa using equal

end Kind

end Marquee
