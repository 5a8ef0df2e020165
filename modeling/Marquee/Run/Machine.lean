import Marquee.Run.Evaluate
import Marquee.Run.PinBank

/-!
# The machine that runs a program

The machine keeps what is still to be done as a stack of tasks, the most urgent first, and works
through it in small steps. A step asks for at most one thing from outside: a call of the panel, a
pin, a rest, or a turn for others. Once its run is stopped the machine only drops tasks.
-/

namespace Marquee

inductive PanelCall where
  | clear
  | image (filename : String)
  | frame (folder : String) (index : Nat)
  | color (text : String)
  | indicator (pin : UInt8) (high : Bool)
  deriving DecidableEq, Repr, Inhabited

structure Animation where
  folder : String
  /-- The number of its frames, which is positive. -/
  frames : Nat
  /-- For how long it plays, in milliseconds. -/
  playFor : Nat
  startedAt : Nat
  shown : Nat
  deriving DecidableEq, Repr

namespace Animation

def nanosPerMilli : Nat := 1000000

/-- For how long a frame is shown, in nanoseconds: an equal share of the whole. More frames than 32
bits count do not make the share smaller. -/
def frameNanos (animation : Animation) : Nat :=
  animation.playFor * nanosPerMilli / min animation.frames (wordLimit - 1)

/-- The rest after a frame, in whole milliseconds, rounded up. -/
def frameMillis (animation : Animation) : Nat :=
  (animation.frameNanos + (nanosPerMilli - 1)) / nanosPerMilli

def frame (animation : Animation) : PanelCall :=
  .frame animation.folder (animation.shown % animation.frames)

def advance (animation : Animation) : Animation :=
  { animation with shown := animation.shown + 1 }

end Animation

inductive Task where
  | chain (statements : Chain)
  /-- Let others have a turn. -/
  | yield
  | rest (milliseconds : Nat)
  /-- Execute a body this many times. -/
  | times (left : Nat) (body : Chain)
  | forever (body : Chain)
  | whileHolds (condition : Input) (body : Chain)
  | animation (animation : Animation)
  deriving DecidableEq

/-- What a step asks from outside. -/
inductive Request where
  | nothing
  | call (call : PanelCall)
  /-- Set a pin, and then show it. -/
  | drive (pin : UInt8) (high : Bool)
  | rest (milliseconds : Nat)
  | yield
  deriving DecidableEq, Repr

/-- What a step can see of the outside. -/
structure Scene where
  /-- The time, in milliseconds. -/
  now : Nat
  stopped : Bool
  pins : PinBank
  /-- The number of frames of an animation; an unknown one has none. -/
  frames : String → Nat
  palette : List String

/-- A machine: what is to be done, the variables, the dice, and how many statements were begun. -/
structure Machine where
  tasks : List Task
  store : Variables
  dice : Dice
  executed : Nat

/-- The color text that stands for a color picked at random. -/
def randomColor : String :=
  "RANDOM"

namespace Machine

def start (statements : Chain) (dice : Dice) : Machine :=
  ⟨[.chain statements], .empty, dice, 0⟩

def push (machine : Machine) (tasks : List Task) : Machine :=
  { machine with tasks := tasks ++ machine.tasks }

def evaluate (machine : Machine) (input : Input) : Value × Machine :=
  let (value, dice) := input.evaluate machine.store machine.dice
  (value, { machine with dice })

/-- The text of a color input, unless it is empty. A color block gives its channels here. -/
def colorText (machine : Machine) (input : Input) : Option String × Machine :=
  match input with
  | .empty => (none, machine)
  | .block _ (.rgbColor color) => (some color.channels, machine)
  | input =>
    let (value, after) := machine.evaluate input
    (some value.shown, after)

def setColor (scene : Scene) (machine : Machine) (input : Input) : Request × Machine :=
  match machine.colorText input with
  | (none, after) => (.nothing, after)
  | (some text, after) =>
    if text = randomColor then
      match after.dice.pick scene.palette with
      | (some picked, dice) => (.call (.color picked), { after with dice })
      | (none, dice) => (.nothing, { after with dice })
    else (.call (.color text), after)

def execute (scene : Scene) (machine : Machine) : Statement → Request × Machine
  | .displayImage filename => (.call (.image filename), machine)
  | .playAnimation folder playFor =>
    let frames := scene.frames folder
    if frames = 0 then (.nothing, machine)
    else (.nothing, machine.push [.animation ⟨folder, frames, playFor.toNat, scene.now, 0⟩])
  | .wait time =>
    let (value, after) := machine.evaluate time
    (.nothing, after.push [.rest value.toNumber.toInt.toNat])
  | .setColor color => machine.setColor scene color
  | .setVariable name input =>
    let (value, after) := machine.evaluate input
    (.nothing, { after with store := after.store.set name value })
  | .gpio pin level =>
    if maxPin < pin then (.nothing, machine) else (.drive pin level.isHigh, machine)
  | .branch condition whenTrue whenFalse =>
    let (value, after) := machine.evaluate condition
    (.nothing, after.push [.chain (if value.isTruthy then whenTrue else whenFalse)])
  | .gpioBranch pin level whenTrue whenFalse =>
    let holds := scene.pins.isHigh pin == level.isHigh
    (.nothing, machine.push [.chain (if holds then whenTrue else whenFalse)])
  | .repeatLoop times body =>
    let (value, after) := machine.evaluate times
    (.nothing, after.push [.times value.toNumber.toInt.toNat body])
  | .forever body => (.nothing, machine.push [.forever body])
  | .whileLoop condition body => (.nothing, machine.push [.whileHolds condition body])
  | .breakLoop => (.nothing, machine)
  | .gpioTrigger _ _ _ => (.nothing, machine)
  | .start _ => (.nothing, machine)
  | .value _ => (.nothing, machine)

/-- Performs a task that is off the stack. -/
def perform (scene : Scene) (machine : Machine) : Task → Request × Machine
  | .chain .nil => (.nothing, machine)
  | .chain (.link _ statement next) =>
    if scene.stopped then (.nothing, machine)
    else
      { machine.push [.chain next] with executed := machine.executed + 1 }.execute scene statement
  | .yield => (.yield, machine)
  | .rest milliseconds =>
    if scene.stopped ∨ milliseconds = 0 then (.nothing, machine)
    else (.rest milliseconds, machine)
  | .times 0 _ => (.nothing, machine)
  | .times (left + 1) body =>
    if scene.stopped then (.nothing, machine)
    else (.nothing, machine.push [.chain body, .yield, .times left body])
  | .forever body =>
    if scene.stopped then (.nothing, machine)
    else (.nothing, machine.push [.chain body, .yield, .forever body])
  | .whileHolds condition body =>
    if scene.stopped then (.nothing, machine)
    else
      let (value, after) := machine.evaluate condition
      if value.isTruthy then
        (.nothing, after.push [.chain body, .yield, .whileHolds condition body])
      else (.nothing, after)
  | .animation animation =>
    if scene.stopped ∨ animation.playFor ≤ scene.now - animation.startedAt then
      (.nothing, machine)
    else
      let after : List Task :=
        if animation.frameNanos = 0 then [.yield, .animation animation.advance]
        else [.rest animation.frameMillis, .animation animation.advance]
      (.call animation.frame, machine.push after)

/-- Takes a step, unless nothing is left to be done. -/
def step (scene : Scene) (machine : Machine) : Option (Request × Machine) :=
  match machine.tasks with
  | [] => none
  | task :: rest => some ({ machine with tasks := rest }.perform scene task)

end Machine

end Marquee
