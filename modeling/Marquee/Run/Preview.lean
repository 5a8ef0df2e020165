import Marquee.Document.Basic
import Marquee.Run.Machine
import Marquee.Run.Status

/-!
# The preview

A preview runs programs on a panel, one at a time: starting one stops the one before. Runs take
turns. A turn lasts until the run rests, gives way or ends; when all runs rest, time moves on to
the next instant at which one wakes. Stopping a run wakes it at once, and all that is left for it
is to end.

Time is a number of milliseconds that nothing else moves. What happens outside while a call of the
panel is made, a stop or a pin that changes, is given beforehand by the number of the call.
-/

namespace Marquee

/-- Something that happens outside while a call of the panel is made. -/
inductive Reaction where
  | stop
  | setPin (pin : UInt8) (high : Bool)
  deriving DecidableEq, Repr

/-- The colors that a random color is picked from, unless others are given. -/
def defaultPalette : List String :=
  ["#FF0000", "#00FF00", "#0000FF", "#FFFF00", "#FF00FF", "#00FFFF", "#FFFFFF"]

/-- What a preview is given to work with. -/
structure PreviewSettings where
  /-- The pause between stopping a run and starting the next, in milliseconds. -/
  settle : Nat
  color : String
  palette : List String
  /-- The number of frames of an animation; an unknown one has none. -/
  frames : String → Nat
  /-- The dice of a run, by its number. -/
  dice : Nat → Dice
  /-- What happens outside during a call of the panel, by its number; the first has number one. -/
  reactions : Nat → List Reaction

instance : Inhabited PreviewSettings :=
  ⟨⟨100, "#FFFFFF", defaultPalette, fun _ => 0, fun _ => default, fun _ => []⟩⟩

structure Run where
  machine : Machine
  startedAt : Nat
  /-- When the run was stopped, by itself or from outside. -/
  stoppedAt : Option Nat
  wakesAt : Option Nat
  /-- The report, once the run has ended. -/
  report : Option RunReport

namespace Run

def isLive (run : Run) : Bool :=
  run.stoppedAt.isNone

/-- Stops the run. Only the first stop counts. -/
def stop (run : Run) (now : Nat) : Run :=
  { run with stoppedAt := some (run.stoppedAt.getD now) }

def elapsed (run : Run) (now : Nat) : Nat :=
  run.stoppedAt.getD now - run.startedAt

/-- Whether the run can take a turn: it has not ended, and it does not rest. A stopped run does not
rest any more. -/
def isReady (run : Run) (now : Nat) : Bool :=
  run.report.isNone &&
    match run.wakesAt with
    | none => true
    | some wakesAt => wakesAt ≤ now || !run.isLive

def wake? (run : Run) : Option Nat :=
  if run.report.isNone then run.wakesAt else none

/-- Ends the run. Ending stops it, and it was cancelled if it had been stopped before. -/
def finish (run : Run) (now : Nat) : Run :=
  { run.stop now with
    report := some ⟨run.machine.executed, run.elapsed now, !run.isLive⟩ }

end Run

structure Preview where
  settings : PreviewSettings
  now : Nat
  pins : PinBank
  /-- The calls of the panel so far, each with its time. -/
  calls : Array (Nat × PanelCall)
  /-- All runs that were started, by number. -/
  runs : Array Run
  current : Option Nat

namespace Preview

/-- A preview that has not done anything yet. -/
def start (settings : PreviewSettings) (pins : PinBank) : Preview :=
  ⟨settings, 0, pins, #[], #[], none⟩

def modifyRun (preview : Preview) (number : Nat) (change : Run → Run) : Preview :=
  { preview with runs := preview.runs.modify number change }

def stopRun (preview : Preview) (number : Nat) : Preview :=
  preview.modifyRun number fun run => run.stop preview.now

def stop (preview : Preview) : Preview :=
  match preview.current with
  | some number => preview.stopRun number
  | none => preview

def currentRun? (preview : Preview) : Option Run :=
  preview.current.bind fun number => preview.runs[number]?

def status (preview : Preview) : RunStatus :=
  match preview.currentRun? with
  | none => .stopped 0
  | some run =>
    if run.isLive then .running (run.elapsed preview.now) else .stopped (run.elapsed preview.now)

def isRunning (preview : Preview) : Bool :=
  preview.status.isRunning

def isRunLive (preview : Preview) (number : Nat) : Bool :=
  (preview.runs[number]?.map Run.isLive).getD false

/-- The report of a run that has ended. -/
def report? (preview : Preview) (number : Nat) : Option RunReport :=
  preview.runs[number]?.bind Run.report

def setPin (preview : Preview) (pin : UInt8) (high : Bool) : Preview :=
  { preview with pins := preview.pins.set pin high }

def togglePin (preview : Preview) (pin : UInt8) : Preview :=
  { preview with pins := preview.pins.toggle pin }

def react (preview : Preview) : Reaction → Preview
  | .stop => preview.stop
  | .setPin pin high => preview.setPin pin high

/-- Calls the panel, and lets happen outside what does so meanwhile. -/
def call (preview : Preview) (panelCall : PanelCall) : Preview :=
  let called := { preview with calls := preview.calls.push (preview.now, panelCall) }
  (preview.settings.reactions called.calls.size).foldl react called

def scene (preview : Preview) (run : Run) : Scene :=
  { now := preview.now
    stopped := !run.isLive
    pins := preview.pins
    frames := preview.settings.frames
    palette := preview.settings.palette }

/-- Grants a request of a run. Also says whether its turn goes on. -/
def grant (preview : Preview) (number : Nat) : Request → Preview × Bool
  | .nothing => (preview, true)
  | .call panelCall => (preview.call panelCall, true)
  | .drive pin high => ((preview.setPin pin high).call (.indicator pin high), true)
  | .rest milliseconds =>
    let wakesAt := preview.now + milliseconds
    (preview.modifyRun number fun run => { run with wakesAt := some wakesAt }, false)
  | .yield => (preview, false)

/-- Takes one step of a run that is ready. Also says whether its turn goes on. -/
def step (preview : Preview) (number : Nat) : Preview × Bool :=
  match preview.runs[number]? with
  | none => (preview, false)
  | some run =>
    if run.isReady preview.now then
      match run.machine.step (preview.scene run) with
      | none => (preview.modifyRun number fun run => run.finish preview.now, false)
      | some (request, machine) =>
        (preview.modifyRun number fun run => { run with machine, wakesAt := none }).grant number
          request
    else (preview, false)

/-- Gives a run its turn, of at most this many steps. -/
def turn (number : Nat) : Nat → Preview → Preview
  | 0, preview => preview
  | steps + 1, preview =>
    match preview.step number with
    | (after, true) => turn number steps after
    | (after, false) => after

def readyRuns (preview : Preview) : List Nat :=
  (List.range preview.runs.size).filter fun number =>
    match preview.runs[number]? with
    | some run => run.isReady preview.now
    | none => false

/-- Gives every run that is ready a turn, in the order of their numbers. -/
def round (steps : Nat) (preview : Preview) : Preview :=
  preview.readyRuns.foldl (fun preview number => preview.turn number steps) preview

def nextWake? (preview : Preview) : Option Nat :=
  (preview.runs.toList.filterMap Run.wake?).min?

/-- Moves time on to an instant that is not over. -/
def moveTo (preview : Preview) (instant : Nat) : Preview :=
  { preview with now := max preview.now instant }

/-- How many steps and rounds runs are given to come to rest, which is more than any run needs that
ever rests. -/
def patience : Nat := 1000000000

/-- Lets the runs go on until an instant, in at most this many rounds. -/
def passUntil (instant : Nat) : Nat → Preview → Preview
  | 0, preview => preview.moveTo instant
  | rounds + 1, preview =>
    if preview.readyRuns.isEmpty then
      match preview.nextWake? with
      | some wakesAt =>
        if wakesAt < instant then passUntil instant rounds (preview.moveTo wakesAt)
        else preview.moveTo instant
      | none => preview.moveTo instant
    else passUntil instant rounds (preview.round patience)

/-- Lets the runs go on for some milliseconds. -/
def sleep (preview : Preview) (milliseconds : Nat) : Preview :=
  if milliseconds = 0 then preview
  else preview.passUntil (preview.now + milliseconds) patience

/-- Lets the runs go on until one of them has ended, in at most this many rounds. -/
def passToEnd (number : Nat) : Nat → Preview → Preview
  | 0, preview => preview
  | rounds + 1, preview =>
    if (preview.report? number).isSome then preview
    else if preview.readyRuns.isEmpty then
      match preview.nextWake? with
      | some wakesAt => passToEnd number rounds (preview.moveTo wakesAt)
      | none => preview
    else passToEnd number rounds (preview.round patience)

/-- Lets the runs go on until one of them has ended. -/
def finish (preview : Preview) (number : Nat) : Preview :=
  preview.passToEnd number patience

/-- Makes the panel ready and installs a run of these statements as the current one. -/
def install (preview : Preview) (statements : Chain) : Preview :=
  let ready := (preview.call (.color preview.settings.color)).call .clear
  let machine := Machine.start statements (ready.settings.dice ready.runs.size)
  { ready with
    runs := ready.runs.push ⟨machine, ready.now, none, none, none⟩
    current := some ready.runs.size }

/-- Starts a program. A run that is going on is stopped first, and the panel given time to
settle. -/
def run (preview : Preview) (program : Program) : Preview :=
  if preview.isRunning then
    (preview.stop.sleep preview.settings.settle).install program.actions
  else preview.install program.actions

/-- Starts the program of a document, if it has one. -/
def runDocument (preview : Preview) : Document → Preview
  | .program program => preview.run program
  | .noProgram _ => preview

end Preview

end Marquee
