/-!
# Status and report of a run

Times are in milliseconds. They are shown in minutes and seconds, each with two digits at least;
the minutes go on past 99.
-/

namespace Marquee

def twoDigits (n : Nat) : String :=
  if n < 10 then "0" ++ toString n else toString n

def elapsedText (milliseconds : Nat) : String :=
  let seconds := milliseconds / 1000
  twoDigits (seconds / 60) ++ ":" ++ twoDigits (seconds % 60)

/-- Whether a run is going on, and for how long it has, or had, been. -/
inductive RunStatus where
  | running (elapsed : Nat)
  | stopped (elapsed : Nat)
  deriving DecidableEq, Repr, Inhabited

namespace RunStatus

def isRunning : RunStatus → Bool
  | running _ => true
  | stopped _ => false

def text : RunStatus → String
  | running elapsed => "Running " ++ elapsedText elapsed
  | stopped elapsed => "Stopped " ++ elapsedText elapsed

end RunStatus

/-- What is said about a run that has ended. -/
structure RunReport where
  executed : Nat
  elapsed : Nat
  /-- Whether it was stopped before the program ended. -/
  cancelled : Bool
  deriving DecidableEq, Repr, Inhabited

end Marquee
