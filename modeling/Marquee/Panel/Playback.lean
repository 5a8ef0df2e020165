import Marquee.Panel.Simulated

/-!
# Playing a program on the panel

A playback is a preview together with the simulated panel that it draws on. It goes on in pieces:
the runs take their turns, or time moves on to when there is something to do. Whenever the panel was
redrawn its screen is shown, with the status below it.
-/

namespace Marquee

structure Playback where
  preview : Preview
  panel : SimulatedPanel
  /-- How many calls of the preview the panel has taken. -/
  taken : Nat
  deadline : Option Nat

/-- What a piece of a playback comes to. -/
inductive Playback.Piece where
  | ended (report : RunReport)
  /-- Something was shown, or nothing if the text is empty. -/
  | shown (text : String) (playback : Playback)
  | moved (playback : Playback)
  /-- Nothing will ever happen again. -/
  | stuck

namespace Playback

def new (library : FrameLibrary) (dice : Dice) : Playback :=
  { preview := Preview.start { library.settings with dice := fun _ => dice } .low
    panel := .new library
    taken := 0
    deadline := none }

def screen (playback : Playback) : String :=
  playback.panel.draw playback.preview.pins

/-- Hands the calls that the preview has made to the panel, and shows it if it was redrawn. -/
def refresh (playback : Playback) : String × Playback :=
  let calls := (playback.preview.calls.toList.drop playback.taken).map Prod.snd
  let after :=
    { playback with
      panel := playback.panel.takeAll calls
      taken := playback.preview.calls.size }
  let text :=
    if after.panel.redraws = playback.panel.redraws then ""
    else after.screen ++ after.preview.status.text ++ "\n"
  (text, after)

/-- Starts a program, to be stopped after some seconds if it has not ended. -/
def run (playback : Playback) (program : Program) (timeout : Option UInt64) : Playback :=
  let preview := playback.preview.run program
  { playback with
    preview
    deadline := timeout.map fun seconds => preview.now + 1000 * seconds.toNat }

def stop (playback : Playback) : Playback :=
  { playback with preview := playback.preview.stop, deadline := none }

/-- Moves time on, and stops the program at its deadline. -/
def moveTo (playback : Playback) (instant : Nat) : Playback :=
  match playback.deadline with
  | some deadline =>
    if deadline ≤ instant then
      { playback with preview := playback.preview.moveTo deadline }.stop
    else { playback with preview := playback.preview.moveTo instant }
  | none => { playback with preview := playback.preview.moveTo instant }

def next (playback : Playback) : Piece :=
  if playback.taken < playback.preview.calls.size then
    let (text, after) := playback.refresh
    .shown text after
  else
    match playback.preview.report? 0 with
    | some report => .ended report
    | none =>
      if playback.preview.readyRuns.isEmpty then
        match playback.preview.nextWake?, playback.deadline with
        | some instant, _ => .moved (playback.moveTo instant)
        | none, some deadline => .moved (playback.moveTo deadline)
        | none, none => .stuck
      else .moved { playback with preview := playback.preview.round Preview.patience }

/-- Plays to the end, in at most this many pieces. Gives all that was shown and the report. -/
def play : Nat → String → Playback → String × Option RunReport
  | 0, shown, _ => (shown, none)
  | pieces + 1, shown, playback =>
    match playback.next with
    | .ended report => (shown ++ playback.screen ++ "\n", some report)
    | .shown text after => play pieces (shown ++ text) after
    | .moved after => play pieces shown after
    | .stuck => (shown, none)

end Playback

def RunReport.text (report : RunReport) : String :=
  "Preview finished!\nBlocks executed: " ++ toString report.executed ++ "\nRun time: " ++
    elapsedText report.elapsed ++ "\n" ++
    if report.cancelled then "(stopped before the program ended)\n" else ""

end Marquee
