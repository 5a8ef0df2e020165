import Marquee.Command.Perform

/-!
# The command line

The first argument picks the tool, and the others are its arguments. A program is played in real
time; everything else is done at once.
-/

namespace Marquee

def readFile? (path : String) : IO (Option (Array UInt8)) := do
  try
    let content ← IO.FS.readBinFile path
    return some content.data
  catch _ => return none

/-- What a folder holds, down to some depth, if it can be read. -/
def readFolder? : Nat → String → IO (Option Folder)
  | 0, _ => return none
  | depth + 1, path => do
    try
      let folder ← IO.FS.realPath path
      let mut entries : Folder := []
      for found in ← folder.readDir do
        let name := found.fileName
        match ← readFile? found.path.toString with
        | some content => entries := entries ++ [(name, .file content)]
        | none =>
          if let some inner ← readFolder? depth found.path.toString then
            entries := entries ++ [(name, .folder inner)]
      return some entries
    catch _ => return none

/-- Reads what a command needs. Animations lie in the folders of a folder. -/
def readView (command : Command) : IO FileView := do
  let files ← command.files.mapM fun path => return (path, ← readFile? path)
  let folders ← command.folders.mapM fun path => return (path, ← readFolder? 2 path)
  return ⟨fun path => (files.lookup path).join, fun path => (folders.lookup path).join⟩

/-- Prints and writes what a command came to, and gives the exit status. -/
def conclude (outcome : Outcome) : IO UInt32 := do
  IO.print outcome.output
  match outcome.written with
  | none => return UInt32.ofNat outcome.status
  | some (path, content) =>
    try
      IO.FS.writeFile path content
      return UInt32.ofNat outcome.status
    catch error =>
      IO.eprintln s!"Error: {error}"
      return 1

/-- Plays a program piece by piece, in step with the clock. -/
partial def playLive (begun : Nat) (playback : Playback) : IO UInt32 := do
  match (playback.moveTo ((← IO.monoMsNow) - begun)).next with
  | .shown text after =>
    IO.print text
    (← IO.getStdout).flush
    playLive begun after
  | .moved after =>
    let elapsed := (← IO.monoMsNow) - begun
    IO.sleep (UInt32.ofNat (after.preview.now - elapsed))
    playLive begun after
  | .ended report =>
    IO.print (playback.screen ++ "\n" ++ report.text)
    return 0
  | .stuck => return 1

def performLive (command : Command) : IO UInt32 := do
  let view ← readView command
  match command with
  | .play input assets timeout seed =>
    let drawn ← IO.rand 0 (signedLimit - 1)
    let chosen := seed.getD (UInt64.ofNat drawn)
    match Command.playback? view input assets (some chosen) with
    | none => conclude .failure
    | some (playback, .noProgram _) =>
      conclude (.print (playback.screen ++ "\n" ++ Command.nothingToRun))
    | some (playback, .program content) =>
      let opening := playback.screen ++ "\n"
      if Command.isBeyondClock timeout then conclude (.breakOff opening)
      else
        IO.print opening
        playLive (← IO.monoMsNow) (playback.run content timeout)
  | other => conclude (other.perform view)

def runTool (tool : Tool) (arguments : List String) : IO UInt32 := do
  match tool.readArguments arguments with
  | .perform command => performLive command
  | request =>
    if request = .misuse then IO.eprint tool.usage
    conclude (tool.perform (Entry.view .empty) arguments)

end Marquee

/-- The command line: `blocks` or `panel`, and the arguments of that tool. -/
def main (arguments : List String) : IO UInt32 :=
  match arguments with
  | "blocks" :: rest => Marquee.runTool .blocks rest
  | "panel" :: rest => Marquee.runTool .panel rest
  | _ => do
    IO.eprintln "Usage: blocks|panel <command> [arguments]"
    return 2
