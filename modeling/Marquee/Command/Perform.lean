import Marquee.Command.Arguments
import Marquee.Document.Reader
import Marquee.Editor.Load
import Marquee.Editor.Save
import Marquee.Panel.Playback
import Marquee.Program.Outline

/-!
# What commands do

A command is a function of the files that it reads. It comes to an exit status, the text it prints,
and the file it writes. A command that fails prints nothing.
-/

namespace Marquee

structure FileView where
  file : String → Option (Array UInt8)
  folder : String → Option Folder

def Entry.view (root : Entry) : FileView :=
  ⟨root.file?, root.folder?⟩

structure Outcome where
  status : Nat
  output : String
  /-- A file to be written, with its content. -/
  written : Option (String × String)
  deriving DecidableEq, Repr

namespace Outcome

def print (output : String) : Outcome :=
  ⟨0, output, none⟩

def write (path content : String) : Outcome :=
  ⟨0, "", some (path, content)⟩

def failure : Outcome :=
  ⟨1, "", none⟩

def misuse : Outcome :=
  ⟨2, "", none⟩

/-- A command that breaks off after it has printed a text. -/
def breakOff (output : String) : Outcome :=
  ⟨101, output, none⟩

def ofOption (outcome : Option Outcome) : Outcome :=
  outcome.getD failure

end Outcome

namespace FileView

def text? (view : FileView) (path : String) : Option String :=
  (view.file path).bind fun content => String.fromUTF8? ⟨content⟩

def document? (view : FileView) (path : String) : Option Document := do
  let text ← view.text? path
  (Document.parse text).toOption

end FileView

def padRight (width : Nat) (text : String) : String :=
  text ++ String.ofList (List.replicate (width - text.length) ' ')

def Kind.line (kind : Kind) : String :=
  let shape := if kind.isValue then "value" else "statement"
  "  " ++ padRight 14 kind.name ++ " " ++ padRight 9 shape ++ " - " ++ kind.description ++ "\n"

def LoadReport.text (report : LoadReport) : String :=
  "  created: " ++ toString report.created ++ "\n  reused:  " ++ toString report.reused ++
    "\n  skipped: " ++ toString report.skipped ++ "\n"

/-- The canonical form of a document: what an editor saves after loading it. -/
def Document.canonical (document : Document) : Document :=
  match document with
  | .program content => (content.load Workspace.sink Workspace.empty).2.save
  | .noProgram _ => Workspace.empty.save

def Document.drawOutline : Document → String
  | .program content => content.drawOutline
  | .noProgram reason => "(no program: " ++ reason ++ ")\n"

namespace Command

def files : Command → List String
  | .check input => [input]
  | .outline input => [input]
  | .format input _ _ => [input]
  | .kinds => []
  | .play input _ _ _ => [input]
  | .view frame _ => [frame]

def folders : Command → List String
  | .play _ (some assets) _ _ => [assets]
  | _ => []

/-- How many pieces a playback may have. -/
def pieceLimit : Nat := 100000

def performCheck (view : FileView) (input : String) : Option Outcome := do
  let document ← view.document? input
  let program ← document.toProgram.toOption
  let (_, report) ← (program.load Workspace.sink Workspace.empty).1.toOption
  return .print <|
    input ++ ": " ++ toString program.size ++ " nodes\n" ++ report.text

def performFormat (view : FileView) (input : String) (stripIds : Bool) (output : Option String) :
    Option Outcome := do
  let document ← view.document? input
  let canonical := document.canonical
  let text := (if stripIds then canonical.stripIds else canonical).pretty ++ "\n"
  match output with
  | some path => return .write path text
  | none => return .print text

/-- The library of a folder of assets; without one it is empty. -/
def library? (view : FileView) : Option String → Option FrameLibrary
  | none => some .empty
  | some path => (view.folder path).map FrameLibrary.ofFolder

/-- A playback of a document that is about to start, and the program to run on it. -/
def playback? (view : FileView) (input : String) (assets : Option String) (seed : Option UInt64) :
    Option (Playback × Document) := do
  let document ← view.document? input
  let library ← library? view assets
  return (Playback.new library (Dice.ofSeed (seed.getD 0)), document)

/-- Whether the clock cannot hold the instant of a timeout. It counts seconds in 64 bits with a
sign, and is past its first one. -/
def isBeyondClock : Option UInt64 → Bool
  | some seconds => signedLimit ≤ seconds.toNat + 1
  | none => false

def nothingToRun : String :=
  "Nothing to run: no start block found\n"

/-- Runs a program on the simulated panel, without waiting. The command breaks off at a timeout
beyond the clock. -/
def performPlay (view : FileView) (input : String) (assets : Option String)
    (timeout seed : Option UInt64) : Option Outcome := do
  let (playback, document) ← playback? view input assets seed
  let opening := playback.screen ++ "\n"
  match document with
  | .noProgram _ => return .print (opening ++ nothingToRun)
  | .program content =>
    if isBeyondClock timeout then return .breakOff opening
    else
      let (shown, report) := Playback.play pieceLimit "" (playback.run content timeout)
      let closing := (report.map RunReport.text).getD ""
      return .print (opening ++ shown ++ closing)

/-- Shows a frame; one of the wrong size shows as the error pattern. -/
def performView (view : FileView) (frame color : String) : Option Outcome := do
  let content ← view.file frame
  return .print ((Display.new.setColor (Color.parse color)).drawOrError (some content)).draw

def perform (view : FileView) : Command → Outcome
  | .check input => .ofOption (performCheck view input)
  | .outline input =>
    .ofOption ((view.document? input).map fun document => .print document.drawOutline)
  | .format input stripIds output => .ofOption (performFormat view input stripIds output)
  | .kinds => .print ("Block kinds:\n" ++ String.join (Kind.all.map Kind.line))
  | .play input assets timeout seed => .ofOption (performPlay view input assets timeout seed)
  | .view frame color => .ofOption (performView view frame color)

end Command

namespace Tool

def usage (tool : Tool) : String :=
  "Usage: " ++ tool.name ++ " <" ++ "|".intercalate ((Command.menu tool).map Prod.fst) ++
    "> [arguments]\n"

def perform (tool : Tool) (view : FileView) (arguments : List String) : Outcome :=
  match tool.readArguments arguments with
  | .perform command => command.perform view
  | .version => .print (tool.name ++ " " ++ toolVersion ++ "\n")
  | .help => .print tool.usage
  | .misuse => .misuse

end Tool

end Marquee
