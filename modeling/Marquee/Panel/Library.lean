import Marquee.Folder
import Marquee.Panel.Display
import Marquee.Table
import Marquee.Text.Numeral
import Marquee.Text.Order

/-!
# The frame library

The images and animations that a panel can show, by name. They are loaded from a folder: its frame
files are images, and each of its sub-folders is an animation of the frame files in it. Frames are
in the order of the first number in their names, and by name where those are equal.
-/

namespace Marquee

structure FrameLibrary where
  images : Table FrameData
  animations : Table (List FrameData)
  deriving DecidableEq, Inhabited

namespace FrameLibrary

def empty : FrameLibrary :=
  ⟨.empty, .empty⟩

def image? (library : FrameLibrary) (name : String) : Option FrameData :=
  library.images.get? name

def frame? (library : FrameLibrary) (animation : String) (index : Nat) : Option FrameData :=
  (library.animations.get? animation).bind fun frames => frames[index]?

/-- The number of frames of an animation; an unknown one has none. -/
def frameCount (library : FrameLibrary) (animation : String) : Nat :=
  ((library.animations.get? animation).map List.length).getD 0

def sortedNames (names : List String) : List String :=
  names.mergeSort Text.upTo

def imageNames (library : FrameLibrary) : List String :=
  sortedNames library.images.names

def animationNames (library : FrameLibrary) : List String :=
  sortedNames library.animations.names

/-- What comes after the last point of a name that does not start with it. -/
def extension? (name : String) : Option String :=
  let reversed := name.toList.reverse
  match reversed.dropWhile (· != '.') with
  | '.' :: _ :: _ => some (String.ofList (reversed.takeWhile (· != '.')).reverse)
  | _ => none

/-- Whether a name is that of a frame file, in letters of either case. -/
def isFrameName (name : String) : Bool :=
  match extension? name with
  | some found => ["raw", "bmp"].contains (String.ofList (found.toList.map Char.toLower))
  | none => false

/-- The first number in a name. A name without digits has the number zero, and so has one whose
number needs more than 64 bits. -/
def frameNumber (name : String) : Nat :=
  let digits := (name.toList.dropWhile fun c => !Text.isDigit c).takeWhile Text.isDigit
  ((Text.readUInt64 digits).map UInt64.toNat).getD 0

/-- Whether one frame file comes before another, or is the same. -/
def frameBefore (left right : String × FrameData) : Bool :=
  let leftNumber := frameNumber left.1
  let rightNumber := frameNumber right.1
  leftNumber < rightNumber || (leftNumber == rightNumber && Text.upTo left.1 right.1)

def frameFiles (folder : Folder) : List (String × FrameData) :=
  folder.filterMap fun
    | (name, .file content) => if isFrameName name then some (name, content) else none
    | (_, .folder _) => none

def framesOf (folder : Folder) : List FrameData :=
  ((frameFiles folder).mergeSort frameBefore).map Prod.snd

/-- Adds what a folder holds under a name: an image, or an animation unless it has no frames. -/
def addEntry (library : FrameLibrary) : String × Entry → FrameLibrary
  | (name, .file content) =>
    if isFrameName name then { library with images := library.images.set name content }
    else library
  | (name, .folder entries) =>
    match framesOf entries with
    | [] => library
    | frames => { library with animations := library.animations.set name frames }

def ofFolder (folder : Folder) : FrameLibrary :=
  folder.foldl addEntry empty

end FrameLibrary

end Marquee
