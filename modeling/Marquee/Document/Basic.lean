import Marquee.Document.LoadError
import Marquee.Program.Links
import Marquee.Program.Walk
import Marquee.Program.Writer

/-!
# Documents

What a file holds: a program, or the reason why there is none.
-/

namespace Marquee

/-- The reason that is written when an editor has no start block. -/
def noStartBlock : String :=
  "No start block found"

/-- The content of a file. -/
inductive Document where
  | program (program : Program)
  | noProgram (reason : String)
  deriving DecidableEq

namespace Document

def toProgram : Document → Except LoadError Program
  | .program content => .ok content
  | .noProgram reason => .error (.noProgram reason)

def stripIds : Document → Document
  | .program content => .program content.stripIds
  | .noProgram reason => .noProgram reason

/-- Whether two documents hold equal programs, or give the same reason for holding none. -/
def same : Document → Document → Bool
  | .program content, .program other => content.same other
  | .noProgram reason, .noProgram other => reason == other
  | _, _ => false

def copy : Document → Document
  | .program content => .program content.copy
  | .noProgram reason => .noProgram reason

def toJson : Document → Json
  | .program content => content.toJson
  | .noProgram reason => .object (.cons "error" (.string reason) .nil)

def compact (document : Document) : String :=
  document.toJson.compact

def pretty (document : Document) : String :=
  document.toJson.pretty

end Document

end Marquee
