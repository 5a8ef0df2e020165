import Marquee.Document.Path
import Marquee.Editor.Refusal
import Marquee.Json.Numeral
import Marquee.Program.DecodeError

/-!
# Why a program does not load

A text can fail as JSON, as a document, or as something to build in an editor. The errors in
between, those of a document that is JSON but not a usable program, are its schema errors.
-/

namespace Marquee

/-- A value in two words: its type with an article. -/
def Json.shape : Json → String
  | .null => "null"
  | .bool _ => "a boolean"
  | .number _ => "a number"
  | .string _ => "a string"
  | .array _ => "an array"
  | .object _ => "an object"

/-- What is wrong with the value at a place. -/
inductive SchemaFault where
  | notBlock (found : Json)
  | notBlocks (found : Json)
  | kindNotText (found : Json)
  | notInteger (found : Json.Number)
  /-- A statement stands in a value socket. -/
  | notValue (kind : Kind)
  /-- Nothing that can stand in a value socket. -/
  | notOperand (found : Json)
  | field (error : DecodeError)
  deriving DecidableEq

def SchemaFault.message : SchemaFault → String
  | notBlock found => "expected a block, got " ++ found.shape
  | notBlocks found => "expected a list of blocks, got " ++ found.shape
  | kindNotText found => "type must be a string, got " ++ found.compact
  | notInteger found => "expected an integer, got " ++ found.text
  | notValue kind => kind.name ++ " cannot be used as a value"
  | notOperand found => "expected a number, string or expression, got " ++ found.compact
  | field error => error.message

inductive LoadError where
  | notJson (fault : Json.Fault)
  | unknownKind (name : String)
  | missingKind (path : Path)
  | schema (path : Path) (fault : SchemaFault)
  /-- The root is not a start block. -/
  | notStart (found : Kind)
  | noProgram (reason : String)
  | rootRefused (refusal : Refusal)
  deriving DecidableEq

namespace LoadError

/-- The text was JSON, but not a usable program. -/
def isSchemaError : LoadError → Bool
  | notJson _ => false
  | rootRefused _ => false
  | _ => true

def message : LoadError → String
  | notJson .cut => "Malformed JSON: the text ends too early"
  | notJson .malformed => "Malformed JSON"
  | unknownKind name => "Unknown node kind: " ++ name
  | missingKind path => "Node at " ++ path.text ++ " has no type"
  | schema path fault => "Schema error at " ++ path.text ++ ": " ++ fault.message
  | notStart found => "Program root must be a start block, found " ++ found.name
  | noProgram reason => "No program: " ++ reason
  | rootRefused refusal => "Failed to construct the start block: " ++ refusal.message

end LoadError

end Marquee
