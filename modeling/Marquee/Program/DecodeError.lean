import Marquee.Json.Writer
import Marquee.Text.Quoted

/-!
# Why JSON is not a block

Each way in which the typed fields of a block can fail to decode, with its wording.
-/

namespace Marquee

/-- A value in a few words: its type, and for a scalar what it is. -/
def Json.describe : Json → String
  | .null => "null"
  | .bool value => "boolean `" ++ toString value ++ "`"
  | .number (.int value) => "integer `" ++ toString value ++ "`"
  | .number (.float bits) => "floating point `" ++ (Json.Number.float bits).text ++ "`"
  | .string text => "string " ++ Text.quoted text
  | .array _ => "sequence"
  | .object _ => "map"

/-- What a place of a block asks for. -/
inductive Expected where
  | text
  | int64
  | uint64
  | byte
  | choice
  /-- The empty content of a chosen name that is given as an object. -/
  | unit
  | kind
  | block
  deriving DecidableEq, Repr

def Expected.words : Expected → String
  | text => "a string"
  | int64 => "i64"
  | uint64 => "u64"
  | byte => "u8"
  | choice => "string or map"
  | unit => "unit"
  | kind => "variant identifier"
  | block => "struct Node"

inductive DecodeError where
  | wrongType (found : Json) (expected : Expected)
  | outOfRange (found : Int) (expected : Expected)
  | unknownName (name : String) (known : List String)
  /-- No kind has this position in the vocabulary. -/
  | unknownIndex (index : Int) (count : Nat)
  /-- A choice given as an object must have exactly one key. -/
  | notOneKey
  | noKind
  | notInput
  | notChain
  deriving DecidableEq

/-- Names in backquotes, as alternatives. -/
def nameList : List String → String
  | [first, second] => "`" ++ first ++ "` or `" ++ second ++ "`"
  | names => "one of " ++ ", ".intercalate (names.map fun name => "`" ++ name ++ "`")

def DecodeError.message : DecodeError → String
  | wrongType found expected =>
    "invalid type: " ++ found.describe ++ ", expected " ++ expected.words
  | outOfRange found expected =>
    "invalid value: integer `" ++ toString found ++ "`, expected " ++ expected.words
  | unknownName name known => "unknown variant `" ++ name ++ "`, expected " ++ nameList known
  | unknownIndex index count =>
    "invalid value: integer `" ++ toString index ++ "`, expected variant index 0 <= i < " ++
      toString count
  | notOneKey => "invalid value: map, expected map with a single key"
  | noKind => "missing field `type`"
  | notInput => "data did not match any variant of untagged enum Operand"
  | notChain => "data did not match any variant of untagged enum ChainRepr"

end Marquee
