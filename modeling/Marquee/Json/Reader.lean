import Marquee.Json.Token

/-!
# Reading JSON

The reader takes one token at a time and keeps the containers that are still open on a stack, so
nesting is not limited. A text is read by folding the tokens over the start state; what is wrong is
the first token that cannot stand where it does.
-/

namespace Marquee.Json

/-- A container that is still open. -/
inductive Open where
  /-- An array with the items so far, the last one first. -/
  | array (items : List Json)
  /-- An object with the members so far, and the key whose value is being read. -/
  | object (members : Members) (key : String)

/-- What the reader waits for, and inside which open containers, the innermost first. -/
inductive Reader where
  /-- A value must come. -/
  | value (outer : List Open)
  /-- An array was opened: a value, or its end. -/
  | firstItem (outer : List Open)
  /-- An object was opened: a key, or its end. -/
  | firstKey (outer : List Open)
  /-- A comma was read inside an object: a key must come. -/
  | key (members : Members) (outer : List Open)
  /-- A key was read: a colon must come. -/
  | colon (members : Members) (key : String) (outer : List Open)
  | after (value : Json) (outer : List Open)

namespace Reader

def takeValue (outer : List Open) : Token → Except Fault Reader
  | .openArray => .ok (.firstItem outer)
  | .openObject => .ok (.firstKey outer)
  | .null => .ok (.after .null outer)
  | .bool read => .ok (.after (.bool read) outer)
  | .number read => .ok (.after (.number read) outer)
  | .string text => .ok (.after (.string text) outer)
  | .fault reason _ => .error reason
  | _ => .error .malformed

/-- A token where a key must come. Only a fault inside the key counts as what it is. -/
def takeKey (members : Members) (outer : List Open) : Token → Except Fault Reader
  | .string name => .ok (.colon members name outer)
  | .fault reason true => .error reason
  | _ => .error .malformed

def takeAfter (read : Json) : List Open → Token → Except Fault Reader
  | .array items :: outer, .comma => .ok (.value (.array (read :: items) :: outer))
  | .array items :: outer, .closeArray =>
    .ok (.after (.array (.ofList (read :: items).reverse)) outer)
  | .object members name :: outer, .comma => .ok (.key (members.insert name read) outer)
  | .object members name :: outer, .closeObject =>
    .ok (.after (.object (members.insert name read)) outer)
  | _, _ => .error .malformed

def step : Reader → Token → Except Fault Reader
  | .value outer, token => takeValue outer token
  | .firstItem outer, .closeArray => .ok (.after (.array .nil) outer)
  | .firstItem outer, token => takeValue (.array [] :: outer) token
  | .firstKey outer, .closeObject => .ok (.after (.object .nil) outer)
  | .firstKey outer, token => takeKey .nil outer token
  | .key members outer, token => takeKey members outer token
  | .colon members name outer, .colon => .ok (.value (.object members name :: outer))
  | .colon _ _ _, _ => .error .malformed
  | .after read outer, token => takeAfter read outer token

def finish : Reader → Except Fault Json
  | .after read [] => .ok read
  | _ => .error .cut

end Reader

def ofTokens (tokens : List Token) : Except Fault Json :=
  tokens.foldlM Reader.step (.value []) >>= Reader.finish

def parse (text : String) : Except Fault Json :=
  ofTokens (Token.scan text.toList)

end Marquee.Json
