import Marquee.Json.Basic
import Marquee.Decimal.Shortest
import Marquee.Text.Hex
import Marquee.Width

/-!
# Writing JSON

Two layouts: a compact one without any blanks, and an indented one with two blanks a level. Inside
a string only the quote, the backslash and the characters below the space are escaped.
-/

namespace Marquee.Json

/-- How a decimal is laid out: the range of leading exponents that is written without one. -/
structure NumberLayout where
  lowestPlain : Int
  highestPlain : Int

/-- From `1e-5` and below `1e16` a number is written without exponent. -/
def numberLayout : NumberLayout :=
  ⟨-5, 15⟩

/-- The digits of a decimal with a point, and an exponent if the layout asks for one. There is
always a digit on both sides of the point of a plain number. -/
def NumberLayout.write (layout : NumberLayout) (d : Decimal.Digits) : List Char :=
  let digits := Nat.toDigits 10 d.digits
  let leading := (digits.length : Int) - 1 + d.exponent
  if layout.lowestPlain ≤ leading ∧ leading ≤ layout.highestPlain then
    if 0 ≤ d.exponent then digits ++ List.replicate d.exponent.toNat '0' ++ ['.', '0']
    else if 0 ≤ leading then
      digits.take (leading.toNat + 1) ++ '.' :: digits.drop (leading.toNat + 1)
    else ['0', '.'] ++ List.replicate (-leading - 1).toNat '0' ++ digits
  else
    let mantissa :=
      match digits with
      | first :: second :: rest => first :: '.' :: second :: rest
      | short => short
    let exponent := Nat.toDigits 10 leading.natAbs
    mantissa ++ 'e' :: (if leading < 0 then '-' else '+') :: exponent

def Number.write : Number → List Char
  | .int value => (toString value).toList
  | .float bits =>
    let magnitude := numberLayout.write (Decimal.shortest bits)
    if signedLimit ≤ bits.toNat then '-' :: magnitude else magnitude

def Number.text (n : Number) : String :=
  String.ofList n.write

def writeChar (c : Char) : List Char :=
  if c = '"' then ['\\', '"']
  else if c = '\\' then ['\\', '\\']
  else if c = '\x08' then ['\\', 'b']
  else if c = '\t' then ['\\', 't']
  else if c = '\n' then ['\\', 'n']
  else if c = '\x0c' then ['\\', 'f']
  else if c = '\r' then ['\\', 'r']
  else if c.toNat < 0x20 then
    ['\\', 'u', '0', '0', Text.hexDigit (c.toNat / 16), Text.hexDigit (c.toNat % 16)]
  else [c]

/-- A string in quotes, before the rest of a text. -/
def writeString (s : String) (rest : List Char) : List Char :=
  '"' :: s.toList.flatMap writeChar ++ '"' :: rest

mutual

/-- A value without blanks, before the rest of a text. -/
def write (rest : List Char) : Json → List Char
  | .null => 'n' :: 'u' :: 'l' :: 'l' :: rest
  | .bool true => 't' :: 'r' :: 'u' :: 'e' :: rest
  | .bool false => 'f' :: 'a' :: 'l' :: 's' :: 'e' :: rest
  | .number value => value.write ++ rest
  | .string text => writeString text rest
  | .array .nil => '[' :: ']' :: rest
  | .array (.cons head tail) => '[' :: head.write (tail.write (']' :: rest))
  | .object .nil => '\x7b' :: '\x7d' :: rest
  | .object (.cons key value members) =>
    '\x7b' :: writeString key (':' :: value.write (members.write ('\x7d' :: rest)))

/-- The items that follow the first one, each after a comma. -/
def Items.write (rest : List Char) : Items → List Char
  | .nil => rest
  | .cons head tail => ',' :: head.write (tail.write rest)

/-- The members that follow the first one, each after a comma. -/
def Members.write (rest : List Char) : Members → List Char
  | .nil => rest
  | .cons key value members =>
    ',' :: writeString key (':' :: value.write (members.write rest))

end

def compact (value : Json) : String :=
  String.ofList (value.write [])

/-- A new line at a depth, before the rest of a text. -/
def newLine (depth : Nat) (rest : List Char) : List Char :=
  '\n' :: List.replicate (2 * depth) ' ' ++ rest

mutual

/-- A value whose lines, after the first, are indented by `depth` levels, before the rest of a
text. -/
def writeIndented (depth : Nat) (rest : List Char) : Json → List Char
  | .null => 'n' :: 'u' :: 'l' :: 'l' :: rest
  | .bool true => 't' :: 'r' :: 'u' :: 'e' :: rest
  | .bool false => 'f' :: 'a' :: 'l' :: 's' :: 'e' :: rest
  | .number value => value.write ++ rest
  | .string text => writeString text rest
  | .array .nil => '[' :: ']' :: rest
  | .array (.cons head tail) =>
    '[' :: newLine (depth + 1) (head.writeIndented (depth + 1)
      (tail.writeIndented (depth + 1) (newLine depth (']' :: rest))))
  | .object .nil => '\x7b' :: '\x7d' :: rest
  | .object (.cons key value members) =>
    '\x7b' :: newLine (depth + 1) (writeString key (':' :: ' ' ::
      value.writeIndented (depth + 1)
        (members.writeIndented (depth + 1) (newLine depth ('\x7d' :: rest)))))

/-- The items that follow the first one, each after a comma on a line of its own. -/
def Items.writeIndented (depth : Nat) (rest : List Char) : Items → List Char
  | .nil => rest
  | .cons head tail =>
    ',' :: newLine depth (head.writeIndented depth (tail.writeIndented depth rest))

/-- The members that follow the first one, each after a comma on a line of its own. -/
def Members.writeIndented (depth : Nat) (rest : List Char) : Members → List Char
  | .nil => rest
  | .cons key value members =>
    ',' :: newLine depth (writeString key (':' :: ' ' ::
      value.writeIndented depth (members.writeIndented depth rest)))

end

def pretty (value : Json) : String :=
  String.ofList (value.writeIndented 0 [])

end Marquee.Json
