import Marquee.Text.Hidden
import Marquee.Text.Hex

/-!
# Quoted text

Text in double quotes, for messages. A quote and a backslash are escaped, the usual controls have
short escapes, and any other hidden character is spelled as its code point in braces.
-/

namespace Marquee.Text

def quotedChar (c : Char) : List Char :=
  if c = '"' then ['\\', '"']
  else if c = '\\' then ['\\', '\\']
  else if c = '\t' then ['\\', 't']
  else if c = '\r' then ['\\', 'r']
  else if c = '\n' then ['\\', 'n']
  else if c = '\x00' then ['\\', '0']
  else if isHidden c then ['\\', 'u', '\x7b'] ++ hexNumeral c.toNat ++ ['\x7d']
  else [c]

def quoted (s : String) : String :=
  String.ofList ('"' :: s.toList.flatMap quotedChar ++ ['"'])

end Marquee.Text
