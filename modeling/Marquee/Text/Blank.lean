/-!
# Blank characters

A character is blank when it has the White_Space property of the Unicode standard. Readers of
loose text (numbers, colours) drop blanks at either end.
-/

namespace Marquee.Text

/-- The characters with the White_Space property. -/
def isBlank (c : Char) : Bool :=
  let n := c.toNat
  (0x09 ≤ n && n ≤ 0x0D) || n == 0x20 || n == 0x85 || n == 0xA0 || n == 0x1680 ||
    (0x2000 ≤ n && n ≤ 0x200A) || n == 0x2028 || n == 0x2029 || n == 0x202F || n == 0x205F ||
    n == 0x3000

def trimStart (cs : List Char) : List Char :=
  cs.dropWhile isBlank

def trimEnd (cs : List Char) : List Char :=
  (cs.reverse.dropWhile isBlank).reverse

def trim (cs : List Char) : List Char :=
  trimEnd (trimStart cs)

theorem trimStart_cons_of_not_blank {c : Char} {cs : List Char} (visible : isBlank c = false) :
    trimStart (c :: cs) = c :: cs := by
  simp [trimStart, visible]

end Marquee.Text
