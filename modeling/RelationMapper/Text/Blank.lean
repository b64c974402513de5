/-!
# Blank characters

The characters that separate words: the white space of Unicode together with the four information separators. A
zero-width space and the byte order mark are not blank.
-/

namespace RelationMapper.Text

/-- Whether a character is blank. -/
def isBlank (c : Char) : Bool :=
  let n := c.toNat
  (0x09 ≤ n && n ≤ 0x0d) || (0x1c ≤ n && n ≤ 0x20) || n == 0x85 || n == 0xa0 || n == 0x1680 ||
    (0x2000 ≤ n && n ≤ 0x200a) || n == 0x2028 || n == 0x2029 || n == 0x202f || n == 0x205f || n == 0x3000

/-- A list of characters without the blank ones at its end. -/
def trimEnd (cs : List Char) : List Char := (cs.reverse.dropWhile isBlank).reverse

/-- A list of characters without the blank ones at either end. -/
def trim (cs : List Char) : List Char := trimEnd (cs.dropWhile isBlank)

end RelationMapper.Text
