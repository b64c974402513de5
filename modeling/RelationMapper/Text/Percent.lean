import RelationMapper.Text.Utf8

/-!
# Percent encoding

`percentEncode` writes a text with ASCII characters alone: a character that is not safe is replaced by a percent sign
and two hexadecimal digits for each of its UTF-8 bytes. `percentDecode` reads such a text. It also reads any other text:
a percent sign without two digits after it stands for itself, and bytes that are no characters are replaced.
-/

namespace RelationMapper.Text

/-- A hexadecimal digit in upper case. -/
def hexDigit (n : Nat) : Char :=
  Char.ofNat (if n < 10 then 0x30 + n else 0x37 + n)

/-- The value of a hexadecimal digit of either case. -/
def hexValue? (c : Char) : Option Nat :=
  let n := c.toNat
  if 0x30 ≤ n ∧ n ≤ 0x39 then some (n - 0x30)
  else if 0x41 ≤ n ∧ n ≤ 0x46 then some (n - 0x37)
  else if 0x61 ≤ n ∧ n ≤ 0x66 then some (n - 0x57)
  else none

/-- A byte as a percent sign and two digits. -/
def percentByte (b : UInt8) : List Char := ['%', hexDigit (b.toNat / 16), hexDigit (b.toNat % 16)]

/-- The letters and digits of ASCII and the four marks that never need encoding. -/
def isUnreserved (c : Char) : Bool :=
  let n := c.toNat
  (0x30 ≤ n && n ≤ 0x39) || (0x41 ≤ n && n ≤ 0x5a) || (0x61 ≤ n && n ≤ 0x7a) ||
    c == '_' || c == '.' || c == '-' || c == '~'

/-- A text with every character encoded that is neither unreserved nor among the safe ones. -/
def percentEncode (safe : List Char) (cs : List Char) : List Char :=
  cs.flatMap fun c => if isUnreserved c || safe.contains c then [c] else (utf8Bytes c).flatMap percentByte

/-- Splits a text into the bytes that its ASCII characters and escapes stand for and its other characters. -/
def percentPieces : List Char → List Piece
  | '%' :: a :: b :: rest =>
    match hexValue? a, hexValue? b with
    | some x, some y => .byte (.ofNat (16 * x + y)) :: percentPieces rest
    | _, _ => .byte 0x25 :: percentPieces (a :: b :: rest)
  | c :: rest => (if c.toNat < 0x80 then .byte (.ofNat c.toNat) else .char c) :: percentPieces rest
  | [] => []

/-- The text that a percent-encoded text stands for. -/
def percentDecode (cs : List Char) : List Char := lossyText (percentPieces cs)

end RelationMapper.Text
