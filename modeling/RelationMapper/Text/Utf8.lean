/-!
# UTF-8

Characters as bytes and back. `utf8Bytes` encodes. `decodeBytes` reads bytes as characters and answers `none` for every
maximal run of bytes that starts like a character and is not one; such a run is replaced by one replacement character
(`lossyText`) or refuses the whole text (`strictText?`).

The reader works on `Piece`s, so that characters which were never encoded may stand between the bytes: they pass
through, and cut off a character that is not complete.
-/

namespace RelationMapper.Text

/-- The bytes of a character. -/
def utf8Bytes (c : Char) : List UInt8 :=
  let n := c.toNat
  if n < 0x80 then [.ofNat n]
  else if n < 0x800 then [.ofNat (0xc0 + n / 0x40), .ofNat (0x80 + n % 0x40)]
  else if n < 0x10000 then
    [.ofNat (0xe0 + n / 0x1000), .ofNat (0x80 + n / 0x40 % 0x40), .ofNat (0x80 + n % 0x40)]
  else
    [.ofNat (0xf0 + n / 0x40000), .ofNat (0x80 + n / 0x1000 % 0x40), .ofNat (0x80 + n / 0x40 % 0x40),
      .ofNat (0x80 + n % 0x40)]

/-- Part of a text that is being decoded: a byte, or a character that stands for itself. -/
inductive Piece where
  | byte (b : UInt8)
  | char (c : Char)

/-- A character of which the first bytes were read: how many are still to come, the bits read so far, and the range in
which the next byte has to lie. -/
structure Partial where
  missing : Nat
  bits : Nat
  low : Nat
  high : Nat

/-- Reads the first byte of a character. A byte below 0x80 is a character by itself; a byte that starts no character is
answered by `none`. The ranges of the second byte leave out overlong forms, surrogates and what lies beyond Unicode. -/
def beginChar (b : UInt8) : List (Option Char) × Option Partial :=
  let n := b.toNat
  if n < 0x80 then ([some (Char.ofNat n)], none)
  else if 0xc2 ≤ n ∧ n ≤ 0xdf then ([], some ⟨1, n - 0xc0, 0x80, 0xbf⟩)
  else if n = 0xe0 then ([], some ⟨2, 0, 0xa0, 0xbf⟩)
  else if n = 0xed then ([], some ⟨2, 0xd, 0x80, 0x9f⟩)
  else if 0xe1 ≤ n ∧ n ≤ 0xef then ([], some ⟨2, n - 0xe0, 0x80, 0xbf⟩)
  else if n = 0xf0 then ([], some ⟨3, 0, 0x90, 0xbf⟩)
  else if 0xf1 ≤ n ∧ n ≤ 0xf3 then ([], some ⟨3, n - 0xf0, 0x80, 0xbf⟩)
  else if n = 0xf4 then ([], some ⟨3, 4, 0x80, 0x8f⟩)
  else ([none], none)

/-- Reads a further byte of a character, if it is in range. -/
def Partial.continue? (p : Partial) (b : UInt8) : Option (List (Option Char) × Option Partial) :=
  let n := b.toNat
  if p.low ≤ n ∧ n ≤ p.high then
    let bits := 0x40 * p.bits + (n - 0x80)
    if p.missing ≤ 1 then some ([some (Char.ofNat bits)], none)
    else some ([], some ⟨p.missing - 1, bits, 0x80, 0xbf⟩)
  else none

/-- Decodes pieces after the given incomplete character. -/
def decodeFrom : Option Partial → List Piece → List (Option Char)
  | none, [] => []
  | some _, [] => [none]
  | none, .char c :: rest => some c :: decodeFrom none rest
  | some _, .char c :: rest => none :: some c :: decodeFrom none rest
  | none, .byte b :: rest => (beginChar b).1 ++ decodeFrom (beginChar b).2 rest
  | some p, .byte b :: rest =>
    match p.continue? b with
    | some (read, p') => read ++ decodeFrom p' rest
    | none => none :: (beginChar b).1 ++ decodeFrom (beginChar b).2 rest

/-- The text of pieces, with one replacement character for every run of bytes that is no character. -/
def lossyText (pieces : List Piece) : List Char := (decodeFrom none pieces).map (·.getD '\ufffd')

/-- The text of bytes, if all of them belong to characters. -/
def strictText? (bytes : List UInt8) : Option (List Char) := (decodeFrom none (bytes.map .byte)).mapM id

end RelationMapper.Text
