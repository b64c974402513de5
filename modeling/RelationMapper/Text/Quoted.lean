import RelationMapper.Text.Printable

/-!
# Quoted texts

Texts and bytes as messages show them: between quotes, with escapes for the quote, the backslash and everything that is
not printable. The quote is an apostrophe, unless the text holds an apostrophe and no double quote. In bytes that may
change it is the apostrophe that is escaped, whichever quote surrounds them.
-/

namespace RelationMapper.Text

/-- The quote that surrounds a text. -/
def quoteFor (cs : List Char) : Char :=
  if cs.contains '\x27' && !cs.contains '\x22' then '\x22' else '\x27'

/-- A number in lower-case hexadecimal digits, filled with zeros to a width. -/
def hexPadded (width n : Nat) : List Char :=
  let digits := Nat.toDigits 16 n
  List.replicate (width - digits.length) '0' ++ digits

/-- The escapes that do not depend on what counts as printable. `mark` is the quote that is escaped. -/
def commonEscape? (mark c : Char) : Option (List Char) :=
  if c = mark ∨ c = '\\' then some ['\\', c]
  else if c = '\t' then some ['\\', 't']
  else if c = '\n' then some ['\\', 'n']
  else if c = '\r' then some ['\\', 'r']
  else none

/-- A character inside quotes. One that is not printable is shown by its code point in two, four or eight digits. -/
def quotedChar (quote c : Char) : List Char :=
  (commonEscape? quote c).getD <|
    if printable.mem c then [c]
    else if c.toNat < 0x100 then '\\' :: 'x' :: hexPadded 2 c.toNat
    else if c.toNat < 0x10000 then '\\' :: 'u' :: hexPadded 4 c.toNat
    else '\\' :: 'U' :: hexPadded 8 c.toNat

/-- A text in quotes. -/
def quoted (s : String) : String :=
  let cs := s.toList
  let quote := quoteFor cs
  String.ofList ([quote] ++ cs.flatMap (quotedChar quote) ++ [quote])

/-- A byte inside quotes: as its ASCII character if that is printable, otherwise in hexadecimal. -/
def quotedByte (mark : Char) (b : UInt8) : List Char :=
  let c := Char.ofNat b.toNat
  (commonEscape? mark c).getD <|
    if 0x20 ≤ b.toNat ∧ b.toNat < 0x7f then [c] else '\\' :: 'x' :: hexPadded 2 b.toNat

/-- The quote that surrounds bytes. -/
def quoteForBytes (bytes : List UInt8) : Char := quoteFor (bytes.map fun b => Char.ofNat b.toNat)

/-- Bytes in quotes, with the letter `b` in front. -/
def quotedBytes (bytes : List UInt8) : String :=
  let quote := quoteForBytes bytes
  String.ofList (['b', quote] ++ bytes.flatMap (quotedByte quote) ++ [quote])

/-- Bytes that may change in quotes, with the letter `b` in front. -/
def quotedBuffer (bytes : List UInt8) : String :=
  let quote := quoteForBytes bytes
  String.ofList (['b', quote] ++ bytes.flatMap (quotedByte '\x27') ++ [quote])

end RelationMapper.Text
