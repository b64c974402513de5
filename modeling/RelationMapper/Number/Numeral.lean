import RelationMapper.Number.Shortest
import RelationMapper.Text.Blank
import RelationMapper.Text.Digit

/-!
# Numerals

How numbers are written and how integers are read. A floating point number is written with the fewest digits that read
back, positionally while its first digit stands between the fourth place after the point and the sixteenth in front of
it. An integer is read with an optional sign, in decimal digits of any kind, with single underscores between them and
blanks around; `Numeral.readInt` says why a text is refused.
-/

namespace RelationMapper.Number

/-- The decimal exponents of the first digit from which on a number is written with an exponent. -/
structure PositionalRange where
  least : Int
  greatest : Int

/-- Numbers from 0.0001 up to below 10^16 are written positionally. -/
def positionalRange : PositionalRange := ⟨-4, 15⟩

/-- A decimal exponent: the letter `e`, a sign and at least two digits. -/
def exponentText (e : Int) : String :=
  let digits := Nat.repr e.natAbs
  (if e < 0 then "e-" else "e+") ++ (if e.natAbs < 10 then "0" else "") ++ digits

/-- The digits of a decimal without zeros at the end. -/
def significantDigits (d : Decimal) : List Char :=
  ((Nat.toDigits 10 d.digits).reverse.dropWhile (· == '0')).reverse

/-- A positive decimal in writing. -/
def decimalText (d : Decimal) : String :=
  let first : Int := d.exponent + (Nat.toDigits 10 d.digits).length - 1
  let digits := significantDigits d
  if first < positionalRange.least ∨ positionalRange.greatest < first then
    String.ofList (match digits with
      | [one] => [one]
      | head :: rest => head :: '.' :: rest
      | [] => []) ++ exponentText first
  else if first < 0 then
    String.ofList ("0.".toList ++ List.replicate (-first - 1).toNat '0' ++ digits)
  else
    let whole := (first + 1).toNat
    let fraction := digits.drop whole
    String.ofList (digits.take whole ++ List.replicate (whole - digits.length) '0' ++ ['.'] ++
      if fraction.isEmpty then ['0'] else fraction)

/-- A floating point number in writing. -/
def Binary64.text (x : Binary64) : String :=
  let sign := if x.isNegative then "-" else ""
  if x.isNaN then "nan"
  else if !x.isFinite then sign ++ "inf"
  else if x.isZero then sign ++ "0.0"
  else sign ++ decimalText x.shortest

/-- An integer in writing. -/
def intText (n : Int) : String := if n < 0 then "-" ++ Nat.repr n.natAbs else Nat.repr n.natAbs

/-- Whether an integer has too many digits to be written. -/
def isTooLong (n : Int) : Bool := Text.digitLimit < (Nat.toDigits 10 n.natAbs).length

/-- The least number that has too many digits. -/
def leastTooLong : Nat := Nat.pow 10 Text.digitLimit

/-- An integer has too many digits exactly from there on, on either side of zero. -/
theorem isTooLong_iff (n : Int) : isTooLong n = true ↔ leastTooLong ≤ n.natAbs := by
  have hlimit : 0 < Text.digitLimit := by decide
  unfold isTooLong leastTooLong
  generalize Text.digitLimit = limit at hlimit
  rw [decide_eq_true_iff, ← Nat.not_le, Nat.length_toDigits_le_iff (by decide) hlimit, Nat.not_lt, Nat.pow_eq]

theorem isTooLong_least : isTooLong leastTooLong = true :=
  (isTooLong_iff _).mpr (Nat.le_of_eq (Int.natAbs_natCast _).symm)

/-- Why a text is not read as an integer. -/
inductive NumeralError where
  /-- The text is no numeral. -/
  | malformed
  /-- The numeral has this many digits, more than are read. -/
  | tooLong (digits : Nat)

/-- Splits off the digits of a numeral: single underscores may stand between two of them. The digits come with the rest
of the text; `none` if an underscore is out of place. -/
def takeDigits : (afterDigit : Bool) → List Char → Option (List Char × List Char)
  | afterDigit, [] => if afterDigit then some ([], []) else none
  | afterDigit, c :: rest =>
    if Text.isDigit c then (takeDigits true rest).map fun (digits, rest) => (c :: digits, rest)
    else if c = '_' then
      if afterDigit then takeDigits false rest else none
    else if afterDigit then some ([], c :: rest)
    else none

/-- The sign in front of a numeral, and the rest. -/
def takeSign : List Char → Bool × List Char
  | '-' :: rest => (true, rest)
  | '+' :: rest => (false, rest)
  | cs => (false, cs)

/-- Whether a character may stand around an integer: the blank ones may, except the four information separators. -/
def isMargin (c : Char) : Bool := Text.isBlank c && !(0x1c ≤ c.toNat && c.toNat ≤ 0x1f)

/-- Reads an integer. -/
def readInt (s : List Char) : Except NumeralError Int :=
  let (negative, cs) := takeSign (s.dropWhile isMargin)
  match takeDigits false cs with
  | none => .error .malformed
  | some (digits, rest) =>
    if Text.digitLimit < digits.length then .error (.tooLong digits.length)
    else if !rest.all isMargin then .error .malformed
    else
      let n : Int := Text.readNat digits
      .ok (if negative then -n else n)

end RelationMapper.Number
