import RelationMapper.Number.Binary64

/-!
# The shortest decimal of a floating point number

Many decimals are read back as one and the same floating point number: those between the midpoints to its two
neighbours. `shortest` picks the one with the fewest digits, and of several the one nearest to the number. The search
goes through the grids of one digit, two digits, and so on; on each grid only the number's two neighbours can be the
nearest. All arithmetic is on natural numbers.
-/

namespace RelationMapper.Number

/-- The decimal number `digits * 10 ^ exponent`. -/
structure Decimal where
  digits : Nat
  exponent : Int
deriving DecidableEq

/-- Compares `a * 10 ^ i` with `n * 2 ^ j`. -/
def compareScaled (a : Nat) (i : Int) (n : Nat) (j : Int) : Ordering :=
  compare (a * Nat.pow 10 i.toNat * Nat.pow 2 (-j).toNat) (n * Nat.pow 2 j.toNat * Nat.pow 10 (-i).toNat)

namespace Binary64

/-- Whether the neighbour below is nearer than the one above: it is where the exponent changes. -/
def narrowBelow (x : Binary64) : Bool := x.fraction == 0 && 1 < x.biased

/-- Whether a decimal is read back as this number's magnitude. The midpoints belong to the even significand. -/
def readsBack (x : Binary64) (d : Decimal) : Bool :=
  let even := x.significand % 2 == 0
  let below := compareScaled d.digits d.exponent (4 * x.significand - if x.narrowBelow then 1 else 2) (x.exponent - 2)
  let above := compareScaled d.digits d.exponent (4 * x.significand + 2) (x.exponent - 2)
  (below == .gt || (even && below == .eq)) && (above == .lt || (even && above == .eq))

/-- The number of decimal digits in front of the point, or minus the number of zeros right after it. -/
def magnitude (x : Binary64) : Int :=
  let num := x.significand * Nat.pow 2 x.exponent.toNat
  let den := Nat.pow 2 (-x.exponent).toNat
  if den ≤ num then (Nat.toDigits 10 (num / den)).length
  else 1 - (Nat.toDigits 10 ((den - 1) / num)).length

/-- The largest decimal with the given exponent that does not exceed the number. -/
def floorOn (x : Binary64) (exponent : Int) : Decimal :=
  ⟨x.significand * Nat.pow 2 x.exponent.toNat * Nat.pow 10 (-exponent).toNat /
    (Nat.pow 2 (-x.exponent).toNat * Nat.pow 10 exponent.toNat), exponent⟩

/-- The better of the two neighbours on a grid, if one is read back as the number: the nearer one, and of two equally
near ones the one whose last digit is even. -/
def nearestOn? (x : Binary64) (exponent : Int) : Option Decimal :=
  let low := x.floorOn exponent
  let high : Decimal := ⟨low.digits + 1, exponent⟩
  match x.readsBack low, x.readsBack high with
  | true, false => some low
  | false, true => some high
  | false, false => none
  | true, true =>
    match compareScaled (2 * low.digits + 1) exponent (2 * x.significand) x.exponent with
    | .gt => some low
    | .lt => some high
    | .eq => some (if low.digits % 2 == 0 then low else high)

/-- The number itself as a decimal. -/
def exactDecimal (x : Binary64) : Decimal :=
  ⟨x.significand * Nat.pow 2 x.exponent.toNat * Nat.pow 5 (-x.exponent).toNat, -(-x.exponent).toNat⟩

/-- The decimal with the fewest digits that is read back as the magnitude of a finite number other than zero. Seventeen
digits are always enough. -/
def shortest (x : Binary64) : Decimal :=
  let scale := x.magnitude
  ((List.range 17).findSome? fun (n : Nat) => x.nearestOn? (scale - (n + 1 : Nat))).getD x.exactDecimal

end Binary64

end RelationMapper.Number
