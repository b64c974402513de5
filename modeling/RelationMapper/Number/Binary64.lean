/-!
# Binary floating point numbers

A `Binary64` is a number in the 64-bit binary format, kept as its bits, so that two of them can be told apart by
deciding equality. A finite one stands for `significand * 2 ^ exponent` with a sign; comparing it with an integer is exact
arithmetic. Sums and products are those of the machine.
-/

namespace RelationMapper.Number

/-- A floating point number of 64 bits. -/
structure Binary64 where
  bits : UInt64
deriving DecidableEq

namespace Binary64

def ofFloat (x : Float) : Binary64 := ⟨x.toBits⟩

def toFloat (x : Binary64) : Float := Float.ofBits x.bits

/-- The sign bit. -/
def isNegative (x : Binary64) : Bool := 0x8000000000000000 ≤ x.bits

/-- The eleven bits of the exponent. -/
def biased (x : Binary64) : Nat := x.bits.toNat / 0x10000000000000 % 2048

/-- The 52 bits of the fraction. -/
def fraction (x : Binary64) : Nat := x.bits.toNat % 0x10000000000000

/-- Whether the number is neither infinite nor undefined. -/
def isFinite (x : Binary64) : Bool := x.biased != 2047

/-- Whether the value is undefined. -/
def isNaN (x : Binary64) : Bool := x.biased == 2047 && x.fraction != 0

/-- Whether the number is zero, of either sign. -/
def isZero (x : Binary64) : Bool := x.biased == 0 && x.fraction == 0

/-- The integer that, scaled by a power of two, is the magnitude of a finite number. -/
def significand (x : Binary64) : Nat := if x.biased = 0 then x.fraction else 0x10000000000000 + x.fraction

/-- The power of two that scales the significand. -/
def exponent (x : Binary64) : Int := if x.biased = 0 then -1074 else (x.biased : Int) - 1075

/-- A finite number without its fractional part. -/
def truncate (x : Binary64) : Int :=
  let magnitude := x.significand * Nat.pow 2 x.exponent.toNat / Nat.pow 2 (-x.exponent).toNat
  if x.isNegative then -magnitude else magnitude

/-- Whether a number has the value of an integer. -/
def equalsInt (x : Binary64) (n : Int) : Bool :=
  x.isFinite && (x.isNegative == decide (n < 0) || x.isZero) &&
    x.significand * Nat.pow 2 x.exponent.toNat == n.natAbs * Nat.pow 2 (-x.exponent).toNat

/-- Whether two numbers have the same value. The two zeros have, and an undefined value equals nothing. -/
def sameValue (x y : Binary64) : Bool := !x.isNaN && (x.bits == y.bits || (x.isZero && y.isZero))

/-- The floating point number nearest to an integer. -/
def ofInt (n : Int) : Binary64 :=
  ofFloat (if n < 0 then -Float.ofScientific n.natAbs false 0 else Float.ofScientific n.natAbs false 0)

def add (x y : Binary64) : Binary64 := ofFloat (x.toFloat + y.toFloat)

def mul (x y : Binary64) : Binary64 := ofFloat (x.toFloat * y.toFloat)

end Binary64

end RelationMapper.Number
