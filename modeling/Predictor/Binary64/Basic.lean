/-!
Numbers of IEEE 754 binary64, given by their bits. The value of a finite number is a whole multiple
of 2^-1074, so its `scaled` value is an integer, and comparing, rounding, multiplying and dividing
are exact integer arithmetic followed by one rounding to the nearest number, ties to the even one.
-/

namespace Predictor

/-- A binary64 number, by its 64 bits. -/
structure Binary64 where
  bits : UInt64
  deriving DecidableEq, Repr, Inhabited

namespace Binary64

/-! ## Fields -/

/-- Two to the 52nd: the fraction stays below it. -/
def fractionBound : Nat := 0x10000000000000

/-- Two to the 63rd: the place of the sign. -/
def signBit : Nat := 0x8000000000000000

/-- How many units of 2^-1074 are one. -/
def unitsOfOne : Nat := Nat.pow 2 1074

def isNegative (x : Binary64) : Bool := decide (signBit ≤ x.bits.toNat)

def exponentField (x : Binary64) : Nat := x.bits.toNat / fractionBound % 2048

def fraction (x : Binary64) : Nat := x.bits.toNat % fractionBound

def isNaN (x : Binary64) : Bool := x.exponentField == 2047 && x.fraction != 0

def isInfinite (x : Binary64) : Bool := x.exponentField == 2047 && x.fraction == 0

def isFinite (x : Binary64) : Bool := x.exponentField != 2047

/-- The significand as a whole number, with the leading bit that normal numbers leave out. -/
def significand (x : Binary64) : Nat :=
  if x.exponentField = 0 then x.fraction else fractionBound + x.fraction

/-- The exponent of the unit of the significand, counted up from 2^-1074. -/
def unit (x : Binary64) : Nat := x.exponentField - 1

/-- The magnitude in units of 2^-1074. An infinity stands just above every finite number. -/
def magnitude (x : Binary64) : Nat := x.significand * Nat.pow 2 x.unit

/-- The value in units of 2^-1074. -/
def scaled (x : Binary64) : Int :=
  if x.isNegative then -(x.magnitude : Int) else x.magnitude

/-- Ordering of values: both zeros are equal, and a NaN is below nothing and above nothing. -/
def le (x y : Binary64) : Bool :=
  !x.isNaN && !y.isNaN && decide (x.scaled ≤ y.scaled)

/-! ## Rounding -/

/-- The bits, sign apart, of the number with significand `m` in the unit `u`. A significand of
2^53 carries into the exponent, and what lies beyond the largest number becomes infinity. -/
def packMagnitude (m u : Nat) : Nat :=
  min (2047 * fractionBound)
    (if m < fractionBound then m else (u + 1) * fractionBound + (m - fractionBound))

def pack (negative : Bool) (magnitudeBits : Nat) : Binary64 :=
  ⟨UInt64.ofNat (magnitudeBits + if negative then signBit else 0)⟩

/-- The quotient of two whole numbers rounded to the nearest whole number, ties to even. -/
def roundQuotient (num den : Nat) : Nat :=
  let q := num / den
  let twice := 2 * (num % den)
  if twice < den then q
  else if den < twice then q + 1
  else q + q % 2

/-- The magnitude bits nearest to `num / den`, counted in units of 2^-1074. -/
def nearestMagnitude (num den : Nat) : Nat :=
  let u := (num / den).log2 - 52
  packMagnitude (roundQuotient num (den * Nat.pow 2 u)) u

/-- The number nearest to `num / den`. -/
def ofQuotient (negative : Bool) (num den : Nat) : Binary64 :=
  pack negative (nearestMagnitude (num * unitsOfOne) den)

def ofNat (n : Nat) : Binary64 := ofQuotient false n 1

def ofInt (n : Int) : Binary64 := ofQuotient (n < 0) n.natAbs 1

def zero : Binary64 := ⟨0⟩

def neg (x : Binary64) : Binary64 :=
  pack (!x.isNegative) (x.bits.toNat % signBit)

/-- Product of the magnitudes of two finite numbers, rounded. -/
def mulMagnitude (x y : Binary64) : Binary64 :=
  pack false (nearestMagnitude (x.magnitude * y.magnitude) unitsOfOne)

/-- Quotient of the magnitudes of two finite numbers, the second not zero, rounded. -/
def divMagnitude (x y : Binary64) : Binary64 :=
  pack false (nearestMagnitude (x.magnitude * unitsOfOne) y.magnitude)

end Binary64

end Predictor
