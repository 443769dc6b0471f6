import Predictor.Binary64.Basic

/-!
The shortest decimal that reads back as a given finite number: among the decimals inside the
interval of reals that round to it, one with the fewest digits, and of those the nearest.

Everything is counted in quarters of 2^-1074, so that the ends of the interval are whole numbers.
-/

namespace Predictor.Binary64

/-- The decimal `digits * 10 ^ exponent`. -/
structure Decimal where
  digits : Nat
  exponent : Int
  deriving DecidableEq, Repr

namespace Decimal

/-- Divides out the factors ten of the digits, at most `n` of them. -/
def dropZeros (d : Decimal) : Nat → Decimal
  | 0 => d
  | n + 1 =>
    if d.digits ≠ 0 ∧ d.digits % 10 = 0 then dropZeros ⟨d.digits / 10, d.exponent + 1⟩ n else d

end Decimal

/-- The closed or open interval of reals that round to one number, in quarters of 2^-1074. -/
structure RoundingInterval where
  low : Nat
  high : Nat
  /-- Whether the two ends round to the number too: they do when its significand is even. -/
  closed : Bool

def roundingInterval (x : Binary64) : RoundingInterval :=
  let step := Nat.pow 2 x.unit
  let value := 4 * x.magnitude
  let below := if x.significand = fractionBound ∧ 0 < x.unit then step else 2 * step
  ⟨value - below, value + 2 * step, x.significand % 2 == 0⟩

/-- Whether `num / den` lies in the interval. -/
def RoundingInterval.holds (i : RoundingInterval) (num den : Nat) : Bool :=
  if i.closed then i.low * den ≤ num && num ≤ i.high * den
  else i.low * den < num && num < i.high * den

/-- The exponent of the first digit of `quarters` quarters of 2^-1074. -/
def leadingExponent (quarters : Nat) : Int :=
  ((Nat.toDigits 10 (quarters * Nat.pow 10 400 / (4 * unitsOfOne))).length : Int) - 401

/-- The unit 10^k as a fraction of quarters of 2^-1074. -/
def gridUnit (k : Int) : Nat × Nat :=
  if 0 ≤ k then (4 * unitsOfOne * Nat.pow 10 k.toNat, 1)
  else (4 * unitsOfOne, Nat.pow 10 (-k).toNat)

/-- The neighbour of the value on the grid of multiples of 10^k that rounds to the number; of two
neighbours that do, the nearer one, and of two equally near ones the even one. -/
def gridNeighbour? (i : RoundingInterval) (value : Nat) (k : Int) : Option Decimal :=
  let (num, den) := gridUnit k
  let lower := value * den / num
  let upper := lower + 1
  match i.holds (lower * num) den, i.holds (upper * num) den with
  | false, false => none
  | true, false => some ⟨lower, k⟩
  | false, true => some ⟨upper, k⟩
  | true, true =>
    let toLower := value * den - lower * num
    let toUpper := upper * num - value * den
    if toLower < toUpper then some ⟨lower, k⟩
    else if toUpper < toLower then some ⟨upper, k⟩
    else some ⟨lower + lower % 2, k⟩

/-- The first of the grids for `count`, `count + 1`, … digits with a neighbour that rounds to the
number; seventeen digits are always enough. -/
def shortestFrom (i : RoundingInterval) (value : Nat) (e : Int) (count : Nat) : Nat → Decimal
  | 0 => ⟨0, 0⟩
  | tries + 1 =>
    match gridNeighbour? i value (e - count + 1) with
    | some d => d
    | none => shortestFrom i value e (count + 1) tries

/-- The shortest decimal that reads back as the magnitude of a finite number other than zero. -/
def shortest (x : Binary64) : Decimal :=
  let value := 4 * x.magnitude
  (shortestFrom (roundingInterval x) value (leadingExponent value) 1 17).dropZeros 400

end Predictor.Binary64
