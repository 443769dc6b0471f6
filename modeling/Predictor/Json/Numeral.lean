import Predictor.Binary64.Text

/-!
JSON numbers. A numeral is split into its sign and digits; `Numeral.double?` is its value as a
binary64 number. The value is computed from the leading digits that fit 64 bits and one rounded
power of ten, so numerals of many digits may come out next to the nearest number, not at it; a value
too large for any finite number has none.
-/

namespace Predictor.Json

/-- A numeral by its parts; an absent fraction has no digits. -/
structure Numeral where
  negative : Bool
  whole : List Nat
  fraction : List Nat
  /-- Sign (true when negative) and digits of the exponent. -/
  exponent : Option (Bool × List Nat)
  deriving DecidableEq, Repr

namespace Numeral

/-! ## Splitting -/

def isDigit (b : UInt8) : Bool := 48 ≤ b && b ≤ 57

def digitsOf (bytes : List UInt8) : List Nat := bytes.map fun b => b.toNat - 48

/-- The digits in front, and what follows them. -/
def spanDigits (bytes : List UInt8) : List UInt8 × List UInt8 :=
  (bytes.takeWhile isDigit, bytes.dropWhile isDigit)

/-- One zero, or digits that do not begin with zero. -/
def isWhole (digits : List UInt8) : Bool :=
  match digits with
  | [] => false
  | [_] => true
  | d :: _ => d != 48

/-- The digits after a point, when there is one. -/
def splitFraction? : List UInt8 → Option (List UInt8 × List UInt8)
  | 46 :: rest =>
    let (digits, rest) := spanDigits rest
    if digits.isEmpty then none else some (digits, rest)
  | rest => some ([], rest)

/-- Nothing, or the letter, sign and digits of an exponent up to the end. -/
def splitExponent? : List UInt8 → Option (Option (Bool × List UInt8))
  | [] => some none
  | e :: rest =>
    if e = 101 ∨ e = 69 then
      let (negative, rest) := match rest with
        | 43 :: rest => (false, rest)
        | 45 :: rest => (true, rest)
        | rest => (false, rest)
      if !rest.isEmpty && rest.all isDigit then some (some (negative, rest)) else none
    else none

/-- The numeral that the bytes write, up to their end. -/
def ofBytes? (bytes : List UInt8) : Option Numeral := do
  let (negative, rest) := match bytes with
    | 45 :: rest => (true, rest)
    | rest => (false, rest)
  let (whole, rest) := spanDigits rest
  if !isWhole whole then none
  let (fraction, rest) ← splitFraction? rest
  let exponent ← splitExponent? rest
  some ⟨negative, digitsOf whole, digitsOf fraction,
    exponent.map fun (sign, digits) => (sign, digitsOf digits)⟩

/-! ## Values -/

/-- The natural number of a numeral without sign, fraction and exponent. -/
def natural? (n : Numeral) : Option Nat :=
  if n.negative || !n.fraction.isEmpty || n.exponent.isSome then none
  else some (n.whole.foldl (fun v d => v * 10 + d) 0)

/-- Largest significand of a numeral under reading. -/
def maxSignificand : Nat := 0xFFFFFFFFFFFFFFFF

/-- Appends whole digits to a significand while it fits; also counts the digits left out. -/
def appendWhole (significand : Nat) : List Nat → Nat × Nat
  | [] => (significand, 0)
  | d :: rest =>
    if maxSignificand < significand * 10 + d then (significand, rest.length + 1)
    else appendWhole (significand * 10 + d) rest

/-- Appends fraction digits to a significand while it fits; also counts the digits appended. -/
def appendFraction (significand : Nat) : List Nat → Nat × Nat
  | [] => (significand, 0)
  | d :: rest =>
    if maxSignificand < significand * 10 + d then (significand, 0)
    else
      let (significand, count) := appendFraction (significand * 10 + d) rest
      (significand, count + 1)

def powerOfTen (e : Nat) : Binary64 := Binary64.ofNat (Nat.pow 10 e)

/-- Divides by a power of ten, in steps when no finite number is that power. -/
def dividedByPower (x : Binary64) (e : Nat) : Binary64 :=
  if e ≤ 308 then x.divMagnitude (powerOfTen e)
  else if e ≤ 616 then (x.divMagnitude (powerOfTen 308)).divMagnitude (powerOfTen (e - 308))
  else Binary64.zero

/-- A significand times a power of ten; none when that is too large. -/
def scaledByPower? (significand : Nat) (e : Int) : Option Binary64 :=
  let x := Binary64.ofNat significand
  if e < 0 then some (dividedByPower x (-e).toNat)
  else if e ≤ 308 then
    let y := x.mulMagnitude (powerOfTen e.toNat)
    if y.isFinite then some y else none
  else if significand = 0 then some Binary64.zero
  else none

/-- Exponents are counted up to the largest signed number of 32 bits. -/
def maxExponent : Nat := 0x7FFFFFFF

def magnitude? (n : Numeral) : Option Binary64 :=
  let (significand, leftOut) := appendWhole 0 n.whole
  let (significand, appended) := appendFraction significand n.fraction
  let base : Int := (leftOut : Int) - appended
  match n.exponent with
  | none => scaledByPower? significand base
  | some (negative, digits) =>
    let e := digits.foldl (fun v d => v * 10 + d) 0
    if maxExponent < e then
      if significand ≠ 0 ∧ !negative then none else some Binary64.zero
    else if negative then scaledByPower? significand (max (base - e) (-0x80000000))
    else scaledByPower? significand (min (base + e) maxExponent)

/-- The value of a numeral; none when it is too large for a finite number. -/
def double? (n : Numeral) : Option Binary64 :=
  n.magnitude?.map fun x => if n.negative then x.neg else x

end Numeral

/-! ## Writing -/

/-- The shortest digits, with a point from 10^-5 up to below 10^16, else with an exponent whose
sign is always written. -/
def numberLayout : Binary64.Layout := ⟨-5, 16, true, "+"⟩

/-- A number, or `null` when it is not finite. -/
def numberText (x : Binary64) : String :=
  if x.isFinite then x.writeShortest numberLayout else "null"

end Predictor.Json
