import Predictor.Binary64.Basic

/-!
Numbers with a fixed count of decimal places, rounded on their exact value; a tie goes to the even
neighbour. Zero and what rounds to it keep the sign of the number.
-/

namespace Predictor.Binary64

/-- The magnitude of a finite number in units of the last of `places` decimal places. -/
def roundedMagnitude (places : Nat) (x : Binary64) : Nat :=
  roundQuotient (x.magnitude * Nat.pow 10 places) unitsOfOne

/-- A whole number with its last `places` digits behind a point. -/
def pointed (places n : Nat) : String :=
  let digits := Nat.toDigits 10 (n % Nat.pow 10 places)
  toString (n / Nat.pow 10 places) ++ "." ++
    String.ofList (List.replicate (places - digits.length) '0' ++ digits)

def fixed (places : Nat) (x : Binary64) : String :=
  let sign := if x.isNegative then "-" else ""
  if x.isNaN then "NaN"
  else if x.isInfinite then sign ++ "inf"
  else sign ++ pointed places (x.roundedMagnitude places)

end Predictor.Binary64
