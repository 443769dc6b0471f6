import Predictor.Binary64.Shortest

/-!
Texts of binary64 numbers: the shortest decimal that reads back, laid out by a `Layout`.
-/

namespace Predictor.Binary64

/-- How the digits of a decimal are laid out. -/
structure Layout where
  /-- Exponents of the first digit written positionally: from `least` up to, and not at, `most`. -/
  least : Int
  most : Int
  /-- Whether a positional whole number keeps one decimal place. -/
  wholePlace : Bool
  /-- Sign written before an exponent that is not negative. -/
  plus : String

def decimalDigits (n : Nat) : String := String.ofList (Nat.toDigits 10 n)

def zeros (n : Nat) : String := String.ofList (List.replicate n '0')

/-- A decimal with the point where its exponent puts it. -/
def Layout.positional (layout : Layout) (digits : List Char) (e : Int) : String :=
  if e < 0 then
    "0." ++ zeros (-e - 1).toNat ++ String.ofList digits
  else
    let whole := e.toNat + 1
    if digits.length ≤ whole then
      String.ofList digits ++ zeros (whole - digits.length) ++
        (if layout.wholePlace then ".0" else "")
    else
      String.ofList (digits.take whole) ++ "." ++ String.ofList (digits.drop whole)

/-- A decimal with its first digit before the point, and the exponent behind. -/
def Layout.scientific (layout : Layout) (digits : List Char) (e : Int) : String :=
  let first := String.ofList (digits.take 1)
  let rest := digits.drop 1
  let point := if rest.isEmpty then "" else "." ++ String.ofList rest
  let exponent :=
    if e < 0 then "-" ++ decimalDigits e.natAbs else layout.plus ++ decimalDigits e.natAbs
  first ++ point ++ "e" ++ exponent

def Layout.write (layout : Layout) (digits : List Char) (e : Int) : String :=
  if layout.least ≤ e ∧ e < layout.most then layout.positional digits e
  else layout.scientific digits e

/-- A finite number in the fewest digits that read back; a zero keeps its sign. -/
def writeShortest (layout : Layout) (x : Binary64) : String :=
  let sign := if x.isNegative then "-" else ""
  if x.magnitude = 0 then sign ++ layout.write ['0'] 0
  else
    let d := x.shortest
    let digits := Nat.toDigits 10 d.digits
    sign ++ layout.write digits (d.exponent + digits.length - 1)

end Predictor.Binary64
