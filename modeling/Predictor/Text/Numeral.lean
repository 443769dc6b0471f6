/-!
Whole numbers written in decimal digits, with an optional sign, inside fixed limits. The digits are
read from the left; the first fault met ends the reading, so a number that has already grown too
large is reported before a bad character that follows.
-/

namespace Predictor.Text

/-- Why a text is no number. -/
inductive NumeralFault
  | empty
  | invalidDigit
  | tooLarge
  | tooSmall
  deriving DecidableEq, Repr

def NumeralFault.message : NumeralFault → String
  | .empty => "cannot parse integer from empty string"
  | .invalidDigit => "invalid digit found in string"
  | .tooLarge => "number too large to fit in target type"
  | .tooSmall => "number too small to fit in target type"

/-- The value of a decimal digit. -/
def digitValue? (c : Char) : Option Nat :=
  if '0' ≤ c ∧ c ≤ '9' then some (c.toNat - '0'.toNat) else none

/-- Reads further digits onto `value`; `fault` is reported when the result would pass `limit`. -/
def digitsOnto (limit : Nat) (fault : NumeralFault) (value : Nat) :
    List Char → Except NumeralFault Nat
  | [] => .ok value
  | c :: rest =>
    match digitValue? c with
    | none => .error .invalidDigit
    | some d =>
      if limit < value * 10 + d then .error fault
      else digitsOnto limit fault (value * 10 + d) rest

/-- A natural number up to `limit`: an optional `+` and at least one digit. -/
def natural (limit : Nat) : List Char → Except NumeralFault Nat
  | [] => .error .empty
  | '+' :: rest => if rest.isEmpty then .error .invalidDigit else digitsOnto limit .tooLarge 0 rest
  | cs => digitsOnto limit .tooLarge 0 cs

/-- A whole number from `-below` to `above`: an optional sign and at least one digit. -/
def integer (below above : Nat) : List Char → Except NumeralFault Int
  | [] => .error .empty
  | '+' :: rest =>
    if rest.isEmpty then .error .invalidDigit
    else (digitsOnto above .tooLarge 0 rest).map Int.ofNat
  | '-' :: rest =>
    if rest.isEmpty then .error .invalidDigit
    else (digitsOnto below .tooSmall 0 rest).map fun n => -Int.ofNat n
  | cs => (digitsOnto above .tooLarge 0 cs).map Int.ofNat

/-- The largest unsigned word of 64 bits. -/
def maxWord64 : Nat := 0xFFFFFFFFFFFFFFFF

end Predictor.Text
