import Predictor.Text.Hexadecimal
import Predictor.Text.Numeral
import Predictor.Time.Calendar

/-!
The words that TOML has for numbers, truth values, dates and times, as a class of character lists.
Underscores may stand between digits, whole numbers fit 64 bits with a sign, a positive number with
a fraction or an exponent may not round to infinity, and dates and clocks are those that exist.
-/

namespace Predictor.Toml

open Text (digitValue? hexValue?)

def isDigit (c : Char) : Bool := (digitValue? c).isSome

/-- At least one digit, with single underscores between digits only. -/
def isDigits (isDigit : Char → Bool) : List Char → Bool
  | [] => false
  | [c] => isDigit c
  | c :: '_' :: rest => isDigit c && isDigits isDigit rest
  | c :: rest => isDigit c && isDigits isDigit rest

/-- The number of a list of digits, underscores left aside. -/
def valueOf (base : Nat) (cs : List Char) : Nat :=
  (cs.filter (· != '_')).foldl (fun n c => n * base + (hexValue? c).getD 0) 0

/-! ## Numbers -/

/-- Whether a number is negative, and its text without the sign. -/
def splitSign : List Char → Bool × List Char
  | '+' :: rest => (false, rest)
  | '-' :: rest => (true, rest)
  | cs => (false, cs)

/-- Decimal digits without a zero in front. -/
def isWhole (cs : List Char) : Bool :=
  isDigits isDigit cs && (cs.length == 1 || cs.head? != some '0')

/-- What a number without its sign is made of: whole part, fraction and exponent. -/
structure Parts where
  whole : List Char
  fraction : Option (List Char)
  exponent : Option (List Char)

def isNumeral (c : Char) : Bool := isDigit c || c == '_'

def Parts.ofChars? (cs : List Char) : Option Parts :=
  let whole := cs.takeWhile isNumeral
  let (fraction, rest) := match cs.dropWhile isNumeral with
    | '.' :: rest => (some (rest.takeWhile isNumeral), rest.dropWhile isNumeral)
    | rest => (none, rest)
  match rest with
  | [] => some ⟨whole, fraction, none⟩
  | 'e' :: rest | 'E' :: rest => some ⟨whole, fraction, some rest⟩
  | _ => none

def Parts.areSound (parts : Parts) : Bool :=
  isWhole parts.whole && parts.fraction.all (isDigits isDigit) &&
    parts.exponent.all fun exponent => isDigits isDigit (splitSign exponent).2

/-- Half a step above the largest finite number: from here on a number rounds to infinity. -/
def infinityBound : Nat := Nat.pow 2 1024 - Nat.pow 2 970

/-- Whether `m * 10 ^ e` rounds to infinity. The bound has 309 digits, so only a number with its
first digit there needs the comparison. -/
def roundsToInfinity (m : Nat) (e : Int) : Bool :=
  let place := (Nat.toDigits 10 m).length + e
  if m = 0 ∨ place < 309 then false
  else if 309 < place then true
  else if 0 ≤ e then infinityBound ≤ m * Nat.pow 10 e.toNat
  else infinityBound * Nat.pow 10 (-e).toNat ≤ m

def Parts.isTooLarge (parts : Parts) : Bool :=
  let fraction := (parts.fraction.getD []).filter (· != '_')
  let exponent := match splitSign (parts.exponent.getD []) with
    | (negative, digits) => if negative then -(valueOf 10 digits : Int) else valueOf 10 digits
  roundsToInfinity (valueOf 10 (parts.whole ++ fraction)) (exponent - fraction.length)

/-- Whole numbers stay below two to the 63rd. -/
def wordBound : Nat := 0x8000000000000000

def isDecimal (negative : Bool) (parts : Parts) : Bool :=
  parts.areSound &&
    if parts.fraction.isNone && parts.exponent.isNone then
      valueOf 10 parts.whole < wordBound + (if negative then 1 else 0)
    else negative || !parts.isTooLarge

/-- A whole number in base 16, 8 or 2, after the mark of its base. -/
def isMarked : List Char → Bool
  | '0' :: 'x' :: cs => isDigits (fun c => (hexValue? c).isSome) cs && valueOf 16 cs < wordBound
  | '0' :: 'o' :: cs => isDigits (fun c => '0' ≤ c && c ≤ '7') cs && valueOf 8 cs < wordBound
  | '0' :: 'b' :: cs => isDigits (fun c => c == '0' || c == '1') cs && valueOf 2 cs < wordBound
  | _ => false

def isNumber (cs : List Char) : Bool :=
  let (negative, digits) := splitSign cs
  isMarked cs || digits == "inf".toList || digits == "nan".toList ||
    (Parts.ofChars? digits).any (isDecimal negative)

/-! ## Dates and times -/

/-- The number of digits that all are decimal. -/
def field? (cs : List Char) : Option Nat :=
  if cs.all isDigit then some (valueOf 10 cs) else none

def isDate : List Char → Bool
  | [y1, y2, y3, y4, '-', m1, m2, '-', d1, d2] =>
    match field? [y1, y2, y3, y4], field? [m1, m2], field? [d1, d2] with
    | some year, some month, some day => (⟨year, month, day⟩ : Time.Date).isValid
    | _, _, _ => false
  | _ => false

def isOffset : List Char → Bool
  | ['Z'] | ['z'] => true
  | [sign, h1, h2, ':', m1, m2] =>
    (sign == '+' || sign == '-') && (field? [h1, h2]).any (· ≤ 23) && (field? [m1, m2]).any (· ≤ 59)
  | _ => false

/-- A clock with a fraction of the second or none, and what follows it. -/
def afterClock? : List Char → Option (List Char)
  | h1 :: h2 :: ':' :: m1 :: m2 :: ':' :: s1 :: s2 :: rest =>
    if (field? [h1, h2]).any (· ≤ 23) && (field? [m1, m2]).any (· ≤ 59) &&
        (field? [s1, s2]).any (· ≤ 60) then
      match rest with
      | '.' :: d :: rest => if isDigit d then some (rest.dropWhile isDigit) else none
      | rest => some rest
    else none
  | _ => none

/-- The letters, or the blank, between a date and a clock. -/
def isDateEnd (c : Char) : Bool := c == 'T' || c == 't' || c == ' '

def isMoment (cs : List Char) : Bool :=
  afterClock? cs == some [] ||
    isDate (cs.take 10) && match cs.drop 10 with
      | [] => true
      | c :: clock => isDateEnd c && (afterClock? clock).any fun rest => rest == [] || isOffset rest

/-! ## Words -/

def isWordChar (c : Char) : Bool :=
  isDigit c || ('a' ≤ c && c ≤ 'z') || ('A' ≤ c && c ≤ 'Z') || c == '_' || c == '-' || c == '+' ||
    c == '.' || c == ':'

def isScalar (cs : List Char) : Bool :=
  cs == "true".toList || cs == "false".toList || isNumber cs || isMoment cs

/-- The word in front; a date goes on after one blank when a clock follows. -/
def frontWord (cs : List Char) : List Char :=
  let word := cs.takeWhile isWordChar
  match cs.dropWhile isWordChar with
  | ' ' :: c :: rest =>
    if isDate word && isDigit c then word ++ ' ' :: (c :: rest).takeWhile isWordChar else word
  | _ => word

end Predictor.Toml
