import Predictor.Text.Blank
import Predictor.Text.Numeral
import Predictor.Time.Instant

/-!
Reading instants of RFC 3339, in a lenient form: numbers may have fewer digits than usual, a year
may carry a sign and then any count of digits, and blanks may stand before every number and sign of
punctuation. Date and time are separated by one `T`, `t` or space; the zone is `Z`, `UTC` in any
letter case, or an offset of hours and minutes below one day.

Each reader takes the characters that are left and returns what it read with what is left then.
-/

namespace Predictor.Time

open Predictor.Text

abbrev Reader (α : Type) := List Char → Option (α × List Char)

def skipBlanks (cs : List Char) : List Char := cs.dropWhile isBlank

/-- The number that decimal digits write. -/
def valueOf (digits : List Char) : Nat :=
  digits.foldl (fun n c => n * 10 + (c.toNat - '0'.toNat)) 0

/-- At least one and at most `most` digits. -/
def digits (most : Nat) : Reader Nat := fun cs =>
  let read := (cs.take most).takeWhile Char.isDigit
  if read.isEmpty then none else some (valueOf read, cs.drop read.length)

/-- Blanks, then a number of at most two digits from `least` to `greatest`. -/
def field (least greatest : Nat) : Reader Nat := fun cs => do
  let (n, rest) ← digits 2 (skipBlanks cs)
  if least ≤ n ∧ n ≤ greatest then some (n, rest) else none

/-- Blanks, then one given sign of punctuation. -/
def punctuation (mark : Char) (cs : List Char) : Option (List Char) :=
  match skipBlanks cs with
  | c :: rest => if c = mark then some rest else none
  | [] => none

/-- All digits that follow, which must stay below 2^63. -/
def signedDigits : Reader Nat := fun cs => do
  let (n, rest) ← digits cs.length cs
  if n < 0x8000000000000000 then some (n, rest) else none

/-- Four digits at most, or a sign and any count of digits. -/
def year : Reader Int := fun cs =>
  match skipBlanks cs with
  | '-' :: rest => (signedDigits rest).map fun (n, rest) => (-Int.ofNat n, rest)
  | '+' :: rest => (signedDigits rest).map fun (n, rest) => (Int.ofNat n, rest)
  | cs => (digits 4 cs).map fun (n, rest) => (Int.ofNat n, rest)

/-- An optional fraction of a second, cut to nanoseconds. -/
def fraction : Reader Nat
  | '.' :: cs =>
    let read := cs.takeWhile Char.isDigit
    if read.isEmpty then none
    else
      let kept := read.take 9
      some (valueOf kept * Nat.pow 10 (9 - kept.length), cs.drop read.length)
  | cs => some (0, cs)

def twoDigits : Reader Nat
  | a :: b :: rest => if a.isDigit && b.isDigit then some (valueOf [a, b], rest) else none
  | _ => none

/-- The seconds by which a zone is ahead of universal time. -/
def offset : Reader Int := fun cs => do
  let (ahead, rest) ← match cs with
    | '+' :: rest => some (true, rest)
    | '-' :: rest => some (false, rest)
    | '−' :: rest => some (false, rest)
    | _ => none
  let (hours, rest) ← twoDigits rest
  let (minutes, rest) ← twoDigits (rest.dropWhile fun c => c = ':' || isBlank c)
  if minutes < 60 then
    let seconds : Int := hours * 3600 + minutes * 60
    some (if ahead then seconds else -seconds, rest)
  else none

def zone : Reader Int := fun cs =>
  if (cs.take 3).map Char.toLower = ['u', 't', 'c'] then some (0, cs.drop 3)
  else match cs with
    | 'Z' :: rest => some (0, rest)
    | 'z' :: rest => some (0, rest)
    | cs => offset cs

/-- The instant of a date and a clock time in a zone `ahead` seconds ahead of universal time. -/
def instantOf? (date : Date) (hour minute second nano : Nat) (ahead : Int) : Option Instant :=
  if date.isValid ∧ -86400 < ahead ∧ ahead < 86400 then
    let inserted := if second = 60 then 1000000000 else 0
    let local_ : Int := hour * 3600 + minute * 60 + min second 59
    let days := date.toDays + (local_ - ahead) / 86400
    let clock := ((local_ - ahead) % 86400).toNat
    let year := (Date.ofDays days).year
    if h : clock < 86400 ∧ nano + inserted < 2000000000 then
      if Date.firstYear ≤ year ∧ year ≤ Date.lastYear then
        some ⟨days, clock, nano + inserted, h.1, h.2⟩
      else none
    else none
  else none

def ofRfc3339? (cs : List Char) : Option Instant := do
  let (year, cs) ← year cs
  let cs ← punctuation '-' cs
  let (month, cs) ← field 1 12 cs
  let cs ← punctuation '-' cs
  let (day, cs) ← field 1 31 cs
  let cs ← match cs with
    | c :: rest => if c = 'T' ∨ c = 't' ∨ c = ' ' then some rest else none
    | [] => none
  let (hour, cs) ← field 0 23 cs
  let cs ← punctuation ':' cs
  let (minute, cs) ← field 0 59 cs
  let cs ← punctuation ':' cs
  let (second, cs) ← field 0 60 cs
  let (nano, cs) ← fraction cs
  let (ahead, cs) ← zone (skipBlanks cs)
  if cs.all isBlank then instantOf? ⟨year, month, day⟩ hour minute second nano ahead else none

end Predictor.Time
