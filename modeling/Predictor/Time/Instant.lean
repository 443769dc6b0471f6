import Predictor.Time.Calendar

/-!
Instants in Coordinated Universal Time, to the nanosecond. A second 60 is kept: its nanoseconds go
on past 10^9 in the second before it. Instants are written in the form of RFC 3339, and with a space
and a `UTC` for readers; the decimal places are the fewest of 0, 3, 6 and 9 that lose nothing.
-/

namespace Predictor.Time

structure Instant where
  /-- Days from 1970-01-01. -/
  day : Int
  /-- Second of the day. -/
  second : Nat
  /-- Nanosecond of the second, at least 10^9 inside a second 60. -/
  nano : Nat
  second_lt : second < 86400
  nano_lt : nano < 2000000000
  deriving DecidableEq, Repr

namespace Instant

def date (t : Instant) : Date := Date.ofDays t.day

def hour (t : Instant) : Nat := t.second / 3600
def minute (t : Instant) : Nat := t.second / 60 % 60

/-- The second of the minute as it is written: 60 inside an inserted second. -/
def secondOfMinute (t : Instant) : Nat := t.second % 60 + t.nano / 1000000000

/-- Ordering in time; an inserted second comes after the second that it follows. -/
def le (t u : Instant) : Bool :=
  decide (t.day < u.day) ||
    (t.day == u.day && (decide (t.second < u.second) ||
      (t.second == u.second && decide (t.nano ≤ u.nano))))

/-- The instant a count of microseconds after 1970-01-01. -/
def ofMicroseconds (n : Int) : Instant :=
  { day := n / 86400000000
    second := (n % 86400000000 / 1000000).toNat
    nano := (n % 1000000 * 1000).toNat
    second_lt := by omega
    nano_lt := by omega }

/-! ## Texts -/

/-- A number with zeros in front up to `width` digits. -/
def padded (width n : Nat) : String :=
  let digits := Nat.toDigits 10 n
  String.ofList (List.replicate (width - digits.length) '0' ++ digits)

/-- Years of four digits are written bare, all others with their sign. -/
def yearText (year : Int) : String :=
  if 0 ≤ year ∧ year ≤ 9999 then padded 4 year.toNat
  else (if year < 0 then "-" else "+") ++ padded 4 year.natAbs

def dateText (date : Date) : String :=
  yearText date.year ++ "-" ++ padded 2 date.month ++ "-" ++ padded 2 date.day

def fractionText (nano : Nat) : String :=
  if nano = 0 then ""
  else if nano % 1000000 = 0 then "." ++ padded 3 (nano / 1000000)
  else if nano % 1000 = 0 then "." ++ padded 6 (nano / 1000)
  else "." ++ padded 9 nano

def clockText (t : Instant) : String :=
  padded 2 t.hour ++ ":" ++ padded 2 t.minute ++ ":" ++ padded 2 t.secondOfMinute ++
    fractionText (t.nano % 1000000000)

/-- The form of RFC 3339 with the zone `Z`. -/
def rfc3339 (t : Instant) : String := dateText t.date ++ "T" ++ t.clockText ++ "Z"

/-- Date and time with the name of the zone, as reports show it. -/
def text (t : Instant) : String := dateText t.date ++ " " ++ t.clockText ++ " UTC"

/-- Date, hour and minute. -/
def minuteText (t : Instant) : String :=
  dateText t.date ++ " " ++ padded 2 t.hour ++ ":" ++ padded 2 t.minute

end Instant

end Predictor.Time
