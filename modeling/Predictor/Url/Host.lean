import Predictor.Url.Fault
import Predictor.Url.Percent

/-!
Hosts of URLs: names, and addresses of both versions of the Internet Protocol. The name of a special
scheme is percent-decoded and put into lower case, its labels beyond ASCII are written in Punycode,
and it is an address when its last label is a number. Characters beyond ASCII are taken as they are,
without case mapping.
-/

namespace Predictor

inductive Host
  | name (text : String)
  | ipv4 (address : UInt32)
  | ipv6 (pieces : List Nat)
  deriving DecidableEq, Repr

namespace Host

/-- The parts between separators, at least one. -/
def fields (separator : Char) : List Char → List (List Char)
  | [] => [[]]
  | c :: rest =>
    if c = separator then [] :: fields separator rest
    else match fields separator rest with
      | first :: others => (c :: first) :: others
      | [] => [[c]]

def isDigit (c : Char) : Bool := '0' ≤ c && c ≤ '9'

/-- The number of digits that all belong to a base. -/
def numberIn? (base : Nat) (cs : List Char) : Option Nat :=
  cs.foldlM (fun n c => (Text.hexValue? c).bind fun d =>
    if d < base then some (n * base + d) else none) 0

/-! ## Version 4 -/

/-- One part of an address: hexadecimal after `0x`, octal after `0`, else decimal. -/
def ipv4Part? : List Char → Option Nat
  | [] => none
  | '0' :: 'x' :: rest | '0' :: 'X' :: rest => numberIn? 16 rest
  | ['0'] => some 0
  | '0' :: rest => numberIn? 8 rest
  | cs => numberIn? 10 cs

/-- The last label of a name, a dot at its end left aside. -/
def lastLabel (labels : List (List Char)) : List Char :=
  match labels.reverse with
  | [] :: label :: _ => label
  | label :: _ => label
  | [] => []

def endsInNumber (labels : List (List Char)) : Bool :=
  let label := lastLabel labels
  !label.isEmpty && (label.all isDigit || (ipv4Part? label).isSome)

/-- An address of one to four parts; the last part fills all bytes that are left. -/
def ipv4? (labels : List (List Char)) : Option UInt32 := do
  let labels := if labels.getLast? == some [] then labels.dropLast else labels
  let parts ← labels.mapM ipv4Part?
  let last ← parts.getLast?
  let front := parts.dropLast
  if 4 < parts.length ∨ front.any (255 < ·) ∨ Nat.pow 256 (4 - front.length) ≤ last then none
  else some (UInt32.ofNat (front.zipIdx.foldl
    (fun n (part, i) => n + part * Nat.pow 256 (3 - i)) last))

def ipv4Text (address : UInt32) : String :=
  ".".intercalate ([0x1000000, 0x10000, 0x100, 1].map fun unit =>
    toString (address.toNat / unit % 256))

/-! ## Version 6 -/

/-- A decimal number up to 255 without a zero in front. -/
def octet? (cs : List Char) : Option Nat := do
  let n ← numberIn? 10 cs
  if cs.isEmpty ∨ (1 < cs.length ∧ cs.head? = some '0') ∨ 255 < n then none else some n

/-- One to four hexadecimal digits. -/
def piece? (cs : List Char) : Option Nat :=
  if cs.isEmpty ∨ 4 < cs.length then none else numberIn? 16 cs

/-- The pieces of fields; the last field may be an address of version 4. -/
def pieces? : List (List Char) → Option (List Nat)
  | [] => some []
  | [field] =>
    if field.contains '.' then do
      match ← (fields '.' field).mapM octet? with
      | [a, b, c, d] => some [a * 256 + b, c * 256 + d]
      | _ => none
    else (piece? field).map ([·])
  | field :: rest => do
    let piece ← piece? field
    let pieces ← pieces? rest
    some (piece :: pieces)

/-- What stands on the two sides of the first double colon, if there is one. -/
def splitDouble : List Char → List Char × Option (List Char)
  | ':' :: ':' :: rest => ([], some rest)
  | [] => ([], none)
  | c :: rest =>
    let (front, back) := splitDouble rest
    (c :: front, back)

/-- The pieces on one side of a double colon. -/
def sidePieces? (cs : List Char) : Option (List Nat) :=
  if cs.isEmpty then some [] else pieces? (fields ':' cs)

/-- Eight pieces; a double colon stands for at least one zero. -/
def ipv6? (cs : List Char) : Option (List Nat) :=
  match splitDouble cs with
  | (front, none) => (pieces? (fields ':' front)).filter fun pieces => pieces.length == 8
  | (front, some back) => do
    if front.contains '.' then none
    else
      let high ← sidePieces? front
      let low ← sidePieces? back
      if 7 < high.length + low.length then none
      else some (high ++ List.replicate (8 - high.length - low.length) 0 ++ low)

/-- Length of the run of zeros in front. -/
def zeroRun (pieces : List Nat) : Nat := (pieces.takeWhile (· == 0)).length

/-- Start and length of the first longest run of zeros. -/
def longestRun (pieces : List Nat) : Nat × Nat :=
  (List.range pieces.length).foldl (fun best start =>
    let run := zeroRun (pieces.drop start)
    if best.2 < run then (start, run) else best) (0, 0)

def piecesText (pieces : List Nat) : String :=
  ":".intercalate (pieces.map fun piece => String.ofList (Nat.toDigits 16 piece))

/-- The pieces with a double colon for the longest run of two zeros or more. -/
def ipv6Text (pieces : List Nat) : String :=
  let (start, run) := longestRun pieces
  if run < 2 then piecesText pieces
  else piecesText (pieces.take start) ++ "::" ++ piecesText (pieces.drop (start + run))

/-! ## Names -/

/-- Tabs, line ends and the characters that delimit the parts of a URL. -/
def isForbidden (c : Char) : Bool := c.toNat == 0 || Url.isOneOf "\t\n\r #/:<>?@[\\]^|" c

def isForbiddenInName (c : Char) : Bool := isForbidden c || Url.isControl c || c == '%'

/-- How far the next threshold moves. -/
def threshold (k bias : Nat) : Nat := min 26 (max 1 (k - bias))

def punycodeDigit (d : Nat) : Char :=
  if d < 26 then Char.ofNat ('a'.toNat + d) else Char.ofNat ('0'.toNat + (d - 26))

/-- A number in digits of varying base; `steps` bounds their count. -/
def punycodeDigits (bias : Nat) : Nat → Nat → Nat → List Char
  | 0, _, _ => []
  | steps + 1, k, q =>
    let t := threshold k bias
    if q < t then [punycodeDigit q]
    else punycodeDigit (t + (q - t) % (36 - t)) ::
      punycodeDigits bias steps (k + 36) ((q - t) / (36 - t))

/-- The bias after a number; `steps` bounds the divisions. -/
def reduceBias : Nat → Nat → Nat → Nat
  | 0, k, delta => k + 36 * delta / (delta + 38)
  | steps + 1, k, delta =>
    if 455 < delta then reduceBias steps (k + 36) (delta / 35)
    else k + 36 * delta / (delta + 38)

def nextBias (delta count : Nat) (isFirst : Bool) : Nat :=
  let delta := if isFirst then delta / 700 else delta / 2
  reduceBias 64 0 (delta + delta / count)

structure Punycode where
  /-- All characters below this one are written. -/
  bound : Nat
  delta : Nat
  bias : Nat
  written : Nat
  output : List Char

/-- Writes the places of one character. -/
def Punycode.write (label : List Char) (ascii : Nat) (p : Punycode) (char : Nat) : Punycode :=
  let p := { p with delta := p.delta + (char - p.bound) * (p.written + 1), bound := char }
  let p := label.foldl (fun p c =>
    if c.toNat < char then { p with delta := p.delta + 1 }
    else if c.toNat = char then
      { p with
        output := p.output ++ punycodeDigits p.bias 64 36 p.delta
        bias := nextBias p.delta (p.written + 1) (p.written == ascii)
        delta := 0
        written := p.written + 1 }
    else p) p
  { p with delta := p.delta + 1, bound := char + 1 }

/-- A label in ASCII. -/
def asciiLabel (label : List Char) : List Char :=
  let ascii := label.filter (·.toNat < 0x80)
  let others := ((label.filter (0x80 ≤ ·.toNat)).map Char.toNat).mergeSort
  if others.isEmpty then label
  else
    let front := if ascii.isEmpty then [] else ascii ++ ['-']
    let p := others.eraseDups.foldl (Punycode.write label ascii.length)
      ⟨0x80, 0, 72, ascii.length, []⟩
    "xn--".toList ++ front ++ p.output

/-- The host of a special scheme. -/
def ofSpecial (cs : List Char) : Except UrlFault Host :=
  match textOf? (Url.decode cs) with
  | none => .error .invalidName
  | some decoded =>
    let labels := (fields '.' (decoded.toList.map Char.toLower)).map asciiLabel
    let ascii := ['.'].intercalate labels
    if ascii.any isForbiddenInName then .error .invalidName
    else if ascii.isEmpty then .error .emptyHost
    else if endsInNumber labels then
      (ipv4? labels).elim (.error .invalidIpv4) fun address => .ok (.ipv4 address)
    else .ok (.name (String.ofList ascii))

/-- The host of any other scheme: characters stay as they are. -/
def ofOther (cs : List Char) : Except UrlFault Host :=
  if cs.any isForbidden then .error .invalidCharacter
  else .ok (.name (String.ofList (Url.encode Url.isControl cs)))

def ofChars (special : Bool) (cs : List Char) : Except UrlFault Host :=
  match cs with
  | '[' :: rest =>
    if rest.getLast? = some ']' then
      (ipv6? rest.dropLast).elim (.error .invalidIpv6) fun pieces => .ok (.ipv6 pieces)
    else .error .invalidIpv6
  | _ => if special then ofSpecial cs else ofOther cs

def text : Host → String
  | .name text => text
  | .ipv4 address => ipv4Text address
  | .ipv6 pieces => "[" ++ ipv6Text pieces ++ "]"

end Host

end Predictor
