import Predictor.Text.Utf8

/-!
The inside of a JSON string, as bytes. `escape` writes a text: quotes, backslashes and control bytes
are escaped and every other byte stands for itself. `unescape?` reads the inside of a string back to
the bytes it denotes; a `\u` escape above U+FFFF comes as a pair of surrogates, and one alone is
refused.
-/

namespace Predictor.Json

/-! ## Writing -/

/-- The digit of a value below sixteen. -/
def hexDigit (n : Nat) : UInt8 := UInt8.ofNat (if n < 10 then 48 + n else 87 + n)

def escapeByte (b : UInt8) : Bytes :=
  match b.toNat with
  | 0x22 => [0x5C, 0x22]
  | 0x5C => [0x5C, 0x5C]
  | 0x08 => [0x5C, 0x62]
  | 0x0C => [0x5C, 0x66]
  | 0x0A => [0x5C, 0x6E]
  | 0x0D => [0x5C, 0x72]
  | 0x09 => [0x5C, 0x74]
  | n =>
    if n < 0x20 then [0x5C, 0x75, 0x30, 0x30, hexDigit (n / 16), hexDigit (n % 16)] else [b]

def escape (bytes : Bytes) : Bytes := bytes.flatMap escapeByte

/-! ## Reading -/

def hexValue? (b : UInt8) : Option Nat :=
  if 48 ≤ b ∧ b ≤ 57 then some (b.toNat - 48)
  else if 97 ≤ b ∧ b ≤ 102 then some (b.toNat - 87)
  else if 65 ≤ b ∧ b ≤ 70 then some (b.toNat - 55)
  else none

/-- The number of four hexadecimal digits. -/
def hexUnit? (a b c d : UInt8) : Option Nat := do
  let a ← hexValue? a
  let b ← hexValue? b
  let c ← hexValue? c
  let d ← hexValue? d
  some (((a * 16 + b) * 16 + c) * 16 + d)

/-- The UTF-8 form of a code point. -/
def encodeScalar (n : Nat) : Bytes := bytesOf (String.singleton (Char.ofNat n))

/-- The byte that a letter after a backslash stands for. -/
def simpleEscape? (b : UInt8) : Option UInt8 :=
  match b.toNat with
  | 0x22 => some 0x22
  | 0x5C => some 0x5C
  | 0x2F => some 0x2F
  | 0x62 => some 0x08
  | 0x66 => some 0x0C
  | 0x6E => some 0x0A
  | 0x72 => some 0x0D
  | 0x74 => some 0x09
  | _ => none

/-- The code point of a pair of surrogates. -/
def joinSurrogates? (lead trail : Nat) : Option Nat :=
  if 0xDC00 ≤ trail ∧ trail ≤ 0xDFFF then
    some (0x10000 + (lead - 0xD800) * 0x400 + (trail - 0xDC00))
  else none

def unescape? : Bytes → Option Bytes
  | [] => some []
  | 0x5C :: 0x75 :: a :: b :: c :: d :: rest => do
    let n ← hexUnit? a b c d
    if 0xD800 ≤ n ∧ n ≤ 0xDBFF then
      match rest with
      | 0x5C :: 0x75 :: e :: f :: g :: h :: rest => do
        let trail ← hexUnit? e f g h
        let point ← joinSurrogates? n trail
        let more ← unescape? rest
        some (encodeScalar point ++ more)
      | _ => none
    else if 0xDC00 ≤ n ∧ n ≤ 0xDFFF then none
    else do
      let more ← unescape? rest
      some (encodeScalar n ++ more)
  | 0x5C :: b :: rest => do
    let byte ← simpleEscape? b
    let more ← unescape? rest
    some (byte :: more)
  | [0x5C] => none
  | b :: rest => do
    let more ← unescape? rest
    some (b :: more)

/-- The text that the inside of a string denotes. -/
def denoted? (inside : Bytes) : Option String := (unescape? inside).bind textOf?

end Predictor.Json
