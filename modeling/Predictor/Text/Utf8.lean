/-!
Texts as bytes in UTF-8. `textOf?` reads bytes that are the UTF-8 form of a text; `mend` reads any
bytes, with U+FFFD for each longest piece that no character has: a lead byte with those of its
following bytes that are in place, or a single byte that begins no character.
-/

namespace Predictor

abbrev Bytes := List UInt8

/-- The bytes of a text in UTF-8. -/
def bytesOf (s : String) : Bytes := s.toUTF8.toList

/-- The text that bytes are the UTF-8 form of. -/
def textOf? (bytes : Bytes) : Option String := String.fromUTF8? ⟨bytes.toArray⟩

namespace Text

/-- A character in the middle: the bits so far, how many bytes are to come, and the range in which
the next one lies. -/
structure Partial where
  bits : Nat
  left : Nat
  low : Nat
  high : Nat
  deriving DecidableEq, Repr

/-- What a lead byte of several begins. -/
def lead? (b : Nat) : Option Partial :=
  if 0xC2 ≤ b ∧ b ≤ 0xDF then some ⟨b % 0x20, 1, 0x80, 0xBF⟩
  else if b = 0xE0 then some ⟨0, 2, 0xA0, 0xBF⟩
  else if b = 0xED then some ⟨0xD, 2, 0x80, 0x9F⟩
  else if 0xE1 ≤ b ∧ b ≤ 0xEF then some ⟨b % 0x10, 2, 0x80, 0xBF⟩
  else if b = 0xF0 then some ⟨0, 3, 0x90, 0xBF⟩
  else if b = 0xF4 then some ⟨4, 3, 0x80, 0x8F⟩
  else if 0xF1 ≤ b ∧ b ≤ 0xF3 then some ⟨b % 8, 3, 0x80, 0xBF⟩
  else none

/-- The character that stands for what cannot be read. -/
def replacement : Char := '\uFFFD'

/-- What a byte gives that comes after a whole character. -/
def beginCharacter (b : UInt8) : List Char × Option Partial :=
  if b < 0x80 then ([Char.ofNat b.toNat], none)
  else match lead? b.toNat with
    | some part => ([], some part)
    | none => ([replacement], none)

/-- What a byte gives between characters, or in the middle of one. -/
def readByte : Option Partial → UInt8 → List Char × Option Partial
  | none, b => beginCharacter b
  | some part, b =>
    if part.low ≤ b.toNat ∧ b.toNat ≤ part.high then
      let bits := part.bits * 0x40 + b.toNat % 0x40
      if part.left ≤ 1 then ([Char.ofNat bits], none)
      else ([], some ⟨bits, part.left - 1, 0x80, 0xBF⟩)
    else
      let (read, state) := beginCharacter b
      (replacement :: read, state)

def mendFrom : Option Partial → Bytes → List Char
  | none, [] => []
  | some _, [] => [replacement]
  | state, b :: rest =>
    let (read, state) := readByte state b
    read ++ mendFrom state rest

/-- The characters of any bytes. -/
def mend (bytes : Bytes) : List Char := mendFrom none bytes

end Text

end Predictor
