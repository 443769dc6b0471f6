import Predictor.Json.Text
import Predictor.Json.Numeral

/-!
The tokens of a JSON text. `Token.scan?` reads all bytes in one pass: the scanner is between tokens,
or inside a word, a number or a string. A string token keeps what stands between its quotes as it is
written, with escapes checked for their form only; a number token keeps its bytes.
-/

namespace Predictor.Json

inductive Word
  | null
  | true_
  | false_
  deriving DecidableEq, Repr

inductive Token
  | openObject
  | closeObject
  | openArray
  | closeArray
  | colon
  | comma
  | word (w : Word)
  | number (text : Bytes)
  | string (inside : Bytes)
  deriving DecidableEq, Repr

namespace Word

def text : Word → Bytes
  | .null => [110, 117, 108, 108]
  | .true_ => [116, 114, 117, 101]
  | .false_ => [102, 97, 108, 115, 101]

def ofBytes? (bytes : Bytes) : Option Word :=
  [Word.null, .true_, .false_].find? fun w => w.text == bytes

end Word

/-- Where a scanner stands; what it has read of an open token has its last byte first. -/
inductive Mode
  | between
  | word (read : Bytes)
  | number (read : Bytes)
  | string (read : Bytes)
  | escape (read : Bytes)
  | hex (left : Nat) (read : Bytes)

structure Scanner where
  mode : Mode
  /-- The tokens read, last one first. -/
  tokens : List Token

namespace Scanner

def isSpace (b : UInt8) : Bool := b == 32 || b == 9 || b == 10 || b == 13

def isLetter (b : UInt8) : Bool := 97 ≤ b && b ≤ 122

/-- Bytes that can stand in a number: digits, signs, the point and the letter of the exponent. -/
def isNumberByte (b : UInt8) : Bool :=
  Numeral.isDigit b || b == 43 || b == 45 || b == 46 || b == 101 || b == 69

/-- The token of one byte. -/
def mark? (b : UInt8) : Option Token :=
  match b.toNat with
  | 0x7B => some .openObject
  | 0x7D => some .closeObject
  | 0x5B => some .openArray
  | 0x5D => some .closeArray
  | 0x3A => some .colon
  | 0x2C => some .comma
  | _ => none

/-- One byte between tokens. -/
def begin? (tokens : List Token) (b : UInt8) : Option Scanner :=
  if isSpace b then some ⟨.between, tokens⟩
  else if b = 34 then some ⟨.string [], tokens⟩
  else if isLetter b then some ⟨.word [b], tokens⟩
  else if Numeral.isDigit b || b = 45 then some ⟨.number [b], tokens⟩
  else (mark? b).map fun t => ⟨.between, t :: tokens⟩

def endWord? (tokens : List Token) (read : Bytes) : Option (List Token) :=
  (Word.ofBytes? read.reverse).map fun w => .word w :: tokens

def endNumber? (tokens : List Token) (read : Bytes) : Option (List Token) :=
  (Numeral.ofBytes? read.reverse).map fun _ => .number read.reverse :: tokens

def step? (s : Scanner) (b : UInt8) : Option Scanner :=
  match s.mode with
  | .between => begin? s.tokens b
  | .word read =>
    if isLetter b then some ⟨.word (b :: read), s.tokens⟩
    else (endWord? s.tokens read).bind (begin? · b)
  | .number read =>
    if isNumberByte b then some ⟨.number (b :: read), s.tokens⟩
    else (endNumber? s.tokens read).bind (begin? · b)
  | .string read =>
    if b = 34 then some ⟨.between, .string read.reverse :: s.tokens⟩
    else if b = 92 then some ⟨.escape (b :: read), s.tokens⟩
    else if b < 32 then none
    else some ⟨.string (b :: read), s.tokens⟩
  | .escape read =>
    if b = 117 then some ⟨.hex 4 (b :: read), s.tokens⟩
    else (simpleEscape? b).map fun _ => ⟨.string (b :: read), s.tokens⟩
  | .hex left read =>
    (hexValue? b).map fun _ =>
      if left ≤ 1 then ⟨.string (b :: read), s.tokens⟩ else ⟨.hex (left - 1) (b :: read), s.tokens⟩

def finish? (s : Scanner) : Option (List Token) :=
  match s.mode with
  | .between => some s.tokens.reverse
  | .word read => (endWord? s.tokens read).map List.reverse
  | .number read => (endNumber? s.tokens read).map List.reverse
  | _ => none

end Scanner

/-- The tokens of a text, when every byte of it belongs to one or is a space between two. -/
def Token.scan? (bytes : Bytes) : Option (List Token) :=
  (bytes.foldlM Scanner.step? ⟨.between, []⟩).bind Scanner.finish?

end Predictor.Json
