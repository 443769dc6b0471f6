import Predictor.Text.Hexadecimal
import Predictor.Text.Utf8

/-!
Percent-encoding. A part of a URL has a set of ASCII characters that are encoded in it; controls and
all characters beyond ASCII are encoded everywhere, byte by byte of their UTF-8 form.
-/

namespace Predictor.Url

/-- Controls of ASCII. -/
def isControl (c : Char) : Bool := c.toNat < 0x20 || c.toNat == 0x7F

def isOneOf (set : String) (c : Char) : Bool := set.toList.contains c

/-! ## The characters encoded in each part -/

def inFragment (c : Char) : Bool := isControl c || isOneOf " \"<>\x60" c
def inPath (c : Char) : Bool := inFragment c || isOneOf "#?\x7b\x7d" c
def inUserInfo (c : Char) : Bool := inPath c || isOneOf "/:;=@[\\]^|" c
def inQuery (c : Char) : Bool := isControl c || isOneOf " \"#<>" c
def inSpecialQuery (c : Char) : Bool := inQuery c || c == '\x27'

/-! ## Writing and reading -/

/-- A byte as a percent sign and two digits in upper case. -/
def encodeByte (b : UInt8) : List Char :=
  '%' :: (Text.fixedHex 2 b.toNat).map Char.toUpper

def encodeChar (inSet : Char → Bool) (c : Char) : List Char :=
  if c.toNat < 0x80 && !inSet c then [c]
  else (bytesOf (String.singleton c)).flatMap encodeByte

def encode (inSet : Char → Bool) (cs : List Char) : List Char := cs.flatMap (encodeChar inSet)

/-- The bytes that a text denotes; a percent sign without two digits stands for itself. -/
def decode : List Char → Bytes
  | [] => []
  | '%' :: a :: b :: rest =>
    match Text.hexValue? a, Text.hexValue? b with
    | some x, some y => UInt8.ofNat (x * 16 + y) :: decode rest
    | _, _ => bytesOf "%" ++ decode (a :: b :: rest)
  | c :: rest => bytesOf (String.singleton c) ++ decode rest

end Predictor.Url
