import Predictor.Text.Utf8

/-!
Bytes in sixty-four characters: three bytes make four characters, and equals signs fill the last
four.
-/

namespace Predictor.Text

def base64Digit (n : Nat) : Char :=
  if n < 26 then Char.ofNat ('A'.toNat + n)
  else if n < 52 then Char.ofNat ('a'.toNat + (n - 26))
  else if n < 62 then Char.ofNat ('0'.toNat + (n - 52))
  else if n = 62 then '+' else '/'

/-- The digits of 24 bits, the first one first. -/
def base64Digits (n : Nat) : List Char :=
  [0x40000, 0x1000, 0x40, 1].map fun unit => base64Digit (n / unit % 64)

def base64 : Bytes → List Char
  | [] => []
  | [a] => (base64Digits (a.toNat * 0x10000)).take 2 ++ ['=', '=']
  | [a, b] => (base64Digits (a.toNat * 0x10000 + b.toNat * 0x100)).take 3 ++ ['=']
  | a :: b :: c :: rest =>
    base64Digits (a.toNat * 0x10000 + b.toNat * 0x100 + c.toNat) ++ base64 rest

end Predictor.Text
