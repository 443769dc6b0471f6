/-!
Blank characters (the Unicode property White_Space) and trimming. A text is blank when it holds
nothing else; `trim` drops the blank characters of both ends and keeps those between.
-/

namespace Predictor.Text

/-- The characters with the property White_Space. -/
def isBlank (c : Char) : Bool :=
  let n := c.toNat
  (0x09 ≤ n && n ≤ 0x0D) || n == 0x20 || n == 0x85 || n == 0xA0 || n == 0x1680 ||
    (0x2000 ≤ n && n ≤ 0x200A) || n == 0x2028 || n == 0x2029 || n == 0x202F || n == 0x205F ||
    n == 0x3000

/-- The characters of a text without the blanks of its two ends. -/
def trimChars (cs : List Char) : List Char :=
  ((cs.dropWhile isBlank).reverse.dropWhile isBlank).reverse

/-- A text without the blanks of its two ends. -/
def trim (s : String) : String := String.ofList (trimChars s.toList)

/-- Holds when a text is empty or made of blanks only. -/
def isBlankText (s : String) : Bool := s.toList.all isBlank

end Predictor.Text
