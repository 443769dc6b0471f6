import Predictor.Error
import Predictor.Text.Hexadecimal

/-!
Prediction ids are numbers of 128 bits. They are written as thirty-two hexadecimal digits in groups
of 8, 4, 4, 4 and 12 with hyphens between, lower case; in any letter case they are read so, or as
the bare digits, or the grouped form between braces, or the grouped form after `urn:uuid:`.
-/

namespace Predictor

structure PredictionId where
  value : BitVec 128
  deriving DecidableEq, Repr, Inhabited

namespace PredictionId

/-! ## Writing -/

/-- Thirty-two digits with hyphens between the groups. -/
def grouped (digits : List Char) : List Char :=
  digits.take 8 ++ '-' :: (digits.drop 8).take 4 ++ '-' :: (digits.drop 12).take 4 ++
    '-' :: (digits.drop 16).take 4 ++ '-' :: digits.drop 20

def toChars (id : PredictionId) : List Char := grouped (Text.fixedHex 32 id.value.toNat)

def text (id : PredictionId) : String := String.ofList id.toChars

/-! ## Reading -/

/-- Thirty-two digits, nothing between them. -/
def ofBare? (cs : List Char) : Option PredictionId :=
  if cs.length = 32 then (Text.ofHex? cs).map fun n => ⟨BitVec.ofNat 128 n⟩ else none

/-- Takes the hyphens out of the grouped form. -/
def ungrouped? (cs : List Char) : Option (List Char) :=
  if cs.length = 36 ∧ cs[8]? = some '-' ∧ cs[13]? = some '-' ∧ cs[18]? = some '-' ∧
      cs[23]? = some '-' then
    some (cs.take 8 ++ (cs.drop 9).take 4 ++ (cs.drop 14).take 4 ++ (cs.drop 19).take 4 ++
      cs.drop 24)
  else none

def ofGrouped? (cs : List Char) : Option PredictionId := (ungrouped? cs).bind ofBare?

/-- The grouped form between braces. -/
def ofBraced? (cs : List Char) : Option PredictionId :=
  if cs.length = 38 ∧ cs.head? = some '\x7b' ∧ cs.getLast? = some '\x7d' then
    ofGrouped? ((cs.drop 1).take 36)
  else none

/-- The grouped form after `urn:uuid:`. -/
def ofUrn? (cs : List Char) : Option PredictionId :=
  if (cs.take 9).map Char.toLower = "urn:uuid:".toList then ofGrouped? (cs.drop 9) else none

def ofChars? (cs : List Char) : Option PredictionId :=
  ofBare? cs <|> ofGrouped? cs <|> ofBraced? cs <|> ofUrn? cs

def ofText? (s : String) : Option PredictionId := ofChars? s.toList

def ofText (s : String) : Except Error PredictionId :=
  match ofText? s with
  | some id => .ok id
  | none => .error (.malformedId s)

end PredictionId

end Predictor
