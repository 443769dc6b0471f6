import Predictor.Label.Basic
import Predictor.RawResult

/-!
Label tables name categories by index. `decode` turns a raw answer into a label: the lowest index
among those whose score is greatest, scores that are not a number left aside; without any score left
the label is undefined.
-/

namespace Predictor

/-- The names of the categories 0, 1, 2, …. -/
structure LabelTable where
  names : List String
  deriving DecidableEq, Repr

namespace LabelTable

/-- A category beyond the table is named by its index. -/
def nameOf (table : LabelTable) (index : UInt32) : String :=
  (table.names[index.toNat]?).getD ("category_" ++ toString index)

/-- Keeps the better of the best entry so far and the next one; a tie keeps the earlier. -/
def better (best : Option (UInt32 × Binary64)) (entry : UInt32 × Binary64) :
    Option (UInt32 × Binary64) :=
  if entry.2.isNaN then best
  else match best with
    | none => some entry
    | some top => if entry.2.le top.2 then best else some entry

def best (scores : Scores) : Option (UInt32 × Binary64) := scores.entries.foldl better none

def decode (table : LabelTable) (raw : RawResult) : Label :=
  match raw.scores.bind best with
  | some (index, confidence) => .category index (table.nameOf index) confidence
  | none => .undefined

end LabelTable

end Predictor
