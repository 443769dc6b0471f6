import Predictor.Binary64.Basic

/-!
What a classification says of a resource: the winning category with its confidence, or that there is
no answer.
-/

namespace Predictor

inductive Label
  | category (index : UInt32) (name : String) (confidence : Binary64)
  | undefined
  deriving DecidableEq, Repr

namespace Label

/-- The name written for a label without a category. -/
def undefinedName : String := "undefined"

def name : Label → String
  | .category _ name _ => name
  | .undefined => undefinedName

end Label

end Predictor
