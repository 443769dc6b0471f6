/-!
The four ways in which a classification service fails to classify. The message of a fault is what
the record of a failed prediction keeps as its reason.
-/

namespace Predictor

inductive ClassifyError
  | badInput (detail : String)
  | forbidden (detail : String)
  | notFound (detail : String)
  | internal (detail : String)
  deriving DecidableEq, Repr

namespace ClassifyError

/-- The short name of the kind, as logs and metrics have it. -/
def kind : ClassifyError → String
  | .badInput _ => "bad_input"
  | .forbidden _ => "forbidden"
  | .notFound _ => "not_found"
  | .internal _ => "internal"

def message : ClassifyError → String
  | .badInput detail => "bad input: " ++ detail
  | .forbidden detail => "forbidden: " ++ detail
  | .notFound detail => "not found: " ++ detail
  | .internal detail => "internal error: " ++ detail

end ClassifyError

end Predictor
