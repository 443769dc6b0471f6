import Predictor.Id

/-!
What ties a classification call to the request it serves: the request id of the caller, or a fresh
one when the caller gave none, the prediction id, and the headers that the caller passes through.
-/

namespace Predictor

/-- What is known of the request that a submission belongs to. -/
structure RequestContext where
  requestId : Option String
  /-- Headers passed through to the classification service. -/
  forwarded : List (String × String)
  deriving DecidableEq, Repr

structure Correlation where
  requestId : String
  predictionId : PredictionId
  headers : List (String × String)
  deriving DecidableEq, Repr

namespace Correlation

def requestIdHeader : String := "X-Request-ID"
def predictionIdHeader : String := "X-Prediction-ID"

/-- Whether a context has no request id of its own: an empty one counts as none. -/
def needsFresh (context : RequestContext) : Bool :=
  match context.requestId with
  | some id => id.isEmpty
  | none => true

/-- The correlation of a prediction; `fresh` is the request id when the context has none. -/
def ofContext (fresh : PredictionId) (context : RequestContext) (id : PredictionId) : Correlation :=
  let requestId := match context.requestId with
    | some given => if given.isEmpty then fresh.text else given
    | none => fresh.text
  ⟨requestId, id, context.forwarded⟩

/-- All headers of the call, the two ids first. -/
def headerPairs (c : Correlation) : List (String × String) :=
  (requestIdHeader, c.requestId) :: (predictionIdHeader, c.predictionId.text) :: c.headers

end Correlation

end Predictor
