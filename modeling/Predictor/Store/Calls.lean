import Predictor.Store.Basic

/-!
The calls of a store as data, so that what a store replies to a sequence of them can be stated.
-/

namespace Predictor

inductive StoreCall
  | create (owner resource : String)
  | finalize (id : PredictionId) (outcome : Outcome)
  | get (id : PredictionId)
  deriving DecidableEq, Repr

inductive StoreReply
  | created (result : Except Error Prediction)
  | finalized (result : Except Error Unit)
  | found (result : Except Error Prediction)

namespace PredictionStore

variable {σ : Type} [PredictionStore σ]

/-- The reply to a call, and the store after it. -/
def serve (store : σ) : StoreCall → StoreReply × σ
  | .create owner resource =>
    let (result, store) := create store owner resource
    (.created result, store)
  | .finalize id outcome =>
    let (result, store) := finalize store id outcome
    (.finalized result, store)
  | .get id =>
    let (result, store) := get store id
    (.found result, store)

/-- The replies to calls that come one after the other. -/
def serveAll (store : σ) : List StoreCall → List StoreReply × σ
  | [] => ([], store)
  | call :: rest =>
    let (reply, store) := serve store call
    let (replies, store) := serveAll store rest
    (reply :: replies, store)

end PredictionStore

end Predictor
