import Predictor.Prediction

/-!
What the engine asks of a store of predictions: to create a record that is processing, to write its
outcome once, and to read it back. A store is a value; every call returns the store after it.
-/

namespace Predictor

class PredictionStore (σ : Type) where
  create : σ → (owner resource : String) → Except Error Prediction × σ
  finalize : σ → PredictionId → Outcome → Except Error Unit × σ
  get : σ → PredictionId → Except Error Prediction × σ

end Predictor
