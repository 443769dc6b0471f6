import Predictor.Classifier.Answer
import Predictor.Classifier.Service
import Predictor.Telemetry.Event

/-!
One classification call: the request goes out over the network, and the way the exchange ends is the
result of the call. Headers left out and statuses that are no success are logged.
-/

namespace Predictor

/-- How the exchange of a request ends. -/
inductive Exchange
  | answered (answer : Answer)
  /-- No connection: nothing was sent. -/
  | unreachable
  /-- No answer that could be read. -/
  | broken
  | timedOut
  /-- Every answer sent the call on to another address. -/
  | redirected
  deriving DecidableEq, Repr

namespace Exchange

/-- The result of an exchange with an address. -/
def result (url : Url) : Exchange → Except ClassifyError RawResult
  | .answered answer => answer.result
  | .unreachable | .broken => .error (.internal
      ("classification request failed: error sending request for url (" ++ url.text ++ ")"))
  | .timedOut => .error (.internal
      ("classification request timed out: error sending request for url (" ++ url.text ++ ")"))
  | .redirected => .error (.internal
      ("classification request failed: error following redirect for url (" ++ url.text ++ ")"))

end Exchange

/-- A call with all that can be seen of it. -/
structure Call where
  /-- The request, if one was sent. -/
  sent : Option Request
  result : Except ClassifyError RawResult
  events : List Telemetry.Event

namespace Service

/-- The events of an exchange. -/
def rejections (resource : String) : Exchange → List Telemetry.Event
  | .answered answer =>
    if answer.isSuccess then []
    else [⟨.serviceRejected (statusText answer.status) resource, none⟩]
  | _ => []

/-- Classifies a resource; `exchange` is the network. -/
def call (service : Service) (exchange : Request → Exchange) (resource : String)
    (id : PredictionId) (correlation : Correlation) : Call :=
  let dropped := correlation.droppedHeaders.map fun name => ⟨.headerDropped name, none⟩
  match service.request resource id correlation with
  | .error fault => ⟨none,
      .error (.internal ("classification request failed: " ++ fault.message)), dropped⟩
  | .ok request =>
    let ending := exchange request
    ⟨if ending = .unreachable then none else some request, ending.result request.url,
      dropped ++ rejections resource ending⟩

end Service

end Predictor
