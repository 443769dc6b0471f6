import Predictor.Classifier.Fault
import Predictor.Correlation
import Predictor.Status

/-!
Log events, each with the span of background work it was emitted in, if any. An event is kept by what
happened; its level, message and fields are functions of that.
-/

namespace Predictor.Telemetry

inductive Level
  | debug
  | info
  | warn
  | error
  deriving DecidableEq, Repr

def Level.text : Level → String
  | .debug => "DEBUG"
  | .info => "INFO"
  | .warn => "WARN"
  | .error => "ERROR"

/-- The span around one unit of background work. -/
structure Span where
  prediction : PredictionId
  resource : String
  requestId : String
  /-- Recorded once the outcome is written. -/
  status : Option Status
  deriving DecidableEq, Repr

def Span.name : String := "prediction.execute"

def Span.fields (span : Span) : List (String × String) :=
  [("prediction.id", span.prediction.text), ("prediction.resource", span.resource),
    ("request.id", span.requestId)] ++
    (span.status.map fun status => ("prediction.status", status.text)).toList

inductive Happening
  | admitted (id : PredictionId) (resource owner : String)
  | creationFailed (resource : String) (error : Error)
  | classificationFailed (error : ClassifyError)
  | statusTransition (target : Status)
  | finalizationFailed (id : PredictionId) (resource : String) (error : Error)
  | released (resource : String)
  /-- A header with an invalid name or value was left out. -/
  | headerDropped (name : String)
  /-- The service answered with a status that is no success. -/
  | serviceRejected (status resource : String)
  deriving DecidableEq, Repr

structure Event where
  happening : Happening
  span : Option Span
  deriving DecidableEq, Repr

namespace Happening

def level : Happening → Level
  | .admitted .. => .info
  | .creationFailed .. => .warn
  | .classificationFailed .. => .warn
  | .statusTransition .. => .info
  | .finalizationFailed .. => .error
  | .released .. => .debug
  | .headerDropped .. => .warn
  | .serviceRejected .. => .debug

def message : Happening → String
  | .admitted .. => "prediction admitted"
  | .creationFailed .. => "failed to create pending prediction"
  | .classificationFailed .. => "classification failed"
  | .statusTransition .. => "status_transition"
  | .finalizationFailed .. => "failed to finalize prediction"
  | .released .. => "admission released"
  | .headerDropped .. => "dropping invalid correlation header"
  | .serviceRejected .. => "classification service rejected request"

def fields : Happening → List (String × String)
  | .admitted id resource owner => [("id", id.text), ("resource", resource), ("owner", owner)]
  | .creationFailed resource error => [("resource", resource), ("error", error.message)]
  | .classificationFailed error => [("kind", error.kind), ("error", error.message)]
  | .statusTransition target => [("from", Status.processing.text), ("to", target.text)]
  | .finalizationFailed id resource error =>
    [("id", id.text), ("resource", resource), ("error", error.message)]
  | .released resource => [("resource", resource)]
  | .headerDropped name => [("header", name)]
  | .serviceRejected status resource => [("status", status), ("resource", resource)]

end Happening

end Predictor.Telemetry
