import Predictor.Classifier.Fault
import Predictor.Status

/-!
Metrics as the list of what was measured. Counters and the histogram count measurements of a kind;
the number in flight is the sum of its steps up and down.
-/

namespace Predictor.Telemetry

/-- How a submission ended, as far as it is counted. -/
inductive SubmissionResult
  | admitted
  | capacityExceeded
  | duplicate
  | invalid
  | error
  deriving DecidableEq, Repr

def SubmissionResult.text : SubmissionResult → String
  | .admitted => "admitted"
  | .capacityExceeded => "capacity_exceeded"
  | .duplicate => "duplicate"
  | .invalid => "invalid"
  | .error => "error"

inductive Measurement
  | submitted (result : SubmissionResult)
  | finalized (status : Status)
  | finalizeFailure
  /-- One more in flight, or one less. -/
  | inFlight (up : Bool)
  /-- A classification call returned; `fault` is the kind of its error, if it failed. -/
  | classified (fault : Option String)
  deriving DecidableEq, Repr

namespace Measurement

/-- The instrument that a measurement belongs to, and its label. -/
def instrument : Measurement → String
  | .submitted result => "predict.submitted\x7bresult=" ++ result.text ++ "\x7d"
  | .finalized status => "predict.finalized\x7bstatus=" ++ status.text ++ "\x7d"
  | .finalizeFailure => "predict.finalize_failures\x7b\x7d"
  | .inFlight _ => "predict.in_flight\x7b\x7d"
  | .classified fault =>
    "predict.classify.duration_ms\x7bresult=" ++ fault.getD "ok" ++ "\x7d"

/-- What a measurement adds to its instrument. -/
def amount : Measurement → Int
  | .inFlight false => -1
  | _ => 1

end Measurement

/-- The value of an instrument. -/
def total (measured : List Measurement) (instrument : String) : Int :=
  (measured.filter fun m => m.instrument == instrument).foldl (fun n m => n + m.amount) 0

/-- The instruments that were used, each with its value. -/
def readings (measured : List Measurement) : List (String × Int) :=
  (measured.map Measurement.instrument).eraseDups.map fun name => (name, total measured name)

end Predictor.Telemetry
