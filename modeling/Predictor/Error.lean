import Predictor.Database.Fault

/-!
What can go wrong, by cause, and the one wording of each cause. Only the two refusals of admission
(`capacityExceeded`, `duplicateInProgress`) are rejections: the caller may come back later.
-/

namespace Predictor

inductive Error
  /-- As many predictions as the limit allows are in flight. -/
  | capacityExceeded (limit : Nat)
  /-- The resource is being classified. -/
  | duplicateInProgress (resource : String)
  | invalidResource (reason : String)
  | notFound (what : String)
  /-- A record may not move between these two statuses. -/
  | invalidTransition (source target : String)
  | database (fault : DatabaseFault)
  | configuration (problem : String)
  | io (detail : String)
  | unknownStatus (text : String)
  | malformedId (text : String)
  | migrationFailed (problem : String)
  /-- Telemetry cannot be sent to the endpoint that is configured. -/
  | noExporter
  | other (detail : String)
  deriving DecidableEq, Repr

namespace Error

def message : Error → String
  | .capacityExceeded limit =>
    "capacity exceeded: " ++ toString limit ++ " predictions already in flight"
  | .duplicateInProgress resource => "prediction already in progress for " ++ resource
  | .invalidResource reason => "invalid resource: " ++ reason
  | .notFound what => "prediction not found: " ++ what
  | .invalidTransition source target => "invalid state transition: " ++ source ++ " -> " ++ target
  | .database fault => "database error: " ++ fault.message
  | .configuration problem => "configuration error: " ++ problem
  | .io detail => "io error: " ++ detail
  | .unknownStatus text => "unknown prediction status: " ++ text
  | .malformedId text => "invalid prediction id " ++ Text.quoted text
  | .migrationFailed problem => "migration failed: " ++ problem
  | .noExporter => "failed to create OTLP span exporter"
  | .other detail => detail

/-- The causes below the message, outermost first. -/
def causes : Error → List String
  | .database fault => fault.message :: fault.causes
  | _ => []

/-- The refusals of admission. -/
def isRejection : Error → Bool
  | .capacityExceeded _ | .duplicateInProgress _ => true
  | _ => false

end Error

end Predictor
