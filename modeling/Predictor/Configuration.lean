import Predictor.Error
import Predictor.Text.Blank
import Predictor.Text.Numeral
import Predictor.Text.Utf8

/-!
The settings of a run, read from environment variables. A variable is present when its bytes are
UTF-8 and not all blank; any other one counts as unset. Numbers are read without the blanks around
them, texts are kept as they are, and of several problems the first in the order of `ofEnvironment`
is reported.
-/

namespace Predictor

/-- The bytes of each variable that is set. -/
def Environment : Type := String → Option Bytes

namespace Environment

/-- The environment of a list of settings; the first one of a name counts. -/
def ofList (settings : List (String × Bytes)) : Environment := fun name => settings.lookup name

/-- The text of a variable that is present. -/
def present? (environment : Environment) (name : String) : Option String :=
  ((environment name).bind textOf?).filter fun text => !Text.isBlankText text

end Environment

structure Configuration where
  databaseUrl : String
  classifierUrl : String
  classifierApiKey : Option String
  /-- Seconds that a classification call may take. -/
  classifierTimeout : UInt64
  maxInFlight : UInt64
  /-- The file of the label table. -/
  labelsPath : Option String
  telemetryEndpoint : Option String
  logLevel : String
  deriving DecidableEq, Repr

namespace Configuration

inductive Problem
  /-- The text of a variable is no number. -/
  | malformed (name text : String) (fault : Text.NumeralFault)
  /-- No prediction could ever be in flight. -/
  | noCapacity
  | missing (name : String)
  deriving DecidableEq, Repr

def Problem.message : Problem → String
  | .malformed name text fault =>
    "invalid " ++ name ++ "=" ++ Text.quoted text ++ ": " ++ fault.message
  | .noCapacity => "MAX_IN_FLIGHT must be at least 1"
  | .missing name => "required environment variable " ++ name ++ " is not set"

def defaultMaxInFlight : UInt64 := 4
def defaultTimeout : UInt64 := 30
def defaultLogLevel : String := "info"

/-- A number of 64 bits; an absent one takes its default. -/
def number (environment : Environment) (name : String) (default : UInt64) :
    Except Problem UInt64 :=
  match environment.present? name with
  | none => .ok default
  | some text =>
    match Text.natural Text.maxWord64 (Text.trimChars text.toList) with
    | .ok n => .ok (UInt64.ofNat n)
    | .error fault => .error (.malformed name text fault)

def required (environment : Environment) (name : String) : Except Problem String :=
  match environment.present? name with
  | some text => .ok text
  | none => .error (.missing name)

def ofEnvironment (environment : Environment) : Except Problem Configuration := do
  let maxInFlight ← number environment "MAX_IN_FLIGHT" defaultMaxInFlight
  if maxInFlight = 0 then .error .noCapacity
  else do
    let classifierTimeout ← number environment "CLASSIFIER_TIMEOUT_SECS" defaultTimeout
    let databaseUrl ← required environment "DATABASE_URL"
    let classifierUrl ← required environment "CLASSIFIER_URL"
    .ok {
      databaseUrl, classifierUrl, classifierTimeout, maxInFlight
      classifierApiKey := environment.present? "CLASSIFIER_API_KEY"
      labelsPath := environment.present? "LABELS_PATH"
      telemetryEndpoint := environment.present? "OTEL_ENDPOINT"
      logLevel := (environment.present? "LOG_LEVEL").getD defaultLogLevel }

/-- The configuration, or its problem as an error. -/
def load (environment : Environment) : Except Error Configuration :=
  (ofEnvironment environment).mapError fun problem => .configuration problem.message

end Configuration

end Predictor
