import Predictor.Classifier.Call
import Predictor.CommandLine.Submission
import Predictor.CommandLine.Usage
import Predictor.Configuration
import Predictor.Database.Address
import Predictor.Database.Migration
import Predictor.Label.File

/-!
One run of the program. The words are read first, then the configuration; telemetry is set up, the
database is connected and brought up to date, and then the command runs. Misuse ends with exit code
2, any other error with exit code 1 and its causes.
-/

namespace Predictor.CommandLine

open Database

/-- What the program finds around it. -/
structure Surroundings (σ : Type) where
  environment : Environment
  readFile : String → FileContent
  /-- A server with what it has noted of migrations. -/
  connect : Address → Except DatabaseFault (σ × Bookkeeping)
  exchange : Request → Exchange
  /-- Ids of new records. -/
  recordIds : Nat → PredictionId
  /-- Request ids for submissions that bring none. -/
  requestIds : Nat → PredictionId

/-- Where there is no server, no query is answered. -/
instance : Server Empty := ⟨fun server _ => server.elim⟩

/-- A network on which nothing can be reached; `reason` is the system's own. -/
def Surroundings.isolated (environment : Environment) (readFile : String → FileContent)
    (reason : String) (ids : Nat → PredictionId) : Surroundings Empty :=
  ⟨environment, readFile, fun _ => .error (.unreachable reason), fun _ => .unreachable, ids, ids⟩

structure Report where
  exitCode : Nat
  output : List String
  errors : List String
  deriving DecidableEq, Repr

namespace Report

def ofResult (output : List String) : Except Error Unit → Report
  | .ok () => ⟨0, output, []⟩
  | .error error => ⟨1, output, errorLines error⟩

end Report

variable {σ : Type}

/-- The configuration of a run whose telemetry can be set up. -/
def prepare (w : Surroundings σ) : Except Error Configuration := do
  let configuration ← Configuration.load w.environment
  if configuration.telemetryEndpoint.all fun s => s.startsWith "unix:" || Url.isTarget s then
    .ok configuration
  else .error .noExporter

/-- The server at the address that a text denotes. -/
def connectTo (w : Surroundings σ) (url : String) : Except Error (σ × Bookkeeping) := do
  let address ← (Address.ofText url).mapError fun fault => .database (.address fault)
  (w.connect address).mapError .database

/-- The database of a configuration, brought up to date. -/
def openDatabase [Server σ] (w : Surroundings σ) (configuration : Configuration) :
    Except Error (Connection σ) := do
  let (server, bookkeeping) ← connectTo w configuration.databaseUrl
  let (result, connection) := (Connection.start server w.recordIds).migrate bookkeeping
  result.map fun () => connection

/-! ## The commands -/

/-- What the service answers to the call of a unit of work. -/
def answerOf (w : Surroundings σ) (service : Service) (unit : Engine.Work) : Engine.Behaviour :=
  match (service.call w.exchange unit.resource unit.id unit.correlation).result with
  | .ok raw => .answers raw
  | .error error => .fails error

def loadTable (w : Surroundings σ) (configuration : Configuration) : Except Error LabelTable :=
  match configuration.labelsPath with
  | some path => LabelTable.load path (w.readFile path)
  | none => .ok ⟨[]⟩

/-- The engine of a run, with all gates of the service closed. -/
def engineFor (w : Surroundings σ) (configuration : Configuration) (table : LabelTable)
    (connection : Connection σ) : Engine.State (Connection σ) :=
  .start configuration.maxInFlight table connection (.start .panics false) w.requestIds

variable [Server σ]

def submit (w : Surroundings σ) (configuration : Configuration) (connection : Connection σ)
    (owner : String) (requestId : Option String) (resources : List String) : Report :=
  match loadTable w configuration with
  | .error error => .ofResult [] (.error error)
  | .ok table =>
    let service := Service.ofBase configuration.classifierUrl configuration.classifierApiKey
    let start := SubmitRun.start (engineFor w configuration table connection) ⟨requestId, []⟩ owner
      resources
    let ended := start.run (answerOf w service) resources
    .ofResult ended.output (ended.result?.getD (.ok ()))

def inspect (connection : Connection σ) (id : String) : Report :=
  match PredictionId.ofText id with
  | .error error => .ofResult [] (.error error)
  | .ok id =>
    match (connection.get id).1 with
    | .ok record => .ofResult (recordLines record) (.ok ())
    | .error error => .ofResult [] (.error error)

def list (connection : Connection σ) (status owner : Option String) (limit : Int64) : Report :=
  match status.mapM Status.ofText with
  | .error error => .ofResult [] (.error error)
  | .ok status =>
    match (connection.list status owner limit).1 with
    | .ok records => .ofResult (listLines records) (.ok ())
    | .error error => .ofResult [] (.error error)

def perform (w : Surroundings σ) (configuration : Configuration) (connection : Connection σ) :
    Command → Report
  | .submit owner requestId resources => submit w configuration connection owner requestId resources
  | .inspect id => inspect connection id
  | .list status owner limit => list connection status owner limit

/-- How the commands are to be used. -/
def help : List String :=
  ["Image classification prediction engine", "", "Usage: predict <COMMAND>", "", "Commands:",
    "  submit  Submit resources for classification and wait for the results",
    "  show    Show a prediction", "  list    List predictions",
    "  help    Print this message or the help of the given subcommand(s)", "", "Options:",
    "  -h, --help  Print help"]

def run (w : Surroundings σ) (words : List String) : Report :=
  match Command.ofWords words with
  | .error .help => ⟨0, help, []⟩
  | .error (.fault fault) => ⟨2, [], [fault.message]⟩
  | .ok command =>
    match prepare w with
    | .error error => .ofResult [] (.error error)
    | .ok configuration =>
      match openDatabase w configuration with
      | .error error => .ofResult [] (.error error)
      | .ok connection => perform w configuration connection command

end Predictor.CommandLine
