import Predictor.Database.Statement
import Predictor.Store.Basic

/-!
A store of predictions over a database server. Each call sends its statements in order and turns the
replies into its result; an update that changes no row is followed by a look at the status, which
tells an unknown record from one that is over.
-/

namespace Predictor.Database

/-- A server answers queries one after the other. -/
class Server (σ : Type) where
  answer : σ → Query → Reply × σ

structure Connection (σ : Type) where
  server : σ
  /-- The ids of new records. -/
  ids : Nat → PredictionId
  issued : Nat
  /-- All statements so far. -/
  sent : List Statement

namespace Connection

variable {σ : Type}

def start (server : σ) (ids : Nat → PredictionId) : Connection σ := ⟨server, ids, 0, []⟩

variable [Server σ]

def send (c : Connection σ) (statement : Statement) : Reply × Connection σ :=
  let (reply, server) := Server.answer c.server statement.query
  (reply, { c with server, sent := c.sent ++ [statement] })

/-! ## Writing -/

/-- The record of the first row of a reply. -/
def created (reply : Reply) : Except Error Prediction := do
  match ← reply.toRows with
  | row :: _ => row.toPrediction
  | [] => .error (.database .noRow)

def create (c : Connection σ) (owner resource : String) : Except Error Prediction × Connection σ :=
  let (reply, c) := c.send (.insert (c.ids c.issued) owner resource)
  (created reply, { c with issued := c.issued + 1 })

/-- Why an outcome was written nowhere, by the status that the record has. -/
def refusal (id : PredictionId) (outcome : Outcome) (reply : Reply) : Error :=
  match reply.toStatuses with
  | .error error => error
  | .ok [] => .notFound id.text
  | .ok (source :: _) => .invalidTransition source outcome.status.text

def finalize (c : Connection σ) (id : PredictionId) (outcome : Outcome) :
    Except Error Unit × Connection σ :=
  let (reply, c) := c.send (.update (.ofOutcome outcome) id)
  match reply.toCount with
  | .error error => (.error error, c)
  | .ok 0 =>
    let (reply, c) := c.send (.statusOf id)
    (.error (refusal id outcome reply), c)
  | .ok _ => (.ok (), c)

/-! ## Reading -/

def found (id : PredictionId) (reply : Reply) : Except Error Prediction := do
  match ← reply.toRows with
  | row :: _ => row.toPrediction
  | [] => .error (.notFound id.text)

def get (c : Connection σ) (id : PredictionId) : Except Error Prediction × Connection σ :=
  let (reply, c) := c.send (.select id)
  (found id reply, c)

/-- The records of all rows; the first row that is no record is reported. -/
def listed (reply : Reply) : Except Error (List Prediction) := do
  (← reply.toRows).mapM Row.toPrediction

def list (c : Connection σ) (status : Option Status) (owner : Option String) (limit : Int64) :
    Except Error (List Prediction) × Connection σ :=
  let (reply, c) := c.send (.list status owner limit)
  (listed reply, c)

def checkHealth (c : Connection σ) : Except Error Unit × Connection σ :=
  let (reply, c) := c.send .ping
  (reply.toRows.map fun _ => (), c)

instance : PredictionStore (Connection σ) where
  create := create
  finalize := finalize
  get := get

end Connection

end Predictor.Database
