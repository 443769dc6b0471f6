import Predictor.Database.Fault
import Predictor.Prediction

/-!
The statements that the store sends to its database, as texts with values for their parameters, and
what the server may answer. An outcome is bound to five columns, and a row is read back into a
prediction: an index passes through a signed column of the same width, and a name without an index is
the undefined label.
-/

namespace Predictor.Database

open Time

/-! ## Columns -/

/-- What an outcome writes. -/
structure OutcomeColumns where
  status : Status
  label : Option String
  categoryIndex : Option Int32
  confidence : Option Binary64
  error : Option String
  deriving DecidableEq, Repr

def OutcomeColumns.ofOutcome (outcome : Outcome) : OutcomeColumns :=
  match outcome with
  | .classified (.category index name confidence) =>
    ⟨outcome.status, some name, some index.toInt32, some confidence, none⟩
  | .classified .undefined => ⟨outcome.status, some Label.undefinedName, none, none, none⟩
  | .failed reason => ⟨outcome.status, none, none, none, some reason⟩

/-- A row of the table of predictions. -/
structure Row where
  id : PredictionId
  owner : String
  resource : String
  status : String
  label : Option String
  categoryIndex : Option Int32
  confidence : Option Binary64
  error : Option String
  createdAt : Instant
  updatedAt : Instant
  completedAt : Option Instant
  deriving DecidableEq, Repr

namespace Row

def labelOf (row : Row) : Option Label :=
  match row.label, row.categoryIndex with
  | some name, some index => some (.category index.toUInt32 name (row.confidence.getD .zero))
  | some _, none => some .undefined
  | none, _ => none

def toPrediction (row : Row) : Except Error Prediction := do
  let status ← Status.ofText row.status
  .ok { id := row.id, owner := row.owner, resource := row.resource, status, label := row.labelOf,
        error := row.error, createdAt := row.createdAt, updatedAt := row.updatedAt,
        completedAt := row.completedAt }

end Row

/-! ## Statements -/

inductive Statement
  /-- A new record, which is processing, and its row. -/
  | insert (id : PredictionId) (owner resource : String)
  /-- An outcome for a record that is still processing. -/
  | update (columns : OutcomeColumns) (id : PredictionId)
  | statusOf (id : PredictionId)
  | select (id : PredictionId)
  /-- The newest records, those of one status or owner when given. -/
  | list (status : Option Status) (owner : Option String) (limit : Int64)
  | ping
  /-- The text of a migration. -/
  | migrate (script : String)
  deriving DecidableEq, Repr

/-- What is bound to a parameter, or stands in a column. -/
inductive Value
  | null
  | text (s : String)
  | uuid (id : PredictionId)
  | int4 (n : Int32)
  | int8 (n : Int64)
  | float8 (x : Binary64)
  | time (t : Instant)
  deriving DecidableEq, Repr

def Value.ofOption {α : Type} (value : α → Value) : Option α → Value
  | some a => value a
  | none => .null

/-- What a server gets to see of a statement: its text, and the values for `$1`, `$2` and so on. -/
structure Query where
  text : String
  binds : List Value
  deriving DecidableEq, Repr

namespace Statement

/-- The columns that are read back into a prediction. -/
def columns : String :=
  "id, owner, resource, status, label, category_index, confidence, error, created_at, updated_at, completed_at"

def insertText : String :=
  "INSERT INTO predictions (id, owner, resource, status)
             VALUES ($1, $2, $3, 'processing')
             RETURNING " ++ columns

def updateText : String :=
  "UPDATE predictions
             SET status = $1, label = $2, category_index = $3, confidence = $4, error = $5,
                 updated_at = now(), completed_at = now()
             WHERE id = $6 AND status = 'processing'"

def statusText : String := "SELECT status FROM predictions WHERE id = $1"

def selectText : String := "SELECT " ++ columns ++ " FROM predictions WHERE id = $1"

def listText : String :=
  "SELECT " ++ columns ++ " FROM predictions
             WHERE ($1::text IS NULL OR status = $1)
             AND ($2::text IS NULL OR owner = $2)
             ORDER BY created_at DESC
             LIMIT $3"

def text : Statement → String
  | .insert .. => insertText
  | .update .. => updateText
  | .statusOf _ => statusText
  | .select _ => selectText
  | .list .. => listText
  | .ping => "SELECT 1"
  | .migrate script => script

def binds : Statement → List Value
  | .insert id owner resource => [.uuid id, .text owner, .text resource]
  | .update columns id =>
    [.text columns.status.text, .ofOption .text columns.label, .ofOption .int4 columns.categoryIndex,
      .ofOption .float8 columns.confidence, .ofOption .text columns.error, .uuid id]
  | .statusOf id | .select id => [.uuid id]
  | .list status owner limit =>
    [.ofOption .text (status.map Status.text), .ofOption .text owner, .int8 limit]
  | .ping | .migrate _ => []

def query (statement : Statement) : Query := ⟨statement.text, statement.binds⟩

end Statement

/-! ## Replies -/

inductive Reply
  | rows (rows : List Row)
  /-- The only column of the rows of a look at the status. -/
  | statuses (texts : List String)
  /-- How many rows an update changed. -/
  | affected (count : Nat)
  | failed (fault : DatabaseFault)
  deriving DecidableEq, Repr

namespace Reply

def toRows : Reply → Except Error (List Row)
  | .rows found => .ok found
  | .failed fault => .error (.database fault)
  | .statuses _ | .affected _ => .ok []

def toStatuses : Reply → Except Error (List String)
  | .statuses texts => .ok texts
  | .failed fault => .error (.database fault)
  | .rows _ | .affected _ => .ok []

def toCount : Reply → Except Error Nat
  | .affected count => .ok count
  | .failed fault => .error (.database fault)
  | .rows _ | .statuses _ => .ok 0

end Reply

end Predictor.Database
