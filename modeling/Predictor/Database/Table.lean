import Predictor.Database.Connection
import Predictor.Database.Sql

/-!
A server that holds the table of predictions and does what the text of each query says, with the values
that are bound to its parameters. Ids are unique, an update touches the rows that meet its condition,
and a list shows the newest rows first.
-/

namespace Predictor.Database

open Time

/-! ## Values -/

namespace Value

def kind? : Value → Option Kind
  | .null => none
  | .text _ => some .text
  | .uuid _ => some .uuid
  | .int4 _ => some .int4
  | .int8 _ => some .int8
  | .float8 _ => some .float8
  | .time _ => some .time

/-- A value has its type, and null has every type. -/
def fits (kind : Kind) (value : Value) : Bool := value.kind?.all (· = kind)

def uuid? : Value → Option PredictionId
  | .uuid id => some id
  | _ => none

def text? : Value → Option String
  | .text s => some s
  | _ => none

def int4? : Value → Option Int32
  | .int4 n => some n
  | _ => none

def float8? : Value → Option Binary64
  | .float8 x => some x
  | _ => none

def time? : Value → Option Instant
  | .time t => some t
  | _ => none

/-- A value that may be missing. -/
def orNull {α : Type} (read? : Value → Option α) : Value → Option (Option α)
  | .null => some none
  | value => (read? value).map some

end Value

/-! ## Rows -/

namespace Row

def cell (row : Row) : Column → Value
  | .id => .uuid row.id
  | .owner => .text row.owner
  | .resource => .text row.resource
  | .status => .text row.status
  | .label => .ofOption .text row.label
  | .categoryIndex => .ofOption .int4 row.categoryIndex
  | .confidence => .ofOption .float8 row.confidence
  | .error => .ofOption .text row.error
  | .createdAt => .time row.createdAt
  | .updatedAt => .time row.updatedAt
  | .completedAt => .ofOption .time row.completedAt

/-- The statuses that a row may have. -/
def statuses : List String := ["processing", "completed", "failed"]

/-- The row with these cells, unless it breaks a constraint of the table. -/
def ofCells? (cells : Column → Value) : Option Row := do
  let id ← (cells .id).uuid?
  let owner ← (cells .owner).text?
  let resource ← (cells .resource).text?
  let status ← (cells .status).text?
  guard (status ∈ statuses)
  let label ← (cells .label).orNull Value.text?
  let categoryIndex ← (cells .categoryIndex).orNull Value.int4?
  let confidence ← (cells .confidence).orNull Value.float8?
  let error ← (cells .error).orNull Value.text?
  let createdAt ← (cells .createdAt).time?
  let updatedAt ← (cells .updatedAt).time?
  let completedAt ← (cells .completedAt).orNull Value.time?
  return { id, owner, resource, status, label, categoryIndex, confidence, error, createdAt,
           updatedAt, completedAt }

end Row

/-- What stands in a column of a new row when nothing is said of it. -/
def Column.default (now : Instant) : Column → Value
  | .status => .text "processing"
  | .createdAt | .updatedAt => .time now
  | _ => .null

/-! ## What commands mean -/

namespace Sql

def Expression.value (binds : List Value) (now : Instant) : Expression → Value
  | .parameter place => binds.getD place .null
  | .text s => .text s
  | .now => .time now

/-- The cells that are assigned, and the others as they are without that. -/
def assigned (cells : List (Column × Expression)) (binds : List Value) (now : Instant)
    (others : Column → Value) (column : Column) : Value :=
  match cells.lookup column with
  | some value => value.value binds now
  | none => others column

/-- Whether a row is known to meet the condition: a comparison with null is not known to hold, and in
conjunctions and disjunctions that is as good as false. -/
def Condition.holds (binds : List Value) (now : Instant) : Condition → Row → Bool
  | .equal column value, row =>
    value.value binds now != .null && row.cell column == value.value binds now
  | .isNull place, _ => binds.getD place .null == .null
  | .both a b, row => a.holds binds now row && b.holds binds now row
  | .either a b, row => a.holds binds now row || b.holds binds now row

/-- Expressions with the types that they are to have. -/
def Condition.demands : Condition → List (Expression × Kind)
  | .equal column value => [(value, column.kind)]
  | .isNull place => [(.parameter place, .text)]
  | .both a b | .either a b => a.demands ++ b.demands

def demandsOf (cells : List (Column × Expression)) : List (Expression × Kind) :=
  cells.map fun (column, value) => (value, column.kind)

def Command.demands : Command → List (Expression × Kind)
  | .insert cells _ => demandsOf cells
  | .update cells condition => demandsOf cells ++ condition.demands
  | .select _ condition newest => condition.demands ++ newest.toList.map fun limit => (limit, .int8)
  | .one | .createMissing => []

/-- How many values have to be bound for an expression. -/
def Expression.arity : Expression → Nat
  | .parameter place => place + 1
  | .text _ | .now => 0

/-- As many values are bound as there are parameters, and all are of the right types. -/
def Command.takes (command : Command) (binds : List Value) (now : Instant) : Bool :=
  (command.demands.map (·.1.arity)).foldl max 0 == binds.length &&
    command.demands.all fun (value, kind) => (value.value binds now).fits kind

end Sql

/-! ## The table -/

structure Table where
  /-- Readings of the server's clock. -/
  clock : Nat → Instant
  readings : Nat
  /-- The rows, in the order of their insertion. -/
  rows : List Row

namespace Table

def empty (clock : Nat → Instant) : Table := ⟨clock, 0, []⟩

def now (t : Table) : Instant := t.clock t.readings

def tick (t : Table) : Table := { t with readings := t.readings + 1 }

def duplicateKey : DatabaseFault :=
  .refused "duplicate key value violates unique constraint \"predictions_pkey\""

def negativeLimit : DatabaseFault := .refused "LIMIT must not be negative"

/-- A row would have a null, a type or a status that the table does not allow. -/
def brokenConstraint : DatabaseFault :=
  .refused "new row for relation \"predictions\" violates a constraint"

/-- The query is more than this server understands. -/
def unsupported : DatabaseFault := .refused "syntax error"

/-- Rows are read back whole, or their statuses alone. -/
def shown (columns : List Column) (rows : List Row) : Reply :=
  if Column.all.all columns.contains then .rows rows
  else if columns = [.status] then .statuses (rows.map Row.status)
  else .failed unsupported

def newestFirst (rows : List Row) : List Row := rows.mergeSort fun a b => b.createdAt.le a.createdAt

def run (t : Table) (binds : List Value) : Sql.Command → Reply × Table
  | .insert cells returned =>
    match Row.ofCells? (Sql.assigned cells binds t.now (Column.default t.now)) with
    | none => (.failed brokenConstraint, t)
    | some row =>
      if t.rows.any (·.id == row.id) then (.failed duplicateKey, t)
      else (shown returned [row], { t.tick with rows := t.rows ++ [row] })
  | .update cells condition =>
    let meets := condition.holds binds t.now
    let changed : Option (List Row) := t.rows.mapM fun row =>
      if meets row then Row.ofCells? (Sql.assigned cells binds t.now row.cell) else some row
    match changed with
    | none => (.failed brokenConstraint, t)
    | some rows => (.affected (t.rows.countP meets), { t.tick with rows })
  | .select columns condition newest =>
    let found := t.rows.filter (condition.holds binds t.now)
    match newest.map (Sql.Expression.value binds t.now) with
    | none => (shown columns found, t)
    | some (.int8 limit) =>
      if limit < 0 then (.failed negativeLimit, t)
      else (shown columns ((newestFirst found).take limit.toInt.toNat), t)
    | some _ => (shown columns (newestFirst found), t)
  | .one => (.rows [], t)
  | .createMissing => (.affected 0, t)

def answer (t : Table) (query : Query) : Reply × Table :=
  match Sql.read? query.text with
  | none => (.failed unsupported, t)
  | some command =>
    if command.takes query.binds t.now then t.run query.binds command else (.failed unsupported, t)

instance : Server Table := ⟨answer⟩

end Table

end Predictor.Database
