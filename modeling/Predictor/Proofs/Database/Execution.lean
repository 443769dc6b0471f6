import Predictor.Database.Migration
import Predictor.Database.Table

/-!
What the statements of the store do to the table of predictions. Each text reads as one command,
whatever is bound to its parameters; with the values of the statement this command adds a row, writes
an outcome to the rows that are still processing, or finds rows (`answer_insert`, `answer_update`,
`answer_select` and so on).
-/

namespace Predictor.Database

open Time

/-! ## The commands behind the texts -/

namespace Statement

/-- The cells that an insert assigns. -/
def insertCells : List (Column × Sql.Expression) :=
  [(.id, .parameter 0), (.owner, .parameter 1), (.resource, .parameter 2),
    (.status, .text "processing")]

/-- The cells that an update assigns. -/
def updateCells : List (Column × Sql.Expression) :=
  [(.status, .parameter 0), (.label, .parameter 1), (.categoryIndex, .parameter 2),
    (.confidence, .parameter 3), (.error, .parameter 4), (.updatedAt, .now), (.completedAt, .now)]

def updateCondition : Sql.Condition :=
  .both (.equal .id (.parameter 5)) (.equal .status (.text "processing"))

/-- The condition of a select by id. -/
def ownCondition : Sql.Condition := .equal .id (.parameter 0)

def listCondition : Sql.Condition :=
  .both (.either (.isNull 0) (.equal .status (.parameter 0)))
    (.either (.isNull 1) (.equal .owner (.parameter 1)))

variable (id : PredictionId)

section Texts

-- The characters of a text are a term that is as deep as the text is long.
set_option maxRecDepth 4000

theorem read?_of_chars {s : String} {cs : List Char} {command : Sql.Command}
    (written : s.toList = cs) (read : (Sql.tokens? cs).bind Sql.command? = some command) :
    Sql.read? s = some command := by
  rw [Sql.read?, written, read]

theorem toList_append {a b : String} {as bs : List Char} (front : a.toList = as)
    (back : b.toList = bs) : (a ++ b).toList = as ++ bs := by
  rw [String.toList_append, front, back]

theorem read?_insert (owner resource : String) :
    Sql.read? (insert id owner resource).text = some (.insert insertCells Column.all) :=
  read?_of_chars (toList_append String.toList_ofList String.toList_ofList) (by decide +kernel)

theorem read?_update (columns : OutcomeColumns) :
    Sql.read? (update columns id).text = some (.update updateCells updateCondition) :=
  read?_of_chars String.toList_ofList (by decide +kernel)

theorem read?_statusOf :
    Sql.read? (statusOf id).text = some (.select [.status] ownCondition none) :=
  read?_of_chars String.toList_ofList (by decide +kernel)

theorem read?_select : Sql.read? (select id).text = some (.select Column.all ownCondition none) :=
  read?_of_chars (toList_append (toList_append String.toList_ofList String.toList_ofList)
    String.toList_ofList) (by decide +kernel)

theorem read?_list (status : Option Status) (owner : Option String) (limit : Int64) :
    Sql.read? (list status owner limit).text =
      some (.select Column.all listCondition (some (.parameter 2))) :=
  read?_of_chars (toList_append (toList_append String.toList_ofList String.toList_ofList)
    String.toList_ofList) (by decide +kernel)

theorem read?_ping : Sql.read? ping.text = some .one :=
  read?_of_chars String.toList_ofList (by decide +kernel)

theorem read?_migrate {m : Migration} (known : m ∈ Migration.all) :
    Sql.read? (migrate m.script).text = some .createMissing := by
  obtain rfl := List.mem_singleton.1 known
  exact read?_of_chars String.toList_ofList (by decide +kernel)

end Texts

end Statement

/-! ## Values and cells -/

theorem Value.orNull_ofOption {α : Type} {value : α → Value} {read? : Value → Option α}
    (reads : ∀ a, (value a).orNull read? = some (some a)) (o : Option α) :
    (ofOption value o).orNull read? = some o := by
  cases o with
  | none => rfl
  | some a => exact reads a

/-- A row that the table allows is known by its cells. -/
theorem Row.ofCells?_cell {row : Row} (allowed : row.status ∈ statuses) :
    ofCells? row.cell = some row := by
  have label : (row.cell .label).orNull Value.text? = some row.label :=
    Value.orNull_ofOption (fun _ => rfl) _
  have index : (row.cell .categoryIndex).orNull Value.int4? = some row.categoryIndex :=
    Value.orNull_ofOption (fun _ => rfl) _
  have confidence : (row.cell .confidence).orNull Value.float8? = some row.confidence :=
    Value.orNull_ofOption (fun _ => rfl) _
  have error : (row.cell .error).orNull Value.text? = some row.error :=
    Value.orNull_ofOption (fun _ => rfl) _
  have completed : (row.cell .completedAt).orNull Value.time? = some row.completedAt :=
    Value.orNull_ofOption (fun _ => rfl) _
  have kept : (guard (row.status ∈ statuses) : Option Unit) = some () := if_pos allowed
  rw [ofCells?, label, index, confidence, error, completed]
  show (guard (row.status ∈ statuses) >>= fun _ => some row) = some row
  rw [kept]
  rfl

namespace Table

/-! ## What is meant -/

def newRow (t : Table) (id : PredictionId) (owner resource : String) : Row :=
  { id, owner, resource, status := Status.processing.text, label := none, categoryIndex := none,
    confidence := none, error := none, createdAt := t.now, updatedAt := t.now, completedAt := none }

def isOpen (id : PredictionId) (row : Row) : Bool :=
  row.id == id && row.status == Status.processing.text

/-- A row after an update. -/
def written (columns : OutcomeColumns) (now : Instant) (row : Row) : Row :=
  { row with
    status := columns.status.text, label := columns.label, categoryIndex := columns.categoryIndex
    confidence := columns.confidence, error := columns.error
    updatedAt := now, completedAt := some now }

def isListed (status : Option Status) (owner : Option String) (row : Row) : Bool :=
  status.all (·.text == row.status) && owner.all (· == row.owner)

/-! ## Conditions and rows of the commands -/

variable (columns : OutcomeColumns) (id : PredictionId) (status : Option Status)
  (owner : Option String) (limit : Int64) (now : Instant) (row : Row)

theorem holds_updateCondition :
    Statement.updateCondition.holds (Statement.update columns id).binds now = isOpen id := by
  funext row
  rw [Bool.eq_iff_iff]
  simp [Statement.updateCondition, Sql.Condition.holds, Statement.binds, Sql.Expression.value,
    Row.cell, isOpen, Status.text]

theorem holds_ownCondition : Statement.ownCondition.holds [.uuid id] now = (·.id == id) := by
  funext row
  rw [Bool.eq_iff_iff]
  simp [Statement.ownCondition, Sql.Condition.holds, Sql.Expression.value, Row.cell]

theorem holds_listCondition :
    Statement.listCondition.holds (Statement.list status owner limit).binds now =
      isListed status owner := by
  funext row
  rw [Bool.eq_iff_iff]
  cases status <;> cases owner <;>
    simp [Statement.listCondition, Sql.Condition.holds, Statement.binds, Sql.Expression.value,
      Row.cell, Value.ofOption, isListed, eq_comm (a := row.status), eq_comm (a := row.owner)]

theorem ofCells?_updateCells : Row.ofCells? (Sql.assigned Statement.updateCells
    (Statement.update columns id).binds now row.cell) = some (written columns now row) := by
  have cells : Sql.assigned Statement.updateCells (Statement.update columns id).binds now row.cell =
      (written columns now row).cell := by
    funext column
    cases column <;> rfl
  rw [cells]
  refine Row.ofCells?_cell ?_
  show columns.status.text ∈ Row.statuses
  cases columns.status <;> decide

theorem takes_update : Sql.Command.takes (.update Statement.updateCells Statement.updateCondition)
    (Statement.update columns id).binds now = true := by
  obtain ⟨written, label, index, confidence, error⟩ := columns
  cases label <;> cases index <;> cases confidence <;> cases error <;> rfl

theorem takes_list : Sql.Command.takes
    (.select Column.all Statement.listCondition (some (.parameter 2)))
    (Statement.list status owner limit).binds now = true := by
  cases status <;> cases owner <;> rfl

/-! ## What is done -/

theorem answer_of_read {t : Table} {statement : Statement} {command : Sql.Command}
    (read : Sql.read? statement.text = some command)
    (takes : command.takes statement.binds t.now = true) :
    Server.answer t statement.query = t.run statement.binds command := by
  show t.answer statement.query = _
  rw [answer, show Sql.read? statement.query.text = some command from read]
  exact if_pos takes

variable (t : Table)

theorem answer_insert (id : PredictionId) (owner resource : String) :
    Server.answer t (Statement.insert id owner resource).query =
      if t.rows.any (·.id == id) then (.failed duplicateKey, t)
      else (.rows [t.newRow id owner resource],
        { t.tick with rows := t.rows ++ [t.newRow id owner resource] }) := by
  rw [answer_of_read (Statement.read?_insert id owner resource) rfl]
  rfl

theorem answer_update :
    Server.answer t (Statement.update columns id).query =
      (.affected (t.rows.countP (isOpen id)),
        { t.tick with
          rows := t.rows.map fun row => if isOpen id row then written columns t.now row else row }) := by
  rw [answer_of_read (Statement.read?_update id columns) (takes_update columns id t.now)]
  have changed : (t.rows.mapM fun row => if isOpen id row then some (written columns t.now row)
      else some row) =
      some (t.rows.map fun row => if isOpen id row then written columns t.now row else row) := by
    simp only [← apply_ite some]
    exact List.mapM_pure
  simp only [run, ofCells?_updateCells, holds_updateCondition, changed]

theorem answer_statusOf : Server.answer t (Statement.statusOf id).query =
    (.statuses ((t.rows.filter (·.id == id)).map Row.status), t) := by
  rw [answer_of_read (Statement.read?_statusOf id) rfl, ← holds_ownCondition id t.now]
  rfl

theorem answer_select :
    Server.answer t (Statement.select id).query = (.rows (t.rows.filter (·.id == id)), t) := by
  rw [answer_of_read (Statement.read?_select id) rfl, ← holds_ownCondition id t.now]
  rfl

theorem answer_list : Server.answer t (Statement.list status owner limit).query =
    if limit < 0 then (.failed negativeLimit, t)
    else (.rows ((newestFirst (t.rows.filter (isListed status owner))).take limit.toInt.toNat), t) := by
  rw [answer_of_read (Statement.read?_list status owner limit) (takes_list status owner limit t.now),
    ← holds_listCondition status owner limit t.now]
  rfl

theorem answer_ping : Server.answer t Statement.ping.query = (.rows [], t) := by
  rw [answer_of_read Statement.read?_ping rfl]
  rfl

/-- The table is there already, so migrations change nothing. -/
theorem answer_migrate {m : Migration} (known : m ∈ Migration.all) :
    Server.answer t (Statement.migrate m.script).query = (.affected 0, t) := by
  rw [answer_of_read (Statement.read?_migrate known) rfl]
  rfl

end Table

end Predictor.Database
