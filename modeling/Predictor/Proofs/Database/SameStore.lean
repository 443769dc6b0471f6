import Predictor.Proofs.Database.Execution
import Predictor.Proofs.Database.Traffic
import Predictor.Proofs.Store.FirstOutcome

/-!
The store over a database and the store in memory are the same store, up to ids and times. One tells
in its code whether a record may still take an outcome, the other in the condition of an update and
then by a look at the status; the rows of the table stay in step with the records in memory
(`Twin`), so the replies to the same calls are the same.
-/

namespace Predictor

def StoreCall.rename (rename : PredictionId → PredictionId) : StoreCall → StoreCall
  | .create owner resource => .create owner resource
  | .finalize id outcome => .finalize (rename id) outcome
  | .get id => .get (rename id)

/-! ## The same up to ids and times -/

/-- Two records that differ at most in their times and, by a renaming, in their ids. -/
structure SameRecord (rename : PredictionId → PredictionId) (a b : Prediction) : Prop where
  id : b.id = rename a.id
  owner : b.owner = a.owner
  resource : b.resource = a.resource
  status : b.status = a.status
  label : b.label = a.label
  error : b.error = a.error

/-- Two replies to a call that differ at most in the times of a record and, by a renaming, in ids. -/
inductive SameReply (rename : PredictionId → PredictionId) :
    StoreCall → StoreReply → StoreReply → Prop
  | created {owner resource : String} {a b : Prediction} (same : SameRecord rename a b) :
      SameReply rename (.create owner resource) (.created (.ok a)) (.created (.ok b))
  | written {id : PredictionId} {outcome : Outcome} :
      SameReply rename (.finalize id outcome) (.finalized (.ok ())) (.finalized (.ok ()))
  | ended {id : PredictionId} {outcome : Outcome} (source : Status) :
      SameReply rename (.finalize id outcome)
        (.finalized (.error (.invalidTransition source.text outcome.status.text)))
        (.finalized (.error (.invalidTransition source.text outcome.status.text)))
  | unknown {id : PredictionId} {outcome : Outcome} :
      SameReply rename (.finalize id outcome) (.finalized (.error (.notFound id.text)))
        (.finalized (.error (.notFound (rename id).text)))
  | found {id : PredictionId} {a b : Prediction} (own : a.id = id) (same : SameRecord rename a b) :
      SameReply rename (.get id) (.found (.ok a)) (.found (.ok b))
  | missing {id : PredictionId} :
      SameReply rename (.get id) (.found (.error (.notFound id.text)))
        (.found (.error (.notFound (rename id).text)))

/-- Two lists of replies to the same calls, one after the other. -/
inductive SameReplies (rename : PredictionId → PredictionId) :
    List StoreCall → List StoreReply → List StoreReply → Prop
  | nil : SameReplies rename [] [] []
  | cons {call : StoreCall} {a b : StoreReply} {calls : List StoreCall} {as bs : List StoreReply}
      (reply : SameReply rename call a b) (replies : SameReplies rename calls as bs) :
      SameReplies rename (call :: calls) (a :: as) (b :: bs)

/-- Replies at the same place are replies to the call at that place. -/
theorem SameReplies.getElem? {rename : PredictionId → PredictionId} {calls : List StoreCall}
    {as bs : List StoreReply} (h : SameReplies rename calls as bs) {n : Nat} {call : StoreCall}
    (asked : calls[n]? = some call) :
    ∃ a b, as[n]? = some a ∧ bs[n]? = some b ∧ SameReply rename call a b := by
  induction h generalizing n with
  | nil => cases asked
  | @cons _ a b _ _ _ reply _ ih =>
    cases n with
    | zero =>
      obtain rfl := Option.some.inj asked
      exact ⟨a, b, rfl, rfl, reply⟩
    | succ n => exact ih asked

theorem Status.ofText_text (status : Status) : ofText status.text = .ok status := by
  cases status <;> decide

namespace Database

/-! ## Rows that stand for records -/

/-- What is written for an outcome and read back. -/
theorem labelOf_written (row : Row) (outcome : Outcome) (now : Time.Instant) :
    (Table.written (.ofOutcome outcome) now row).labelOf =
      match outcome with
      | .classified label => some label
      | .failed _ => none := by
  match outcome with
  | .classified (.category index name confidence) =>
    simp [Table.written, OutcomeColumns.ofOutcome, Row.labelOf]
  | .classified .undefined => rfl
  | .failed reason => rfl

/-- A row that reads back as the record, up to times. -/
structure Shows (rename : PredictionId → PredictionId) (record : Prediction) (row : Row) :
    Prop where
  id : row.id = rename record.id
  owner : row.owner = record.owner
  resource : row.resource = record.resource
  status : row.status = record.status.text
  label : row.labelOf = record.label
  error : row.error = record.error

variable {rename : PredictionId → PredictionId} {record : Prediction} {row : Row}
  {records : List Prediction} {rows : List Row} {id : PredictionId}

theorem Shows.toPrediction (h : Shows rename record row) :
    ∃ read, row.toPrediction = .ok read ∧ SameRecord rename record read := by
  rw [Row.toPrediction, h.status, Status.ofText_text]
  exact ⟨_, rfl, h.id, h.owner, h.resource, rfl, h.label, h.error⟩

theorem text_eq_processing {status : Status} :
    status.text = Status.processing.text ↔ status = .processing := by
  cases status <;> decide

/-- The condition of an update. -/
theorem Shows.isOpen_iff (injective : Function.Injective rename) (h : Shows rename record row) :
    Table.isOpen (rename id) row = true ↔ record.id = id ∧ record.status = .processing := by
  simp [Table.isOpen, h.id, h.status, injective.eq_iff, text_eq_processing]

theorem shows_written {outcome : Outcome} (now now' : Time.Instant) (h : Shows rename record row)
    (blank : record.label = none ∧ record.error = none) :
    Shows rename (MemoryStore.settled record outcome now)
      (Table.written (.ofOutcome outcome) now' row) := by
  have label := labelOf_written row outcome now'
  match outcome with
  | .classified (.category index name confidence) =>
    exact ⟨h.id, h.owner, h.resource, rfl, label, blank.2.symm⟩
  | .classified .undefined => exact ⟨h.id, h.owner, h.resource, rfl, label, blank.2.symm⟩
  | .failed reason => exact ⟨h.id, h.owner, h.resource, rfl, label.trans blank.1.symm, rfl⟩

/-- The first row with an id stands for the record with the id. -/
theorem find?_rows (injective : Function.Injective rename)
    (h : List.Forall₂ (Shows rename) records rows) (id : PredictionId) :
    Option.Rel (Shows rename) (records.find? fun record => record.id == id)
      (rows.find? fun row => row.id == rename id) := by
  induction h with
  | nil => exact .none
  | @cons record row records rows shown _ ih =>
    by_cases own : record.id = id
    · simpa [shown.id, own] using Option.Rel.some shown
    · simpa [shown.id, own, injective.eq_iff] using ih

/-! ## Calls of the store over a table -/

section Calls

variable (connection : Connection Table) (id : PredictionId) (outcome : Outcome)

theorem create_eq (owner resource : String) (free : connection.server.rows.any
    (·.id == connection.ids connection.issued) = false) : connection.create owner resource =
      (Connection.created
        (.rows [connection.server.newRow (connection.ids connection.issued) owner resource]),
      { connection with
        server := { connection.server.tick with rows := connection.server.rows ++
          [connection.server.newRow (connection.ids connection.issued) owner resource] }
        issued := connection.issued + 1
        sent := connection.sent ++ [.insert (connection.ids connection.issued) owner resource] }) := by
  have answered := Table.answer_insert connection.server (connection.ids connection.issued) owner
    resource
  rw [free, if_neg Bool.false_ne_true] at answered
  rw [Connection.create, Connection.send_eq answered]

/-- The connection when the update of an outcome has been answered. -/
def Connection.updated : Connection Table :=
  { connection with
    server := { connection.server.tick with
      rows := connection.server.rows.map fun row =>
        if Table.isOpen id row then Table.written (.ofOutcome outcome) connection.server.now row
        else row }
    sent := connection.sent ++ [.update (.ofOutcome outcome) id] }

/-- An update that changes no row is followed by a look at the rows with the id. -/
theorem finalize_eq : connection.finalize id outcome =
    if connection.server.rows.countP (Table.isOpen id) = 0 then
      (.error (Connection.refusal id outcome (.statuses
          (((connection.updated id outcome).server.rows.filter (·.id == id)).map Row.status))),
        { connection.updated id outcome with
          sent := (connection.updated id outcome).sent ++ [.statusOf id] })
    else (.ok (), connection.updated id outcome) := by
  have updated : connection.send (.update (.ofOutcome outcome) id) =
      (.affected (connection.server.rows.countP (Table.isOpen id)), connection.updated id outcome) :=
    Connection.send_eq (Table.answer_update (.ofOutcome outcome) id connection.server)
  have looked := Connection.send_eq
    (Table.answer_statusOf id (connection.updated id outcome).server)
  rw [Connection.finalize, updated]
  cases connection.server.rows.countP (Table.isOpen id) with
  | zero =>
    dsimp only [Reply.toCount]
    rw [looked, if_pos rfl]
    rfl
  | succ n => rfl

/-- A select finds the rows with the id, and the table is as before. -/
theorem get_eq : connection.get id =
    (Connection.found id (.rows (connection.server.rows.filter (·.id == id))),
      { connection with sent := connection.sent ++ [.select id] }) := by
  rw [Connection.get, Connection.send_eq (Table.answer_select id connection.server)]

end Calls

/-! ## Stores in step -/

structure Twin (rename : PredictionId → PredictionId) (store : MemoryStore)
    (connection : Connection Table) : Prop where
  ids : ∀ n, connection.ids n = rename (store.supplies.ids n)
  issued : connection.issued = store.issued
  rows : List.Forall₂ (Shows rename) store.records connection.server.rows

theorem twin_empty (rename : PredictionId → PredictionId) (supplies : Supplies)
    (clock : Nat → Time.Instant) :
    Twin rename (.empty supplies) (.start (.empty clock) (rename ∘ supplies.ids)) :=
  ⟨fun _ => rfl, rfl, .nil⟩

variable {store : MemoryStore} {connection : Connection Table}

theorem Twin.select_missing (injective : Function.Injective rename)
    (h : Twin rename store connection) (missing : store.find? id = none) :
    (connection.server.rows.filter fun row => row.id == rename id) = [] := by
  have first := find?_rows injective h.rows id
  rw [show store.records.find? _ = none from missing, ← List.head?_filter] at first
  cases rows : connection.server.rows.filter fun row => row.id == rename id with
  | nil => rfl
  | cons row rest => rw [rows] at first; cases first

theorem Twin.select_found (injective : Function.Injective rename)
    (h : Twin rename store connection) (found : store.find? id = some record) :
    ∃ row rest, (connection.server.rows.filter fun row => row.id == rename id) = row :: rest ∧
      Shows rename record row := by
  have first := find?_rows injective h.rows id
  rw [show store.records.find? _ = some record from found, ← List.head?_filter] at first
  cases rows : connection.server.rows.filter fun row => row.id == rename id with
  | nil => rw [rows] at first; cases first
  | cons row rest => rw [rows] at first; exact ⟨row, rest, rfl, by simpa using first⟩

theorem Twin.create (injective : Function.Injective rename) (h : Twin rename store connection)
    (owner resource : String) (fresh : store.find? store.nextId = none) :
    Twin rename (store.create owner resource).2 (connection.create owner resource).2 ∧
      ∃ read, (connection.create owner resource).1 = .ok read ∧
        SameRecord rename (store.create owner resource).1 read := by
  have next : connection.ids connection.issued = rename store.nextId := by
    rw [h.ids, h.issued]
    rfl
  have free : connection.server.rows.any (·.id == rename store.nextId) = false := by
    simpa using List.filter_eq_nil_iff.1 (h.select_missing injective fresh)
  have shown : Shows rename (store.create owner resource).1
      (connection.server.newRow (rename store.nextId) owner resource) :=
    ⟨rfl, rfl, rfl, rfl, rfl, rfl⟩
  rw [create_eq connection owner resource (next ▸ free), next]
  refine ⟨⟨h.ids, congrArg (· + 1) h.issued, ?_⟩, shown.toPrediction⟩
  show List.Forall₂ _ (store.others ++ [_]) (connection.server.rows ++ [_])
  rw [MemoryStore.others_of_fresh fresh]
  exact List.rel_append h.rows (.cons shown .nil)

/-- An update writes to the rows of the records that are still processing. -/
theorem rows_updated (injective : Function.Injective rename)
    (h : List.Forall₂ (Shows rename) records rows) (id : PredictionId) (outcome : Outcome)
    (now now' : Time.Instant) (blank : ∀ record ∈ records, record.status = .processing →
      record.label = none ∧ record.error = none) :
    List.Forall₂ (Shows rename)
      (records.map fun record =>
        if record.id = id ∧ record.status = .processing then
          MemoryStore.settled record outcome now
        else record)
      (rows.map fun row =>
        if Table.isOpen (rename id) row then Table.written (.ofOutcome outcome) now' row
        else row) := by
  induction h with
  | nil => exact .nil
  | @cons record row records rows shown _ ih =>
    simp only [List.map_cons]
    refine .cons ?_ (ih fun record mem => blank record (.tail _ mem))
    by_cases processing : record.id = id ∧ record.status = .processing
    · rw [if_pos processing, if_pos ((shown.isOpen_iff injective).2 processing)]
      exact shows_written now now' shown (blank record (.head _) processing.2)
    · rw [if_neg processing, if_neg fun isOpen => processing ((shown.isOpen_iff injective).1 isOpen)]
      exact shown

/-- An update changes as many rows as there are records with the id that are still processing. -/
theorem countP_isOpen (injective : Function.Injective rename)
    (h : List.Forall₂ (Shows rename) records rows) (id : PredictionId) :
    rows.countP (Table.isOpen (rename id)) =
      records.countP fun record => record.id = id ∧ record.status = .processing := by
  induction h with
  | nil => rfl
  | cons shown _ ih =>
    simp only [List.countP_cons, ih, shown.isOpen_iff injective, decide_eq_true_eq]

theorem rows_finalize (connection : Connection Table) (id : PredictionId) (outcome : Outcome) :
    (connection.finalize id outcome).2.server.rows = connection.server.rows.map fun row =>
      if Table.isOpen id row then
        Table.written (.ofOutcome outcome) connection.server.now row
      else row := by
  rw [finalize_eq]
  split <;> rfl

theorem issued_finalize (connection : Connection Table) (id : PredictionId) (outcome : Outcome) :
    (connection.finalize id outcome).2.ids = connection.ids ∧
      (connection.finalize id outcome).2.issued = connection.issued := by
  rw [finalize_eq]
  split <;> exact ⟨rfl, rfl⟩

theorem Twin.finalize (injective : Function.Injective rename) (h : Twin rename store connection)
    (sound : store.Sound) (id : PredictionId) (outcome : Outcome) :
    Twin rename (store.finalize id outcome).2 (connection.finalize (rename id) outcome).2 where
  ids n := by
    rw [(issued_finalize ..).1, (MemoryStore.finalize_supplies ..).1]
    exact h.ids n
  issued := by
    rw [(issued_finalize ..).2, (MemoryStore.finalize_supplies ..).2]
    exact h.issued
  rows := by
    rw [rows_finalize, MemoryStore.finalize_records sound.distinct]
    exact rows_updated injective h.rows id outcome _ _ sound.blank

theorem finalize_of_open (connection : Connection Table) (outcome : Outcome)
    (isOpen : 0 < connection.server.rows.countP (Table.isOpen id)) :
    (connection.finalize id outcome).1 = .ok () := by
  rw [finalize_eq, if_neg (Nat.ne_of_gt isOpen)]

/-- An update that changes no row is told by a look at the rows with the id, which are as before. -/
theorem finalize_of_closed (connection : Connection Table) (outcome : Outcome)
    (closed : connection.server.rows.countP (Table.isOpen id) = 0) :
    (connection.finalize id outcome).1 = .error (Connection.refusal id outcome
      (.statuses ((connection.server.rows.filter fun row => row.id == id).map Row.status))) := by
  have untouched : (connection.updated id outcome).server.rows = connection.server.rows := by
    refine (List.map_congr_left fun row mem => ?_).trans (List.map_id' _)
    exact if_neg (List.countP_eq_zero.1 closed row mem)
  rw [finalize_eq, if_pos closed, untouched]

theorem Twin.finalize_reply (injective : Function.Injective rename)
    (h : Twin rename store connection) (sound : store.Sound) (id : PredictionId)
    (outcome : Outcome) :
    SameReply rename (.finalize id outcome) (.finalized (store.finalize id outcome).1)
      (.finalized (connection.finalize (rename id) outcome).1) := by
  have count := countP_isOpen injective h.rows id
  cases result : store.finalize id outcome with
  | mk answer store' =>
    cases answer with
    | ok _ =>
      obtain ⟨record, found, processing, -⟩ := MemoryStore.finalize_ok result
      rw [finalize_of_open connection outcome (count ▸ List.countP_pos_iff.2
        ⟨record, MemoryStore.mem_of_find? found,
          by simp [MemoryStore.id_of_find? found, processing]⟩)]
      exact .written
    | error error =>
      obtain ⟨rfl, cause⟩ := MemoryStore.finalize_error result
      have closed : connection.server.rows.countP (Table.isOpen (rename id)) = 0 := by
        rw [count, List.countP_eq_zero]
        intro record mem processing
        obtain ⟨own, processing⟩ := of_decide_eq_true processing
        rcases cause with ⟨missing, -⟩ | ⟨old, found, terminal, -⟩
        · rw [← own, MemoryStore.find?_of_mem sound.distinct mem] at missing
          cases missing
        · rw [← MemoryStore.eq_of_id sound.distinct found mem own, processing] at terminal
          simp [Status.isTerminal] at terminal
      rw [finalize_of_closed connection outcome closed]
      rcases cause with ⟨missing, rfl⟩ | ⟨old, found, -, rfl⟩
      · rw [h.select_missing injective missing]
        exact .unknown
      · obtain ⟨row, rest, rows, shown⟩ := h.select_found injective found
        rw [rows, List.map_cons, shown.status]
        exact .ended old.status

theorem Twin.get (h : Twin rename store connection) (id : PredictionId) :
    Twin rename store (connection.get id).2 := by
  rw [get_eq]
  exact ⟨h.ids, h.issued, h.rows⟩

theorem Twin.get_reply (injective : Function.Injective rename) (h : Twin rename store connection)
    (id : PredictionId) :
    SameReply rename (.get id) (.found (store.get id)) (.found (connection.get (rename id)).1) := by
  rw [get_eq, MemoryStore.get]
  cases found : store.find? id with
  | none =>
    rw [h.select_missing injective found]
    exact .missing
  | some record =>
    obtain ⟨row, rest, rows, shown⟩ := h.select_found injective found
    obtain ⟨read, decoded, same⟩ := shown.toPrediction
    rw [rows, show Connection.found (rename id) (.rows (row :: rest)) = .ok read from decoded]
    exact .found (MemoryStore.id_of_find? found) same

/-! ## All calls -/

theorem Twin.serve (injective : Function.Injective rename) (h : Twin rename store connection)
    (sound : store.Sound) (call : StoreCall)
    (unique : (PredictionStore.serve store call).2.Unique) :
    SameReply rename call (PredictionStore.serve store call).1
        (PredictionStore.serve connection (call.rename rename)).1 ∧
      Twin rename (PredictionStore.serve store call).2
        (PredictionStore.serve connection (call.rename rename)).2 := by
  cases call with
  | create owner resource =>
    have fresh := sound.find?_nextId owner resource unique
    obtain ⟨twin, read, created, same⟩ := h.create injective owner resource fresh
    obtain ⟨reply, after⟩ := connection.serve_create owner resource
    rw [StoreCall.rename, reply, after, created]
    exact ⟨.created same, twin⟩
  | finalize id outcome =>
    obtain ⟨reply, after⟩ := connection.serve_finalize (rename id) outcome
    rw [StoreCall.rename, reply, after]
    exact ⟨h.finalize_reply injective sound id outcome, h.finalize injective sound id outcome⟩
  | get id =>
    obtain ⟨reply, after⟩ := connection.serve_get (rename id)
    rw [StoreCall.rename, reply, after]
    exact ⟨h.get_reply injective id, h.get (rename id)⟩

theorem unique_of_serveAll (calls : List StoreCall) :
    ∀ store : MemoryStore, (PredictionStore.serveAll store calls).2.Unique → store.Unique := by
  induction calls with
  | nil => exact fun _ unique => unique
  | cons call rest ih =>
    exact fun store unique => (MemoryStore.perform_step store (.call call)).unique (ih _ unique)

theorem Twin.serveAll (injective : Function.Injective rename) (calls : List StoreCall) :
    ∀ (store : MemoryStore) (connection : Connection Table), Twin rename store connection →
      store.Sound → (PredictionStore.serveAll store calls).2.Unique →
        SameReplies rename calls (PredictionStore.serveAll store calls).1
            (PredictionStore.serveAll connection (calls.map (.rename rename))).1 ∧
          Twin rename (PredictionStore.serveAll store calls).2
            (PredictionStore.serveAll connection (calls.map (.rename rename))).2 := by
  induction calls with
  | nil => exact fun _ _ h _ _ => ⟨.nil, h⟩
  | cons call rest ih =>
    intro store connection h sound unique
    obtain ⟨reply, next⟩ := h.serve injective sound call (unique_of_serveAll rest _ unique)
    have sound' := (MemoryStore.perform_step store (.call call)).sound sound
    obtain ⟨replies, last⟩ := ih _ _ next sound' unique
    exact ⟨.cons reply replies, last⟩

/-- What is written for an outcome reads back as a record that shows the outcome. -/
theorem toPrediction_written (row : Row) (outcome : Outcome) (now : Time.Instant) :
    ∃ record, (Table.written (.ofOutcome outcome) now row).toPrediction = .ok record ∧
      record.id = row.id ∧ record.owner = row.owner ∧ record.resource = row.resource ∧
        outcome.ShownBy record := by
  have status : (Table.written (.ofOutcome outcome) now row).status = outcome.status.text := by
    match outcome with
    | .classified (.category ..) | .classified .undefined | .failed _ => rfl
  rw [Row.toPrediction, status, Status.ofText_text]
  refine ⟨_, rfl, rfl, rfl, rfl, rfl, ?_⟩
  have label := labelOf_written row outcome now
  match outcome with
  | .classified (.category ..) | .classified .undefined => exact ⟨label, rfl⟩
  | .failed _ => exact ⟨rfl, label⟩

theorem toPrediction_of_rows (h : List.Forall₂ (Shows rename) records rows) (mem : row ∈ rows) :
    ∃ record, row.toPrediction = .ok record := by
  induction h with
  | nil => cases mem
  | cons shown _ ih =>
    rcases List.mem_cons.1 mem with rfl | mem
    · obtain ⟨read, decoded, -⟩ := shown.toPrediction
      exact ⟨read, decoded⟩
    · exact ih mem

/-- The store over a database whose server does what the statements say gives the replies that the
store in memory gives, up to ids and times. What is written for an outcome reads back as the outcome,
whatever the row held before, and every row of the table reads back as a record. -/
theorem database_as_memory {rename : PredictionId → PredictionId}
    (injective : Function.Injective rename) (supplies : Supplies) (clock : Nat → Time.Instant)
    (calls : List StoreCall)
    (unique : (PredictionStore.serveAll (MemoryStore.empty supplies) calls).2.Unique) :
    let memory := PredictionStore.serveAll (MemoryStore.empty supplies) calls
    let database := PredictionStore.serveAll
      (Connection.start (Table.empty clock) (rename ∘ supplies.ids)) (calls.map (.rename rename))
    SameReplies rename calls memory.1 database.1 ∧
      (∀ row ∈ database.2.server.rows, ∃ record, row.toPrediction = .ok record) ∧
      ∀ (row : Row) (outcome : Outcome) (now : Time.Instant), ∃ record,
        (Table.written (.ofOutcome outcome) now row).toPrediction = .ok record ∧
          record.id = row.id ∧ record.owner = row.owner ∧ record.resource = row.resource ∧
            outcome.ShownBy record := by
  obtain ⟨replies, twin⟩ := (twin_empty rename supplies clock).serveAll injective calls _ _
    (MemoryStore.sound_empty supplies) unique
  exact ⟨replies, fun _ mem => toPrediction_of_rows twin.rows mem, toPrediction_written⟩

namespace Sample

/-- The database gives every record the id after the one that the memory gives it. -/
def following (id : PredictionId) : PredictionId := ⟨id.value + 1⟩

def label : Label := .category 4294967295 "" .zero

/-- A record is finalized twice and read in between. -/
def calls : List StoreCall :=
  [.create "owner" "scan.png", .finalize ⟨0⟩ (.classified label), .get ⟨0⟩,
    .finalize ⟨0⟩ (.failed "late"), .get ⟨1⟩]

theorem following_injective : Function.Injective following := by
  rintro ⟨v⟩ ⟨v'⟩ same
  simpa [following] using same

end Sample

theorem database_as_memory_sample :
    SameReplies Sample.following Sample.calls
        (PredictionStore.serveAll (MemoryStore.empty MemoryStore.Sample.counting) Sample.calls).1
        (PredictionStore.serveAll (Connection.start (Table.empty MemoryStore.Sample.counting.clock)
          (Sample.following ∘ MemoryStore.Sample.counting.ids))
          (Sample.calls.map (.rename Sample.following))).1 ∧
      ∃ record : Prediction,
        (PredictionStore.serveAll (Connection.start (Table.empty MemoryStore.Sample.counting.clock)
          (Sample.following ∘ MemoryStore.Sample.counting.ids))
          (Sample.calls.map (.rename Sample.following))).1[2]? = some (.found (.ok record)) ∧
        record.label = some Sample.label := by
  obtain ⟨replies, -, -⟩ := database_as_memory Sample.following_injective
    MemoryStore.Sample.counting MemoryStore.Sample.counting.clock Sample.calls (by decide)
  obtain ⟨a, b, known, read, same⟩ := replies.getElem? (n := 2) rfl
  cases known
  cases same with
  | found _ same => exact ⟨replies, _, read, same.label⟩

end Database

end Predictor
