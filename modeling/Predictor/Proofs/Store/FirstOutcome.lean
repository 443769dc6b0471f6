import Predictor.Proofs.Store.Records
import Predictor.Store.Calls

/-!
The store in memory as a map from ids to who created the record for what, and the first outcome that
was written for it. A history of operations determines this map (`known?`), and the map determines
every answer (`Allows`), so the first outcome of a record wins.
-/

namespace Predictor.MemoryStore

/-! ## Histories -/

inductive Operation
  | call (call : StoreCall)
  | list (status : Status)

inductive Answer
  | reply (reply : StoreReply)
  | listed (records : List Prediction)

def perform (store : MemoryStore) : Operation → Answer × MemoryStore
  | .call call =>
    let (reply, store) := PredictionStore.serve store call
    (.reply reply, store)
  | .list status => (.listed (store.listByStatus status), store)

/-- Operations with their answers, the oldest first. -/
abbrev History := List (Operation × Answer)

def performAll (store : MemoryStore) : List Operation → History × MemoryStore
  | [] => ([], store)
  | operation :: rest =>
    let (answer, store) := store.perform operation
    let (history, store) := store.performAll rest
    ((operation, answer) :: history, store)

/-! ## The map of a history -/

structure Entry where
  owner : String
  resource : String
  /-- The outcome of the first finalization after the creation. -/
  outcome : Option Outcome
  deriving DecidableEq, Repr

def Entry.status (entry : Entry) : Status := entry.outcome.elim .processing Outcome.status

/-- The outcome that an operation is to write for a record. -/
def Operation.outcomeFor? (id : PredictionId) : Operation → Option Outcome
  | .call (.finalize other outcome) => if other = id then some outcome else none
  | _ => none

def firstOutcome? (id : PredictionId) (history : History) : Option Outcome :=
  history.findSome? fun event => event.1.outcomeFor? id

/-- What a history tells about an id. -/
def known? (id : PredictionId) : History → Option Entry
  | [] => none
  | (.call (.create owner resource), .reply (.created (.ok record))) :: later =>
    if record.id = id then some ⟨owner, resource, firstOutcome? id later⟩ else known? id later
  | _ :: later => known? id later

/-- A record shows an entry. -/
def Entry.ShownBy (entry : Entry) (record : Prediction) : Prop :=
  record.owner = entry.owner ∧ record.resource = entry.resource ∧
    match entry.outcome with
    | none => record.status = .processing ∧ record.label = none ∧ record.error = none ∧
        record.updatedAt = record.createdAt ∧ record.completedAt = none
    | some outcome => outcome.ShownBy record ∧ record.completedAt = some record.updatedAt

/-- The answers that a map from ids to entries admits. -/
def Allows (map : PredictionId → Option Entry) : Operation → Answer → Prop
  | .call (.create owner resource), .reply (.created result) => ∃ record, result = .ok record ∧
      map record.id = none ∧ Entry.ShownBy ⟨owner, resource, none⟩ record
  | .call (.finalize id outcome), .reply (.finalized result) =>
    match map id with
    | none => result = .error (.notFound id.text)
    | some entry =>
      match entry.outcome with
      | none => result = .ok ()
      | some first =>
        result = .error (.invalidTransition first.status.text outcome.status.text)
  | .call (.get id), .reply (.found result) =>
    match map id with
    | none => result = .error (.notFound id.text)
    | some entry => ∃ record, result = .ok record ∧ record.id = id ∧ entry.ShownBy record
  | .list status, .listed records => (records.map Prediction.id).Nodup ∧
      (∀ record ∈ records, ∃ entry, map record.id = some entry ∧ entry.status = status ∧
        entry.ShownBy record) ∧
      ∀ id entry, map id = some entry → entry.status = status → ∃ record ∈ records, record.id = id
  | _, _ => False

/-- What an operation with such an answer does to the records. -/
def Changes (store store' : MemoryStore) : Operation → Answer → Prop
  | .call (.create ..), .reply (.created (.ok record)) =>
    store'.ids = store.ids ++ [record.id] ∧ ∀ id ≠ record.id, store'.find? id = store.find? id
  | .call (.finalize own _), .reply (.finalized (.ok _)) =>
    store'.ids = store.ids ∧ ∀ id ≠ own, store'.find? id = store.find? id
  | _, _ => store' = store

/-! ## One more event -/

theorem firstOutcome?_append (id : PredictionId) (front back : History) :
    firstOutcome? id (front ++ back) = (firstOutcome? id front).or (firstOutcome? id back) :=
  List.findSome?_append

/-- An id that is known keeps its entry, and its first outcome once it has one. -/
theorem known?_append (id : PredictionId) (front back : History) :
    known? id (front ++ back) =
      match known? id front with
      | none => known? id back
      | some entry =>
        some { entry with outcome := entry.outcome.or (firstOutcome? id back) } := by
  induction front using known?.induct id with
  | case1 => rfl
  | case2 owner resource record later same =>
    simp [known?, same, firstOutcome?_append]
  | case3 owner resource record later other ih =>
    simp [known?, other, ih]
  | case4 event later plain ih =>
    rw [List.cons_append, known?, known?, ih]
    · exact plain
    · exact plain

/-- An event that neither creates a record nor writes an outcome for an id tells nothing about it. -/
theorem known?_concat_of_silent {id : PredictionId} {operation : Operation} {answer : Answer}
    (history : History) (uncreated : known? id [(operation, answer)] = none)
    (unwritten : operation.outcomeFor? id = none) :
    known? id (history ++ [(operation, answer)]) = known? id history := by
  rw [known?_append]
  cases known? id history with
  | none => exact uncreated
  | some entry => simp [firstOutcome?, unwritten]

theorem known?_concat_create (id : PredictionId) (history : History) (owner resource : String)
    (record : Prediction) :
    known? id (history ++ [(.call (.create owner resource), .reply (.created (.ok record)))]) =
      (known? id history).or (if record.id = id then some ⟨owner, resource, none⟩ else none) := by
  rw [known?_append]
  cases known? id history with
  | none => rfl
  | some entry => simp [firstOutcome?, Operation.outcomeFor?]

theorem known?_concat_finalize (id : PredictionId) (history : History) (outcome : Outcome)
    (answer : Answer) :
    known? id (history ++ [(.call (.finalize id outcome), answer)]) =
      (known? id history).map fun entry =>
        { entry with outcome := entry.outcome.or (some outcome) } := by
  rw [known?_append]
  cases known? id history with
  | none => rfl
  | some entry => simp [firstOutcome?, Operation.outcomeFor?]

theorem known?_concat_finalize_other {id other : PredictionId} {outcome : Outcome}
    {answer : Answer} (history : History) (h : other ≠ id) :
    known? id (history ++ [(.call (.finalize other outcome), answer)]) = known? id history :=
  known?_concat_of_silent history rfl (if_neg h)

/-! ## The store shows the map -/

/-- Looking up an id finds a record that shows what the history tells about the id. -/
def Mirrors (store : MemoryStore) (history : History) : Prop :=
  ∀ id, Option.Rel Entry.ShownBy (known? id history) (store.find? id)

theorem mirrors_empty (supplies : Supplies) : (empty supplies).Mirrors [] := fun _ => .none

variable {store store' : MemoryStore} {history : History} {id : PredictionId} {entry : Entry}
  {record : Prediction}

theorem Entry.ShownBy.status_eq (h : entry.ShownBy record) : record.status = entry.status := by
  obtain ⟨owner, resource, outcome⟩ := entry
  obtain ⟨-, -, shown⟩ := h
  cases outcome with
  | none => exact shown.1
  | some outcome => exact shown.1.1

/-- A record has come to its end if and only if its entry has an outcome. -/
theorem Entry.ShownBy.isTerminal (h : entry.ShownBy record) :
    record.status.isTerminal = entry.outcome.isSome := by
  rw [h.status_eq, status]
  cases entry.outcome with
  | none => rfl
  | some outcome => exact outcome.status_isTerminal

/-- The label belongs to the completed records, the reason to the failed ones. -/
theorem Entry.ShownBy.label_error (h : entry.ShownBy record) :
    (record.label.isSome ↔ record.status = .completed) ∧
      (record.error.isSome ↔ record.status = .failed) := by
  obtain ⟨owner, resource, outcome⟩ := entry
  obtain ⟨-, -, shown⟩ := h
  match outcome, shown with
  | none, ⟨status, label, error, _⟩ => simp [status, label, error]
  | some (.classified _), ⟨⟨status, label, error⟩, _⟩ =>
    simp [status, label, error, Outcome.status]
  | some (.failed _), ⟨⟨status, error, label⟩, _⟩ =>
    simp [status, label, error, Outcome.status]

/-- A record that is processing shows the outcome written to it, apart from that what it showed. -/
theorem Entry.ShownBy.settled (h : entry.ShownBy record) (outcome : Outcome) (now : Time.Instant)
    (blank : record.label = none ∧ record.error = none) :
    Entry.ShownBy { entry with outcome := some outcome } (settled record outcome now) := by
  refine ⟨(owner_settled ..).trans h.1, (resource_settled ..).trans h.2.1,
    shownBy_settled outcome now blank, ?_⟩
  cases outcome <;> rfl

theorem Mirrors.none_iff (h : store.Mirrors history) :
    known? id history = none ↔ store.find? id = none := by
  have shown := h id
  cases known : known? id history <;> cases found : store.find? id <;> simp_all

theorem Mirrors.shown (h : store.Mirrors history) (known : known? id history = some entry) :
    ∃ record, store.find? id = some record ∧ entry.ShownBy record := by
  have shown := h id
  rw [known] at shown
  cases found : store.find? id with
  | none => rw [found] at shown; cases shown
  | some record => rw [found] at shown; exact ⟨record, rfl, by simpa using shown⟩

theorem Mirrors.known (h : store.Mirrors history) (found : store.find? id = some record) :
    ∃ entry, known? id history = some entry ∧ entry.ShownBy record := by
  have shown := h id
  rw [found] at shown
  cases known : known? id history with
  | none => rw [known] at shown; cases shown
  | some entry => rw [known] at shown; exact ⟨entry, rfl, by simpa using shown⟩

/-! ## One more operation -/

theorem perform_step (store : MemoryStore) (operation : Operation) :
    Step store (store.perform operation).2 := by
  cases operation with
  | call call =>
    cases call with
    | create owner resource => exact .create owner resource
    | finalize id outcome => exact .finalize id outcome
    | get id => exact .stay
  | list status => exact .stay

theorem Mirrors.of_silent {operation : Operation} {answer : Answer} (h : store.Mirrors history)
    (uncreated : ∀ id, known? id [(operation, answer)] = none)
    (unwritten : ∀ id, operation.outcomeFor? id = none) :
    store.Mirrors (history ++ [(operation, answer)]) := by
  intro id
  rw [known?_concat_of_silent history (uncreated id) (unwritten id)]
  exact h id

theorem Mirrors.create (h : store.Mirrors history) (owner resource : String)
    (fresh : store.find? store.nextId = none) :
    (store.create owner resource).2.Mirrors (history ++
      [(.call (.create owner resource),
        .reply (.created (.ok (store.create owner resource).1)))]) := by
  intro id
  rw [known?_concat_create, find?_create]
  have own : (store.create owner resource).1.id = store.nextId := rfl
  by_cases hid : id = store.nextId
  · rw [hid, h.none_iff.2 fresh, own, if_pos rfl, if_pos rfl]
    exact .some ⟨rfl, rfl, rfl, rfl, rfl, rfl, rfl⟩
  · rw [own, if_neg (Ne.symm hid), if_neg hid, Option.or_none]
    exact h id

theorem Mirrors.finalize_ok {outcome : Outcome} {answer : Answer} (h : store.Mirrors history)
    (sound : store.Sound) (taken : store.finalize id outcome = (.ok (), store')) :
    store'.Mirrors (history ++ [(.call (.finalize id outcome), answer)]) := by
  obtain ⟨record, found, processing, lookup⟩ := MemoryStore.finalize_ok taken
  intro k
  rw [lookup k]
  by_cases hk : k = id
  · subst hk
    obtain ⟨entry, known, shown⟩ := h.known found
    have unset : entry.outcome = none := by
      have ended := shown.isTerminal
      rw [processing] at ended
      exact Option.isNone_iff_eq_none.1 (by simpa [Status.isTerminal] using ended)
    have blank := sound.blank record (mem_of_find? found) processing
    rw [known?_concat_finalize, known, if_pos rfl, Option.map_some, unset]
    exact .some (shown.settled outcome _ blank)
  · rw [known?_concat_finalize_other history (Ne.symm hk), if_neg hk]
    exact h k

theorem Mirrors.finalize_error {outcome : Outcome} {error : Error} {answer : Answer}
    (h : store.Mirrors history) (refused : store.finalize id outcome = (.error error, store')) :
    store'.Mirrors (history ++ [(.call (.finalize id outcome), answer)]) := by
  obtain ⟨rfl, cause⟩ := MemoryStore.finalize_error refused
  intro k
  by_cases hk : k = id
  · subst hk
    rw [known?_concat_finalize]
    rcases cause with ⟨missing, -⟩ | ⟨record, found, terminal, -⟩
    · rw [h.none_iff.2 missing, missing]
      exact .none
    · obtain ⟨entry, known, shown⟩ := h.known found
      obtain ⟨first, hfirst⟩ := Option.isSome_iff_exists.1 (shown.isTerminal.symm.trans terminal)
      rw [known, found, Option.map_some, hfirst, Option.some_or, ← hfirst]
      exact .some shown
  · rw [known?_concat_finalize_other history (Ne.symm hk)]
    exact h k

theorem Mirrors.perform (h : store.Mirrors history) (sound : store.Sound) (operation : Operation)
    (unique : (store.perform operation).2.Unique) :
    (store.perform operation).2.Mirrors (history ++ [(operation, (store.perform operation).1)]) := by
  cases operation with
  | call call =>
    cases call with
    | create owner resource =>
      exact h.create owner resource (sound.find?_nextId owner resource unique)
    | finalize id outcome =>
      cases result : store.finalize id outcome with
      | mk answer after =>
        have after_eq : (store.perform (.call (.finalize id outcome))).2 = after :=
          congrArg Prod.snd result
        rw [after_eq]
        cases answer with
        | ok _ => exact h.finalize_ok sound result
        | error error => exact h.finalize_error result
    | get id => exact h.of_silent (fun _ => rfl) fun _ => rfl
  | list status => exact h.of_silent (fun _ => rfl) fun _ => rfl

/-! ## What the map admits -/

theorem Mirrors.allows_create (h : store.Mirrors history) (owner resource : String)
    (fresh : store.find? store.nextId = none) :
    Allows (known? · history) (.call (.create owner resource))
      (.reply (.created (.ok (store.create owner resource).1))) :=
  ⟨_, rfl, h.none_iff.2 fresh, rfl, rfl, rfl, rfl, rfl, rfl, rfl⟩

theorem Mirrors.allows_finalize (h : store.Mirrors history) (outcome : Outcome) :
    Allows (known? · history) (.call (.finalize id outcome))
      (.reply (.finalized (store.finalize id outcome).1)) := by
  show match known? id history with | none => _ | some entry => _
  cases known : known? id history with
  | none =>
    have missing := h.none_iff.1 known
    simp [MemoryStore.finalize, missing]
  | some entry =>
    obtain ⟨record, found, shown⟩ := h.shown known
    have ended := shown.isTerminal
    have status := shown.status_eq
    rw [Entry.status] at status
    cases outcome_eq : entry.outcome with
    | none =>
      simp_all [MemoryStore.finalize, Status.canBecome_outcome]
    | some first =>
      simp_all [MemoryStore.finalize, Status.canBecome_outcome]

theorem Mirrors.allows_get (h : store.Mirrors history) :
    Allows (known? · history) (.call (.get id)) (.reply (.found (store.get id))) := by
  show match known? id history with | none => _ | some entry => _
  cases known : known? id history with
  | none => simp [MemoryStore.get, h.none_iff.1 known]
  | some entry =>
    obtain ⟨record, found, shown⟩ := h.shown known
    exact ⟨record, by simp [MemoryStore.get, found], id_of_find? found, shown⟩

theorem mem_listByStatus {status : Status} :
    record ∈ store.listByStatus status ↔ record ∈ store.records ∧ record.status = status := by
  simp [listByStatus]

theorem Sound.nodup_listByStatus (h : store.Sound) (status : Status) :
    ((store.listByStatus status).map Prediction.id).Nodup := by
  have sorted := List.mergeSort_perm (store.records.filter fun r => r.status == status)
    fun a b => a.createdAt.le b.createdAt
  rw [listByStatus, (sorted.map _).nodup_iff]
  exact h.distinct.sublist (List.Sublist.map _ List.filter_sublist)

theorem Mirrors.allows_list (h : store.Mirrors history) (sound : store.Sound) (status : Status) :
    Allows (known? · history) (.list status) (.listed (store.listByStatus status)) := by
  refine ⟨sound.nodup_listByStatus status, fun record listed => ?_, fun id entry known same => ?_⟩
  · obtain ⟨mem, rfl⟩ := mem_listByStatus.1 listed
    obtain ⟨entry, known, shown⟩ := h.known (find?_of_mem sound.distinct mem)
    exact ⟨entry, known, shown.status_eq.symm, shown⟩
  · obtain ⟨record, found, shown⟩ := h.shown known
    exact ⟨record, mem_listByStatus.2 ⟨mem_of_find? found, shown.status_eq.trans same⟩,
      id_of_find? found⟩

theorem Mirrors.allows (h : store.Mirrors history) (sound : store.Sound) (operation : Operation)
    (unique : (store.perform operation).2.Unique) :
    Allows (known? · history) operation (store.perform operation).1 := by
  cases operation with
  | call call =>
    cases call with
    | create owner resource =>
      exact h.allows_create owner resource (sound.find?_nextId owner resource unique)
    | finalize id outcome => exact h.allows_finalize outcome
    | get id => exact h.allows_get
  | list status => exact h.allows_list sound status

theorem Sound.changes (sound : store.Sound) (operation : Operation)
    (unique : (store.perform operation).2.Unique) :
    Changes store (store.perform operation).2 operation (store.perform operation).1 := by
  cases operation with
  | call call =>
    cases call with
    | create owner resource =>
      have fresh := sound.find?_nextId owner resource unique
      exact ⟨ids_create owner resource fresh,
        fun id other => (find?_create ..).trans (if_neg other)⟩
    | finalize id outcome =>
      cases result : store.finalize id outcome with
      | mk answer after =>
        have performed : store.perform (.call (.finalize id outcome)) =
            (.reply (.finalized answer), after) := by
          simp [MemoryStore.perform, PredictionStore.serve, PredictionStore.finalize, result]
        rw [performed]
        cases answer with
        | ok _ =>
          obtain ⟨_, -, -, lookup⟩ := MemoryStore.finalize_ok result
          have kept := ids_finalize store id outcome
          rw [result] at kept
          exact ⟨kept, fun k other => (lookup k).trans (if_neg other)⟩
        | error error => exact (MemoryStore.finalize_error result).1
    | get id => rfl
  | list status => rfl

/-! ## All operations -/

theorem unique_of_performAll (operations : List Operation) :
    ∀ store : MemoryStore, (store.performAll operations).2.Unique → store.Unique := by
  induction operations with
  | nil => exact fun _ unique => unique
  | cons operation rest ih =>
    exact fun store unique => (perform_step store operation).unique (ih _ unique)

theorem sound_performAll (operations : List Operation) :
    ∀ store : MemoryStore, store.Sound → (store.performAll operations).2.Sound := by
  induction operations with
  | nil => exact fun _ sound => sound
  | cons operation rest ih =>
    exact fun store sound => ih _ ((perform_step store operation).sound sound)

theorem Mirrors.performAll (operations : List Operation) :
    ∀ (store : MemoryStore) (history : History), store.Mirrors history → store.Sound →
      (store.performAll operations).2.Unique →
        (store.performAll operations).2.Mirrors (history ++ (store.performAll operations).1) := by
  induction operations with
  | nil => exact fun store history h _ _ => by simpa [MemoryStore.performAll] using h
  | cons operation rest ih =>
    intro store history h sound unique
    have step := h.perform sound operation (unique_of_performAll rest _ unique)
    have run := ih _ _ step ((perform_step store operation).sound sound) unique
    simpa [MemoryStore.performAll] using run

/-- After any operations the next one is answered as the map admits, where the map holds who created
each record for what and the first outcome written for it since. An operation that is refused or only
reads leaves the store as it was, any other one changes its own record alone. A record has a label if
and only if it is completed and a reason if and only if it failed, and it does not change any more
once it is one of them. -/
theorem first_outcome_wins (supplies : Supplies) (operations : List Operation)
    (operation : Operation)
    (unique : (((empty supplies).performAll operations).2.perform operation).2.Unique) :
    let (history, store) := (empty supplies).performAll operations
    let (answer, store') := store.perform operation
    Allows (known? · history) operation answer ∧ Changes store store' operation answer ∧
      (∀ record ∈ store.records, (record.label.isSome ↔ record.status = .completed) ∧
        (record.error.isSome ↔ record.status = .failed)) ∧
      ∀ id record, store.find? id = some record → record.status.isTerminal = true →
        store'.find? id = some record := by
  have before := (perform_step ((empty supplies).performAll operations).2 operation).unique unique
  have mirrors := (mirrors_empty supplies).performAll operations _ _ (sound_empty supplies) before
  have sound := sound_performAll operations _ (sound_empty supplies)
  refine ⟨mirrors.allows sound operation unique, sound.changes operation unique,
    fun record mem => ?_, fun id record found terminal => ?_⟩
  · obtain ⟨entry, -, shown⟩ := mirrors.known (find?_of_mem sound.distinct mem)
    exact shown.label_error
  · obtain ⟨record', found', -, -, same⟩ :=
      (perform_step _ operation).find?_eq_some sound unique found
    exact same terminal ▸ found'

/-- Ids and clock readings that count upwards. -/
def Sample.counting : Supplies :=
  ⟨fun n => ⟨BitVec.ofNat 128 n⟩, fun n => .ofMicroseconds n⟩

/-- A finalization before the creation, and two after it. -/
def Sample.operations : List Operation :=
  [.call (.finalize ⟨0⟩ (.failed "early")), .call (.create "owner" "scan.png"),
    .call (.finalize ⟨0⟩ (.failed "first")), .call (.finalize ⟨0⟩ (.classified .undefined))]

theorem first_outcome_wins_sample :
    known? ⟨0⟩ ((empty Sample.counting).performAll Sample.operations).1 =
        some ⟨"owner", "scan.png", some (.failed "first")⟩ ∧
      ∃ record, ((empty Sample.counting).performAll Sample.operations).2.get ⟨0⟩ = .ok record ∧
        Entry.ShownBy ⟨"owner", "scan.png", some (.failed "first")⟩ record := by
  have known : known? ⟨0⟩ ((empty Sample.counting).performAll Sample.operations).1 =
      some ⟨"owner", "scan.png", some (.failed "first")⟩ := rfl
  obtain ⟨⟨record, got, -, shown⟩, -⟩ :=
    first_outcome_wins Sample.counting Sample.operations (.call (.get ⟨0⟩)) (by decide)
  exact ⟨known, record, got, shown⟩

end Predictor.MemoryStore
