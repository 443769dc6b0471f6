import Predictor.Proofs.Store.FirstOutcome

/-!
The lists of records by status. Where every record was created strictly later than those before it,
the list of a status is what looking up the created records gives now, in the order of creation
(`Partitioned.listed`), whatever order the records are kept in. A finalization moves its record from
the list of those that are processing to its place in the list of its outcome.
-/

namespace Predictor

/-! ## Order in time -/

namespace Time.Instant

/-- Strictly earlier. -/
def Before (t u : Instant) : Prop := u.le t = false

instance (t u : Instant) : Decidable (t.Before u) := inferInstanceAs (Decidable (u.le t = false))

theorem le_iff {t u : Instant} : t.le u = true ↔ t.day < u.day ∨
    t.day = u.day ∧ (t.second < u.second ∨ t.second = u.second ∧ t.nano ≤ u.nano) := by
  simp [le]

theorem le_trans {t u v : Instant} (h : t.le u = true) (h' : u.le v = true) : t.le v = true := by
  rw [le_iff] at h h' ⊢
  omega

theorem le_total (t u : Instant) : (t.le u || u.le t) = true := by
  rw [Bool.or_eq_true, le_iff, le_iff]
  omega

theorem Before.le {t u : Instant} (h : t.Before u) : t.le u = true := by
  have total := le_total t u
  rwa [show u.le t = false from h, Bool.or_false] at total

end Time.Instant

namespace MemoryStore

variable {store store' : MemoryStore} {id : PredictionId} {outcome : Outcome}
  {created : List Prediction}

/-! ## Creations -/

def Operation.creates : Operation → Bool
  | .call (.create ..) => true
  | _ => false

/-- The record that has been created, if one has. -/
def Answer.created? : Answer → Option Prediction
  | .reply (.created (.ok record)) => some record
  | _ => none

/-- The records created in the course of a history, each as it was then. -/
def creations (history : History) : List Prediction :=
  history.filterMap fun event => event.2.created?

theorem creations_cons (event : Operation × Answer) (history : History) :
    creations (event :: history) = event.2.created?.toList ++ creations history := by
  cases made : event.2.created? <;> simp [creations, made]

/-- What a record has from its creation on. -/
def origin (record : Prediction) : PredictionId × String × String × Time.Instant :=
  (record.id, record.owner, record.resource, record.createdAt)

theorem origin_settled (record : Prediction) (outcome : Outcome) (now : Time.Instant) :
    origin (settled record outcome now) = origin record := by
  cases outcome <;> rfl

theorem origins_finalize (distinct : store.ids.Nodup) (id : PredictionId) (outcome : Outcome) :
    (store.finalize id outcome).2.records.map origin = store.records.map origin := by
  rw [finalize_records distinct, List.map_map]
  refine List.map_congr_left fun record _ => ?_
  rw [Function.comp_apply]
  split
  · exact origin_settled ..
  · rfl

/-- An operation adds the record that it creates behind the others, and no record loses what it has
from its creation. -/
theorem Sound.origins_perform (sound : store.Sound) (operation : Operation)
    (unique : (store.perform operation).2.Unique) :
    (store.perform operation).2.records.map origin =
      store.records.map origin ++ (store.perform operation).1.created?.toList.map origin := by
  cases operation with
  | call call =>
    cases call with
    | create owner resource =>
      have fresh := sound.find?_nextId owner resource unique
      show (store.others ++ [_]).map origin = _
      rw [others_of_fresh fresh, List.map_append]
      rfl
    | finalize id outcome =>
      exact (origins_finalize sound.distinct id outcome).trans (List.append_nil _).symm
    | get id => exact (List.append_nil _).symm
  | list status => exact (List.append_nil _).symm

theorem origins_performAll (operations : List Operation) :
    ∀ store : MemoryStore, store.Sound → (store.performAll operations).2.Unique →
      (store.performAll operations).2.records.map origin =
        store.records.map origin ++ (creations (store.performAll operations).1).map origin := by
  induction operations with
  | nil => exact fun store _ _ => (List.append_nil _).symm
  | cons operation rest ih =>
    intro store sound unique
    have step := sound.origins_perform operation (unique_of_performAll rest _ unique)
    have run := ih _ ((perform_step store operation).sound sound) unique
    rw [MemoryStore.performAll, creations_cons, List.map_append, ← List.append_assoc, ← step]
    exact run

theorem length_created? (store : MemoryStore) (operation : Operation) :
    (store.perform operation).1.created?.toList.length = [operation].countP Operation.creates := by
  cases operation with
  | call call =>
    cases call with
    | create owner resource => rfl
    | finalize id outcome => rfl
    | get id => rfl
  | list status => rfl

/-- No creation fails. -/
theorem length_creations (operations : List Operation) : ∀ store : MemoryStore,
    (creations (store.performAll operations).1).length = operations.countP Operation.creates := by
  induction operations with
  | nil => exact fun _ => rfl
  | cons operation rest ih =>
    intro store
    rw [MemoryStore.performAll, creations_cons, List.length_append, length_created? store operation,
      ih, ← List.countP_append, List.singleton_append]

/-! ## Lists -/

/-- Each record was created strictly later than those before it. -/
def Chronological (records : List Prediction) : Prop :=
  records.Pairwise fun a b => a.createdAt.Before b.createdAt

theorem chronological_congr {records records' : List Prediction}
    (same : records.map origin = records'.map origin) :
    Chronological records ↔ Chronological records' := by
  have times : ∀ list : List Prediction, Chronological list ↔
      (list.map origin).Pairwise fun a b => a.2.2.2.Before b.2.2.2 := by
    intro list
    rw [List.pairwise_map]
    rfl
  rw [times, times, same]

/-- No two records were created at the same time. -/
theorem Chronological.eq_of_le {records : List Prediction} (order : Chronological records)
    {a b : Prediction} (ha : a ∈ records) (hb : b ∈ records)
    (hab : a.createdAt.le b.createdAt = true) (hba : b.createdAt.le a.createdAt = true) :
    a = b := by
  obtain ⟨i, hi, rfl⟩ := List.mem_iff_getElem.1 ha
  obtain ⟨j, hj, rfl⟩ := List.mem_iff_getElem.1 hb
  have before := List.pairwise_iff_getElem.1 order
  rcases Nat.lt_trichotomy i j with lt | rfl | lt
  · cases (before i j hi hj lt).symm.trans hba
  · rfl
  · cases (before j i hj hi lt).symm.trans hab

theorem listByStatus_eq (order : Chronological store.records) (status : Status) :
    store.listByStatus status = store.records.filter fun record => record.status == status :=
  List.mergeSort_of_pairwise ((order.filter _).imp Time.Instant.Before.le)

/-- The lists do not depend on the order in which the records are kept. -/
theorem listByStatus_of_perm (order : Chronological store.records) {records : List Prediction}
    (perm : records.Perm store.records) (status : Status) :
    { store with records }.listByStatus status = store.listByStatus status := by
  have same : ({ store with records }.listByStatus status).Perm (store.listByStatus status) :=
    (List.mergeSort_perm ..).trans ((perm.filter _).trans (List.mergeSort_perm ..).symm)
  have sorted : ∀ other : MemoryStore, (other.listByStatus status).Pairwise fun a b =>
      a.createdAt.le b.createdAt = true := fun other =>
    @List.pairwise_mergeSort Prediction (fun a b => a.createdAt.le b.createdAt)
      (fun _ _ _ => Time.Instant.le_trans) (fun _ _ => Time.Instant.le_total _ _) _
  refine List.Perm.eq_of_pairwise (fun a b ha hb hab hba => ?_) (sorted _) (sorted _) same
  exact order.eq_of_le (mem_listByStatus.1 (same.mem_iff.1 ha)).1 (mem_listByStatus.1 hb).1 hab hba

/-! ## Partitions -/

/-- Every record is in the part of its own status. -/
theorem perm_parts (records : List Prediction) :
    (Status.all.flatMap fun status => records.filter fun r => r.status == status).Perm records := by
  induction records with
  | nil => rfl
  | cons record rest ih =>
    simp only [Status.all, List.flatMap_cons, List.flatMap_nil, List.append_nil,
      List.filter_cons] at ih ⊢
    cases record.status with
    | processing => exact ih.cons record
    | completed => exact List.perm_middle.trans (ih.cons record)
    | failed =>
      exact (List.perm_middle.append_left _).trans (List.perm_middle.trans (ih.cons record))

/-- The lists by status together with the records that have been created, each as it was then. -/
structure Partitioned (store : MemoryStore) (created : List Prediction) : Prop where
  /-- A list holds what looking up the created records gives now, in the order of creation. -/
  listed : ∀ status, store.listByStatus status =
    ((created.map Prediction.id).filterMap fun id => (store.get id).toOption).filter fun record =>
      record.status == status
  found : ∀ r ∈ created, ∃ record, store.get r.id = .ok record ∧ origin record = origin r
  disjoint : ∀ status status', status ≠ status' → ∀ record ∈ store.listByStatus status,
    ∀ record' ∈ store.listByStatus status', record.id ≠ record'.id
  together : ((Status.all.flatMap store.listByStatus).map Prediction.id).Perm
    (created.map Prediction.id)
  once : (created.map Prediction.id).Nodup
  ordered : ∀ status,
    ((store.listByStatus status).map Prediction.id).Sublist (created.map Prediction.id)
  lengths : (store.listByStatus .processing).length + (store.listByStatus .completed).length +
    (store.listByStatus .failed).length = store.size
  size : store.size = created.length
  /-- The order in which the records are kept makes no difference. -/
  kept : ∀ records, records.Perm store.records → ∀ status,
    { store with records }.listByStatus status = store.listByStatus status

theorem Sound.partitioned (sound : store.Sound) (order : Chronological store.records)
    (same : store.records.map origin = created.map origin) : store.Partitioned created := by
  have ids_eq : store.ids = created.map Prediction.id := by
    simpa [ids, Function.comp_def, origin] using congrArg (List.map Prod.fst) same
  have own : ∀ record ∈ store.records, store.get record.id = .ok record := fun record mem => by
    rw [get, find?_of_mem sound.distinct mem]
  have lookup : ((created.map Prediction.id).filterMap fun id => (store.get id).toOption) =
      store.records := by
    rw [← ids_eq, ids, List.filterMap_map]
    refine (List.filterMap_congr fun record mem => ?_).trans List.filterMap_some
    rw [Function.comp_apply, own record mem]
    rfl
  have parts := perm_parts store.records
  simp only [← listByStatus_eq order] at parts
  exact {
    listed := fun status => by rw [listByStatus_eq order, lookup]
    found := fun r mem => by
      obtain ⟨record, mem', own_origin⟩ := List.mem_map.1 (same ▸ List.mem_map_of_mem mem)
      have same_id : record.id = r.id := congrArg Prod.fst own_origin
      exact ⟨record, same_id ▸ own record mem', own_origin⟩
    disjoint := fun status status' apart record mem record' mem' same_id => by
      obtain ⟨here, rfl⟩ := mem_listByStatus.1 mem
      obtain ⟨there, rfl⟩ := mem_listByStatus.1 mem'
      exact apart (by rw [List.inj_on_of_nodup_map sound.distinct here there same_id])
    together := ids_eq ▸ parts.map _
    once := ids_eq ▸ sound.distinct
    ordered := fun status => by
      rw [listByStatus_eq order, ← ids_eq]
      exact List.filter_sublist.map _
    lengths := by
      simpa [Status.all, MemoryStore.size, Nat.add_assoc] using parts.length_eq
    size := by simpa [MemoryStore.size] using congrArg List.length same
    kept := fun records perm => listByStatus_of_perm order perm }

/-! ## Finalizations -/

theorem map_settled_of_ne {records : List Prediction} (other : ∀ r ∈ records, r.id ≠ id)
    (outcome : Outcome) (now : Time.Instant) :
    (records.map fun record =>
      if record.id = id ∧ record.status = .processing then settled record outcome now else record) =
      records :=
  (List.map_congr_left fun r mem => if_neg fun own => other r mem own.1).trans
    (List.map_id' records)

/-- A finalization writes its outcome in the place of the record. -/
theorem records_finalize_ok (distinct : store.ids.Nodup)
    (h : store.finalize id outcome = (.ok (), store')) :
    ∃ front record back now, store.records = front ++ record :: back ∧
      store'.records = front ++ settled record outcome now :: back ∧
      record.status = .processing ∧ store.get id = .ok record ∧
      store'.get id = .ok (settled record outcome now) := by
  obtain ⟨record, found, processing, lookup⟩ := finalize_ok h
  obtain ⟨front, back, split⟩ := List.append_of_mem (mem_of_find? found)
  have own : record.id = id := id_of_find? found
  have others : ∀ r ∈ front ++ back, r.id ≠ id := by
    rw [ids, split, List.map_append, List.map_cons, List.nodup_middle, List.nodup_cons,
      ← List.map_append] at distinct
    exact fun r mem same => distinct.1 (own.trans same.symm ▸ List.mem_map_of_mem mem)
  obtain ⟨before, after⟩ := List.forall_mem_append.1 others
  have records := finalize_records distinct id outcome
  rw [h, split, List.map_append, List.map_cons, if_pos ⟨own, processing⟩,
    map_settled_of_ne before, map_settled_of_ne after] at records
  exact ⟨front, record, back, _, split, records, processing, by rw [get, found],
    by rw [get, lookup, if_pos rfl]⟩

/-- The record leaves the list of those that are processing, and comes into the list of its outcome
between those created before it and those created after it; the third list stays as it is. -/
def Moves (store store' : MemoryStore) (id : PredictionId) (outcome : Outcome) : Prop :=
  ∃ record done, store.get id = .ok record ∧ store'.get id = .ok done ∧
    origin done = origin record ∧
    (∃ front back, store.listByStatus .processing = front ++ record :: back ∧
      store'.listByStatus .processing = front ++ back) ∧
    (∃ front back, store.listByStatus outcome.status = front ++ back ∧
      store'.listByStatus outcome.status = front ++ done :: back ∧
      (∀ r ∈ front, r.createdAt.Before done.createdAt) ∧
      ∀ r ∈ back, done.createdAt.Before r.createdAt) ∧
    ∀ status, status ≠ .processing → status ≠ outcome.status →
      store'.listByStatus status = store.listByStatus status

theorem Sound.moves (sound : store.Sound) (order : Chronological store.records)
    (h : store.finalize id outcome = (.ok (), store')) : store.Moves store' id outcome := by
  obtain ⟨front, record, back, now, split, split', processing, got, got'⟩ :=
    records_finalize_ok sound.distinct h
  have order' : Chronological store'.records := by
    have origins := origins_finalize sound.distinct id outcome
    rw [h] at origins
    exact (chronological_congr origins).2 order
  have ended : outcome.status ≠ .processing := by
    cases outcome <;> nofun
  have parts := split' ▸ order'
  obtain ⟨-, later, earlier⟩ := List.pairwise_append.1 parts
  have part : ∀ (list : List Prediction) (status : Status), ∀ r ∈ list.filter (·.status == status),
      r ∈ list := fun list status r mem => (List.mem_filter.1 mem).1
  simp only [Moves, listByStatus_eq order, listByStatus_eq order', split, split',
    List.filter_append, List.filter_cons, processing, status_settled, beq_iff_eq, ended,
    ended.symm, if_true, if_false]
  refine ⟨record, settled record outcome now, got, got', origin_settled .., ⟨_, _, rfl, rfl⟩,
    ⟨_, _, rfl, rfl, ?_, ?_⟩, ?_⟩
  · exact fun r mem => earlier r (part _ _ r mem) _ List.mem_cons_self
  · exact fun r mem => (List.pairwise_cons.1 later).1 r (part _ _ r mem)
  · intro status open_ other
    rw [if_neg (Ne.symm other), if_neg (Ne.symm open_)]

/-! ## All operations -/

/-- After any operations that have created records with different ids and each strictly later than
those before it, the lists by status share out the created records, and the store holds as many as
there were creations. A finalization that succeeds moves its record from one list to another one. -/
theorem listings_partition (supplies : Supplies) (operations : List Operation)
    (unique : ((empty supplies).performAll operations).2.Unique)
    (later : Chronological (creations ((empty supplies).performAll operations).1)) :
    let (history, store) := (empty supplies).performAll operations
    store.Partitioned (creations history) ∧
      store.size = operations.countP Operation.creates ∧
      ∀ id outcome store', store.finalize id outcome = (.ok (), store') →
        store.Moves store' id outcome := by
  have sound := sound_performAll operations _ (sound_empty supplies)
  have same := origins_performAll operations _ (sound_empty supplies) unique
  have order := (chronological_congr same).2 later
  have partitioned := sound.partitioned order same
  exact ⟨partitioned, partitioned.size.trans (length_creations operations _),
    fun id outcome store' taken => sound.moves order taken⟩

/-- Three creations; the record that was created last completes before the first one. -/
def Sample.overtaking : List Operation :=
  [.call (.create "owner" "first"), .call (.create "owner" "second"),
    .call (.create "owner" "third"), .call (.finalize ⟨2⟩ (.classified .undefined)),
    .call (.finalize ⟨0⟩ (.classified .undefined))]

theorem listings_partition_overtaking :
    let (history, store) := (empty Sample.counting).performAll Sample.overtaking
    store.Unique ∧ Chronological (creations history) ∧
      (store.listByStatus .completed).map Prediction.resource = ["first", "third"] ∧
      (store.listByStatus .processing).map Prediction.resource = ["second"] := by
  have unique : ((empty Sample.counting).performAll Sample.overtaking).2.Unique := by decide
  have later : Chronological (creations
      ((empty Sample.counting).performAll Sample.overtaking).1) := by
    unfold Chronological
    decide
  obtain ⟨partitioned, -⟩ := listings_partition Sample.counting Sample.overtaking unique later
  exact ⟨unique, later, (congrArg (List.map Prediction.resource) (partitioned.listed _)).trans rfl,
    (congrArg (List.map Prediction.resource) (partitioned.listed _)).trans rfl⟩

end MemoryStore

end Predictor
