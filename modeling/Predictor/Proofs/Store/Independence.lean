import Predictor.Proofs.Store.Alike

/-!
What an outcome does to the other records, which is nothing: outcomes for two records can be written
in either order (`finalize_comm`), and an outcome that is taken moves exactly one record to another
status (`moved_finalize`).
-/

namespace Predictor.MemoryStore

variable {store store' : MemoryStore} {id other : PredictionId} {outcome : Outcome}

/-- An outcome for another record does not touch a record. -/
theorem find?_finalize_other (ne : id ≠ other) (outcome : Outcome) :
    (store.finalize other outcome).2.find? id = store.find? id := by
  cases result : store.finalize other outcome with
  | mk answer after =>
    cases answer with
    | ok _ =>
      obtain ⟨_, -, -, found⟩ := finalize_ok result
      exact (found id).trans (if_neg ne)
    | error error => rw [(finalize_error result).1]

/-- The answer to a finalization call depends on the record alone. -/
theorem finalize_result_eq {a b : MemoryStore} (same : a.find? id = b.find? id)
    (outcome : Outcome) : (a.finalize id outcome).1 = (b.finalize id outcome).1 := by
  unfold finalize
  rw [same]
  split
  · rfl
  · split <;> rfl

/-- A record after the attempt to write an outcome to the one with this id. -/
def attempted (id : PredictionId) (outcome : Outcome) (now : Time.Instant)
    (record : Prediction) : Prediction :=
  if record.id = id ∧ record.status = .processing then settled record outcome now else record

theorem attempted_other {record : Prediction} (ne : record.id ≠ id) (outcome : Outcome)
    (now : Time.Instant) : attempted id outcome now record = record :=
  if_neg fun both => ne both.1

theorem id_attempted (id : PredictionId) (outcome : Outcome) (now : Time.Instant)
    (record : Prediction) : (attempted id outcome now record).id = record.id := by
  unfold attempted
  split
  · exact id_settled ..
  · rfl

/-- At what time the outcome was written does not show. -/
theorem untimed_attempted (id : PredictionId) (outcome : Outcome) (now now' : Time.Instant)
    (record : Prediction) :
    (attempted id outcome now record).untimed = (attempted id outcome now' record).untimed := by
  unfold attempted
  split
  · rw [Prediction.untimed_settled, ← Prediction.untimed_settled]
  · rfl

/-- Attempts on two records can be made in either order. -/
theorem attempted_comm (ne : id ≠ other) (outcome outcome' : Outcome)
    (first second first' second' : Time.Instant) (record : Prediction) :
    (attempted other outcome' second (attempted id outcome first record)).untimed =
      (attempted id outcome second' (attempted other outcome' first' record)).untimed := by
  by_cases own : record.id = id
  · have apart : record.id ≠ other := own ▸ ne
    have apart' : (attempted id outcome first record).id ≠ other := by
      rw [id_attempted]
      exact apart
    rw [attempted_other apart', attempted_other apart]
    exact untimed_attempted ..
  · have apart : (attempted other outcome' first' record).id ≠ id := by
      rw [id_attempted]
      exact own
    rw [attempted_other own, attempted_other apart]
    exact untimed_attempted ..

/-- Outcomes for two records can be written in either order. -/
theorem finalize_comm (distinct : store.ids.Nodup) (ne : id ≠ other) (outcome outcome' : Outcome) :
    ((store.finalize id outcome).2.finalize other outcome').2.records.map Prediction.untimed =
      ((store.finalize other outcome').2.finalize id outcome).2.records.map Prediction.untimed := by
  have distinct_then (k : PredictionId) (o : Outcome) : (store.finalize k o).2.ids.Nodup := by
    rw [ids_finalize]
    exact distinct
  rw [finalize_records (distinct_then id outcome), finalize_records (distinct_then other outcome'),
    finalize_records distinct, finalize_records distinct, List.map_map, List.map_map, List.map_map,
    List.map_map]
  exact List.map_congr_left fun record _ => attempted_comm ne ..

/-! ## Records that are moved -/

/-- How many records bear the status after a change of the store, and did not before. -/
def moved (before after : MemoryStore) (status : Status) : Nat :=
  after.records.countP fun record =>
    record.status == status && (before.find? record.id).any fun old => old.status != status

theorem moved_same (distinct : store.ids.Nodup) (status : Status) :
    store.moved store status = 0 := by
  refine List.countP_eq_zero.2 fun record mem => ?_
  simp [find?_of_mem distinct mem]

/-- A new record has not been moved. -/
theorem moved_create (sound : store.Sound) (owner resource : String)
    (unique : (store.create owner resource).2.Unique) (status : Status) :
    store.moved (store.create owner resource).2 status = 0 := by
  refine List.countP_eq_zero.2 fun record mem => ?_
  rcases List.mem_append.1 mem with old | new
  · have found := find?_of_mem sound.distinct (List.mem_filter.1 old).1
    simp [found]
  · obtain rfl := List.mem_singleton.1 new
    have fresh := sound.find?_nextId owner resource unique
    simp only [pending, nextId] at fresh ⊢
    simp [fresh]

/-- An outcome that is taken moves its own record to its own status, and no other. -/
theorem moved_finalize (distinct : store.ids.Nodup)
    (taken : store.finalize id outcome = (.ok (), store')) (status : Status) :
    store.moved store' status = if outcome.status = status then 1 else 0 := by
  obtain ⟨record, found, processing, -⟩ := finalize_ok taken
  have records := finalize_records distinct id outcome
  rw [taken] at records
  have own : store.records.countP (fun r => r.id == id) = 1 := by
    have mem : id ∈ store.ids := id_of_find? found ▸ List.mem_map_of_mem (mem_of_find? found)
    have once := List.count_eq_one_of_mem distinct mem
    rwa [ids, List.count_eq_countP, List.countP_map] at once
  have each : ∀ r ∈ store.records,
      ((attempted id outcome (store.supplies.clock store.readings) r).status == status &&
          (store.find? (attempted id outcome (store.supplies.clock store.readings) r).id).any
            fun old => old.status != status) =
        (r.id == id && outcome.status == status) := by
    intro r mem
    rw [id_attempted, find?_of_mem distinct mem]
    by_cases own : r.id = id
    · obtain rfl := eq_of_id distinct found mem own
      have change : (attempted id outcome (store.supplies.clock store.readings) r).status =
          outcome.status := by
        rw [attempted, if_pos ⟨own, processing⟩, status_settled]
      rw [change, own, Option.any_some, processing]
      cases outcome <;> cases status <;> simp [Outcome.status]
    · rw [attempted_other own, beq_eq_false_iff_ne.2 own, Option.any_some]
      cases h : r.status == status <;> simp [bne, h]
  have selected : store.moved store' status =
      store.records.countP fun r => r.id == id && outcome.status == status := by
    rw [moved, show store'.records = _ from records, List.countP_map]
    exact List.countP_congr fun r mem => Bool.eq_iff_iff.1 (each r mem)
  rw [selected]
  split
  · rename_i same
    simpa [same] using own
  · rename_i other
    simp [other]

end Predictor.MemoryStore
