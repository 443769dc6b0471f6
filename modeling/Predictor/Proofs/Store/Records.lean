import Mathlib.Data.List.Nodup
import Predictor.Store.Memory

/-!
What the operations of the store in memory do to a record, looked up by its id. A record is found
for good once it has been created, keeps its owner and its resource, and does not change any more
once its status is terminal (`Step.find?_eq_some`), provided that no id is handed out twice.
-/

namespace Predictor

theorem Status.canBecome_outcome (status : Status) (outcome : Outcome) :
    status.canBecome outcome.status = !status.isTerminal := by
  cases status <;> cases outcome <;> rfl

theorem Status.eq_processing {status : Status} (h : status.isTerminal = false) :
    status = .processing := by
  cases status with
  | processing => rfl
  | completed | failed => simp [isTerminal] at h

theorem Outcome.status_isTerminal (outcome : Outcome) : outcome.status.isTerminal = true := by
  cases outcome <;> rfl

/-- A record shows an outcome: its status, and the label or the reason alone. -/
def Outcome.ShownBy (outcome : Outcome) (record : Prediction) : Prop :=
  record.status = outcome.status ∧
    match outcome with
    | .classified label => record.label = some label ∧ record.error = none
    | .failed reason => record.error = some reason ∧ record.label = none

/-- A record that shows an outcome is no longer processing. -/
theorem Outcome.ShownBy.isTerminal {outcome : Outcome} {record : Prediction}
    (h : outcome.ShownBy record) : record.status.isTerminal = true := by
  rw [h.1]
  exact outcome.status_isTerminal

namespace MemoryStore

/-- No id has been handed out twice. -/
def Unique (store : MemoryStore) : Prop :=
  ∀ m < store.issued, ∀ n < store.issued, store.supplies.ids m = store.supplies.ids n → m = n

instance (store : MemoryStore) : Decidable store.Unique :=
  inferInstanceAs (Decidable (∀ m < store.issued, ∀ n < store.issued,
    store.supplies.ids m = store.supplies.ids n → m = n))

/-- The ids of the records, in the order of creation. -/
def ids (store : MemoryStore) : List PredictionId := store.records.map Prediction.id

structure Sound (store : MemoryStore) : Prop where
  issued : ∀ record ∈ store.records, ∃ n < store.issued, record.id = store.supplies.ids n
  distinct : store.ids.Nodup
  /-- A record that is processing has neither a label nor a reason. -/
  blank : ∀ record ∈ store.records, record.status = .processing →
    record.label = none ∧ record.error = none

theorem sound_empty (supplies : Supplies) : (empty supplies).Sound where
  issued := by simp [empty]
  distinct := List.nodup_nil
  blank := by simp [empty]

variable {store store' : MemoryStore} {id : PredictionId} {record : Prediction}
  {outcome : Outcome} {error : Error}

theorem id_of_find? (h : store.find? id = some record) : record.id = id := by
  simpa using List.find?_some h

theorem mem_of_find? (h : store.find? id = some record) : record ∈ store.records :=
  List.mem_of_find?_eq_some h

/-- Where no two records have the same id, each of them is found by its id. -/
theorem find?_of_mem (distinct : store.ids.Nodup) (mem : record ∈ store.records) :
    store.find? record.id = some record := by
  cases found : store.find? record.id with
  | none => exact absurd (List.find?_eq_none.1 found record mem) (by simp)
  | some other =>
    rw [List.inj_on_of_nodup_map distinct (mem_of_find? found) mem (id_of_find? found)]

theorem eq_of_id (distinct : store.ids.Nodup) (found : store.find? id = some record)
    {other : Prediction} (mem : other ∈ store.records) (own : other.id = id) : other = record :=
  Option.some.inj ((own ▸ find?_of_mem distinct mem).symm.trans found)

/-! ## Settled records -/

theorem id_settled (record : Prediction) (outcome : Outcome) (now : Time.Instant) :
    (settled record outcome now).id = record.id := by
  cases outcome <;> rfl

theorem id_settled_at (record : Prediction) (id : PredictionId) (outcome : Outcome)
    (now : Time.Instant) :
    (if record.id = id then settled record outcome now else record).id = record.id := by
  split
  · exact id_settled ..
  · rfl

theorem owner_settled (record : Prediction) (outcome : Outcome) (now : Time.Instant) :
    (settled record outcome now).owner = record.owner := by
  cases outcome <;> rfl

theorem resource_settled (record : Prediction) (outcome : Outcome) (now : Time.Instant) :
    (settled record outcome now).resource = record.resource := by
  cases outcome <;> rfl

theorem status_settled (record : Prediction) (outcome : Outcome) (now : Time.Instant) :
    (settled record outcome now).status = outcome.status := by
  cases outcome <;> rfl

theorem shownBy_settled (outcome : Outcome) (now : Time.Instant)
    (blank : record.label = none ∧ record.error = none) :
    outcome.ShownBy (settled record outcome now) := by
  obtain ⟨label, reason⟩ := blank
  refine ⟨status_settled record outcome now, ?_⟩
  cases outcome with
  | classified _ => exact ⟨rfl, reason⟩
  | failed _ => exact ⟨rfl, label⟩

/-! ## Creation -/

/-- The id that the next creation hands out. -/
def nextId (store : MemoryStore) : PredictionId := store.supplies.ids store.issued

/-- The records that stay when one with the next id is added. -/
def others (store : MemoryStore) : List Prediction :=
  store.records.filter fun r => r.id != store.nextId

theorem mem_others {store : MemoryStore} {r : Prediction} :
    r ∈ store.others ↔ r ∈ store.records ∧ r.id ≠ store.nextId := by
  simp [others]

theorem find?_others_nextId (store : MemoryStore) :
    store.others.find? (fun r => r.id == store.nextId) = none := by
  rw [List.find?_eq_none]
  intro r hr
  simpa using (mem_others.1 hr).2

theorem find?_others_ne (store : MemoryStore) {id : PredictionId} (h : id ≠ store.nextId) :
    store.others.find? (fun r => r.id == id) = store.find? id := by
  rw [others, List.find?_filter, find?]
  congr 1
  funext r
  by_cases hr : r.id = id
  · simp [hr, h]
  · simp [hr]

theorem find?_create (store : MemoryStore) (owner resource : String) (id : PredictionId) :
    (store.create owner resource).2.find? id =
      if id = store.nextId then some (store.create owner resource).1 else store.find? id := by
  show (store.others ++ [(store.create owner resource).1]).find? (fun r => r.id == id) = _
  have own : (store.create owner resource).1.id = store.nextId := rfl
  rw [List.find?_append, List.find?_singleton, own]
  by_cases hid : id = store.nextId
  · subst hid
    simp [find?_others_nextId]
  · simp [find?_others_ne store hid, hid, Ne.symm hid]

theorem Sound.create (h : store.Sound) (owner resource : String) :
    (store.create owner resource).2.Sound := by
  have cases_mem : ∀ r ∈ (store.create owner resource).2.records,
      r ∈ store.records ∨ r = (store.create owner resource).1 := by
    intro r hr
    rcases List.mem_append.1 hr with hr | hr
    · exact .inl (List.mem_filter.1 hr).1
    · exact .inr (List.mem_singleton.1 hr)
  refine ⟨fun r hr => ?_, ?_, fun r hr => ?_⟩
  · rcases cases_mem r hr with hr | rfl
    · obtain ⟨n, hn, hid⟩ := h.issued r hr
      exact ⟨n, Nat.lt_succ_of_lt hn, hid⟩
    · exact ⟨store.issued, Nat.lt_succ_self _, rfl⟩
  · have kept : (store.others.map Prediction.id).Nodup :=
      h.distinct.sublist (List.Sublist.map _ List.filter_sublist)
    show ((store.others ++ [_]).map Prediction.id).Nodup
    rw [List.map_append, List.nodup_append]
    refine ⟨kept, List.nodup_singleton _, fun i hi j hj => ?_⟩
    obtain ⟨r, hr, rfl⟩ := List.mem_map.1 hi
    obtain rfl := List.mem_singleton.1 hj
    exact (mem_others.1 hr).2
  · intro processing
    rcases cases_mem r hr with hr | rfl
    · exact h.blank r hr processing
    · exact ⟨rfl, rfl⟩

theorem others_of_fresh (fresh : store.find? store.nextId = none) :
    store.others = store.records := by
  refine List.filter_eq_self.2 fun r hr => ?_
  simpa using List.find?_eq_none.1 fresh r hr

/-- A creation that hands out a new id adds it to the ids of the records. -/
theorem ids_create (owner resource : String) (fresh : store.find? store.nextId = none) :
    (store.create owner resource).2.ids = store.ids ++ [store.nextId] := by
  show (store.others ++ [_]).map Prediction.id = _
  rw [others_of_fresh fresh, List.map_append]
  rfl

/-! ## Finalization -/

/-- An outcome is taken by a record that is processing, and changes no other record. -/
theorem finalize_ok (h : store.finalize id outcome = (.ok (), store')) :
    ∃ record, store.find? id = some record ∧ record.status = .processing ∧
      ∀ k, store'.find? k =
        if k = id then some (settled record outcome (store.supplies.clock store.readings))
        else store.find? k := by
  unfold finalize at h
  split at h
  · simp at h
  · rename_i record found
    split at h
    · rename_i open_
      obtain ⟨-, rfl⟩ := Prod.mk.inj h
      rw [Status.canBecome_outcome, Bool.not_eq_true'] at open_
      refine ⟨record, found, Status.eq_processing open_, fun k => ?_⟩
      show List.find? _ (store.records.map _) = _
      rw [List.find?_map]
      simp only [Function.comp_def, id_settled_at]
      change (store.find? k).map _ = _
      split
      · rename_i hk
        subst hk
        simp [found, id_of_find? found]
      · rename_i hk
        cases other : store.find? k with
        | none => rfl
        | some r => simp [id_of_find? other, hk]
    · simp at h

/-- An outcome that is not taken leaves the store as it was. -/
theorem finalize_error (h : store.finalize id outcome = (.error error, store')) :
    store' = store ∧
      (store.find? id = none ∧ error = .notFound id.text ∨
        ∃ record, store.find? id = some record ∧ record.status.isTerminal = true ∧
          error = .invalidTransition record.status.text outcome.status.text) := by
  unfold finalize at h
  split at h
  · rename_i missing
    obtain ⟨he, rfl⟩ := Prod.mk.inj h
    exact ⟨rfl, .inl ⟨missing, (Except.error.inj he).symm⟩⟩
  · rename_i record found
    split at h
    · simp at h
    · rename_i closed
      rw [Status.canBecome_outcome, Bool.not_eq_true', Bool.not_eq_false] at closed
      obtain ⟨he, rfl⟩ := Prod.mk.inj h
      exact ⟨rfl, .inr ⟨record, found, closed, (Except.error.inj he).symm⟩⟩

theorem finalize_supplies (store : MemoryStore) (id : PredictionId) (outcome : Outcome) :
    (store.finalize id outcome).2.supplies = store.supplies ∧
      (store.finalize id outcome).2.issued = store.issued := by
  unfold finalize
  split
  · exact ⟨rfl, rfl⟩
  · split <;> exact ⟨rfl, rfl⟩

theorem ids_finalize (store : MemoryStore) (id : PredictionId) (outcome : Outcome) :
    (store.finalize id outcome).2.ids = store.ids := by
  unfold finalize
  split
  · rfl
  · split
    · show List.map _ (List.map _ store.records) = store.records.map _
      rw [List.map_map]
      exact List.map_congr_left fun r _ => id_settled_at r id outcome _
    · rfl

/-- An outcome is written to the records with the id that are still processing. -/
theorem finalize_records (distinct : store.ids.Nodup) (id : PredictionId) (outcome : Outcome) :
    (store.finalize id outcome).2.records = store.records.map fun record =>
      if record.id = id ∧ record.status = .processing then
        settled record outcome (store.supplies.clock store.readings)
      else record := by
  have closed (h : ∀ record ∈ store.records, record.id = id → record.status ≠ .processing) :
      store.records = store.records.map fun record =>
        if record.id = id ∧ record.status = .processing then
          settled record outcome (store.supplies.clock store.readings)
        else record := by
    refine (List.map_id' store.records).symm.trans (List.map_congr_left fun record mem => ?_)
    rw [if_neg fun both => h record mem both.1 both.2]
  unfold finalize
  split
  · rename_i missing
    refine closed fun record mem own => ?_
    rw [← own, find?_of_mem distinct mem] at missing
    cases missing
  · rename_i record found
    rw [Status.canBecome_outcome]
    split
    · rename_i processing
      rw [Bool.not_eq_true'] at processing
      refine List.map_congr_left fun other mem => ?_
      by_cases own : other.id = id
      · have status := eq_of_id distinct found mem own ▸ Status.eq_processing processing
        rw [if_pos own, if_pos ⟨own, status⟩]
      · rw [if_neg own, if_neg fun both => own both.1]
    · rename_i terminal
      refine closed fun other mem own processing => terminal ?_
      rw [← eq_of_id distinct found mem own, processing]
      rfl

theorem blank_finalize (h : store.Sound) (id : PredictionId) (outcome : Outcome) :
    ∀ r ∈ (store.finalize id outcome).2.records, r.status = .processing →
      r.label = none ∧ r.error = none := by
  unfold finalize
  split
  · exact h.blank
  · split
    · intro r hr processing
      obtain ⟨old, hold, rfl⟩ := List.mem_map.1 hr
      by_cases hid : old.id = id
      · rw [if_pos hid, status_settled] at processing
        have terminal := outcome.status_isTerminal
        rw [processing] at terminal
        simp [Status.isTerminal] at terminal
      · rw [if_neg hid] at processing ⊢
        exact h.blank old hold processing
    · exact h.blank

theorem Sound.finalize (h : store.Sound) (id : PredictionId) (outcome : Outcome) :
    (store.finalize id outcome).2.Sound where
  issued r hr := by
    have mem : r.id ∈ store.ids :=
      ids_finalize store id outcome ▸ List.mem_map_of_mem hr
    obtain ⟨old, hold, same⟩ := List.mem_map.1 mem
    obtain ⟨supplies, issued⟩ := finalize_supplies store id outcome
    rw [supplies, issued, ← same]
    exact h.issued old hold
  distinct := by
    rw [ids_finalize]
    exact h.distinct
  blank := blank_finalize h id outcome

/-! ## Steps -/

/-- One operation on the store, or none. -/
inductive Step : MemoryStore → MemoryStore → Prop
  | stay {store : MemoryStore} : Step store store
  | create {store : MemoryStore} (owner resource : String) :
      Step store (store.create owner resource).2
  | finalize {store : MemoryStore} (id : PredictionId) (outcome : Outcome) :
      Step store (store.finalize id outcome).2

namespace Step

theorem of_eq (h : store' = store) : Step store store' :=
  h ▸ .stay

theorem supplies_eq (h : Step store store') : store'.supplies = store.supplies := by
  cases h with
  | stay => rfl
  | create owner resource => rfl
  | finalize id outcome => exact (finalize_supplies store id outcome).1

theorem issued_le (h : Step store store') : store.issued ≤ store'.issued := by
  cases h with
  | stay => exact Nat.le_refl _
  | create owner resource => exact Nat.le_succ _
  | finalize id outcome => exact Nat.le_of_eq (finalize_supplies store id outcome).2.symm

theorem sound (h : Step store store') (sound : store.Sound) : store'.Sound := by
  cases h with
  | stay => exact sound
  | create owner resource => exact sound.create owner resource
  | finalize id outcome => exact sound.finalize id outcome

/-- Ids that are unique now were unique before. -/
theorem unique (h : Step store store') (unique : store'.Unique) : store.Unique := by
  intro m hm n hn heq
  refine unique m (Nat.lt_of_lt_of_le hm h.issued_le) n (Nat.lt_of_lt_of_le hn h.issued_le) ?_
  rw [h.supplies_eq, heq]

end Step

/-- A creation hands out an id that no record bears yet. -/
theorem Sound.find?_nextId (h : store.Sound) (owner resource : String)
    (unique : (store.create owner resource).2.Unique) : store.find? store.nextId = none := by
  rw [find?, List.find?_eq_none]
  intro record hmem heq
  obtain ⟨n, hn, hid⟩ := h.issued record hmem
  have same : store.supplies.ids n = store.supplies.ids store.issued :=
    hid.symm.trans (eq_of_beq heq)
  exact Nat.ne_of_lt hn
    (unique n (Nat.lt_succ_of_lt hn) store.issued (Nat.lt_succ_self _) same)

/-- A record is found again after every operation, with its owner and its resource, and as it was if
its status is terminal. -/
theorem Step.find?_eq_some (h : Step store store') (sound : store.Sound) (unique : store'.Unique)
    (found : store.find? id = some record) :
    ∃ record', store'.find? id = some record' ∧ record'.owner = record.owner ∧
      record'.resource = record.resource ∧
        (record.status.isTerminal = true → record' = record) := by
  cases h with
  | stay => exact ⟨record, found, rfl, rfl, fun _ => rfl⟩
  | create owner resource =>
    refine ⟨record, ?_, rfl, rfl, fun _ => rfl⟩
    rw [find?_create, if_neg, found]
    rintro rfl
    simp [sound.find?_nextId owner resource unique] at found
  | finalize k outcome =>
    cases result : store.finalize k outcome with
    | mk answer after =>
      cases answer with
      | error error =>
        obtain ⟨rfl, -⟩ := finalize_error result
        exact ⟨record, found, rfl, rfl, fun _ => rfl⟩
      | ok _ =>
        obtain ⟨old, hold, processing, hfind⟩ := finalize_ok result
        by_cases hid : id = k
        · subst hid
          obtain rfl := Option.some.inj (hold.symm.trans found)
          refine ⟨_, (hfind id).trans (if_pos rfl), owner_settled .., resource_settled .., ?_⟩
          intro terminal
          rw [processing] at terminal
          simp [Status.isTerminal] at terminal
        · exact ⟨record, (hfind id).trans ((if_neg hid).trans found), rfl, rfl, fun _ => rfl⟩

/-! ## What a reply tells about a record -/

/-- The record as a finalization call that has been answered leaves it: it shows the outcome, or it
had come to its end before. -/
def Replied (store : MemoryStore) (id : PredictionId) (outcome : Outcome) :
    Except Error Unit → Prop
  | .ok _ => ∃ record, store.find? id = some record ∧ outcome.ShownBy record
  | .error error => ∃ record, store.find? id = some record ∧ record.status.isTerminal = true ∧
      error = .invalidTransition record.status.text outcome.status.text

/-- An answer about a record that is there. -/
theorem Sound.replied {result : Except Error Unit} (h : store.Sound)
    (found : store.find? id = some record)
    (answer : store.finalize id outcome = (result, store')) : store'.Replied id outcome result := by
  cases result with
  | ok _ =>
    obtain ⟨old, hold, processing, hfind⟩ := finalize_ok answer
    have blank := h.blank old (mem_of_find? hold) processing
    exact ⟨_, (hfind id).trans (if_pos rfl), shownBy_settled outcome _ blank⟩
  | error error =>
    obtain ⟨rfl, ⟨missing, -⟩ | ⟨old, hold, terminal, rfl⟩⟩ := finalize_error answer
    · simp [found] at missing
    · exact ⟨old, hold, terminal, rfl⟩

/-- A record that has come to its end stays as it is. -/
theorem Step.replied {result : Except Error Unit} (h : Step store store') (sound : store.Sound)
    (unique : store'.Unique) (replied : store.Replied id outcome result) :
    store'.Replied id outcome result := by
  cases result with
  | ok _ =>
    obtain ⟨record, found, shown⟩ := replied
    obtain ⟨record', found', -, -, same⟩ := h.find?_eq_some sound unique found
    exact ⟨record', found', same shown.isTerminal ▸ shown⟩
  | error error =>
    obtain ⟨record, found, terminal, rfl⟩ := replied
    obtain ⟨record', found', -, -, same⟩ := h.find?_eq_some sound unique found
    obtain rfl := same terminal
    exact ⟨record', found', terminal, rfl⟩

end MemoryStore

end Predictor
