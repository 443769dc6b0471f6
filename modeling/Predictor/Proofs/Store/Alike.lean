import Predictor.Proofs.Store.Records

/-!
Two stores that differ at most in times and in what became of the records of one resource
(`MemoryStore.Alike`). Each operation keeps them so, and what happens to a record of the resource does
not show; an outcome for any other record is taken by both stores or refused by both.
-/

namespace Predictor

namespace Prediction

/-- The instant that stands in for all times. -/
def anytime : Time.Instant := .ofMicroseconds 0

/-- A record without its times. -/
def untimed (p : Prediction) : Prediction :=
  { p with
    createdAt := anytime, updatedAt := anytime, completedAt := p.completedAt.map fun _ => anytime }

/-- A record without its times, and as it was created if it belongs to the resource. -/
def veiled (resource : String) (p : Prediction) : Prediction :=
  if p.resource = resource then MemoryStore.pending p.id p.owner p.resource anytime else p.untimed

variable {resource : String} {p q : Prediction}

theorem veiled_own (h : p.resource = resource) :
    p.veiled resource = MemoryStore.pending p.id p.owner p.resource anytime := if_pos h

theorem veiled_other (h : p.resource ≠ resource) : p.veiled resource = p.untimed := if_neg h

theorem id_veiled (resource : String) (p : Prediction) : (p.veiled resource).id = p.id := by
  unfold veiled
  split <;> rfl

theorem resource_veiled (resource : String) (p : Prediction) :
    (p.veiled resource).resource = p.resource := by
  unfold veiled
  split <;> rfl

theorem id_of_veiled (h : p.veiled resource = q.veiled resource) : p.id = q.id := by
  rw [← id_veiled resource p, h, id_veiled]

theorem resource_of_veiled (h : p.veiled resource = q.veiled resource) :
    p.resource = q.resource := by
  rw [← resource_veiled resource p, h, resource_veiled]

theorem untimed_of_veiled (h : p.veiled resource = q.veiled resource)
    (other : p.resource ≠ resource) : p.untimed = q.untimed := by
  have other' : q.resource ≠ resource := resource_of_veiled h ▸ other
  rwa [veiled_other other, veiled_other other'] at h

theorem id_of_untimed (h : p.untimed = q.untimed) : p.id = q.id := by
  show p.untimed.id = q.untimed.id
  rw [h]

theorem status_of_untimed (h : p.untimed = q.untimed) : p.status = q.status := by
  show p.untimed.status = q.untimed.status
  rw [h]

/-- An outcome that is written to a record of the resource does not show. -/
theorem veiled_settled_own (own : p.resource = resource) (outcome : Outcome) (now : Time.Instant) :
    (MemoryStore.settled p outcome now).veiled resource = p.veiled resource := by
  rw [veiled_own own, veiled_own ((MemoryStore.resource_settled ..).trans own),
    MemoryStore.id_settled, MemoryStore.owner_settled, MemoryStore.resource_settled]

theorem untimed_settled (p : Prediction) (outcome : Outcome) (now : Time.Instant) :
    (MemoryStore.settled p outcome now).untimed =
      (MemoryStore.settled p.untimed outcome anytime).untimed := by
  cases outcome <;> rfl

theorem veiled_settled_other (other : p.resource ≠ resource)
    (same : p.veiled resource = q.veiled resource) (outcome : Outcome) (now now' : Time.Instant) :
    (MemoryStore.settled p outcome now).veiled resource =
      (MemoryStore.settled q outcome now').veiled resource := by
  have other' : q.resource ≠ resource := resource_of_veiled same ▸ other
  rw [veiled_other ((MemoryStore.resource_settled ..).trans_ne other),
    veiled_other ((MemoryStore.resource_settled ..).trans_ne other'), untimed_settled,
    untimed_of_veiled same other, ← untimed_settled]

end Prediction

namespace MemoryStore

/-- Lists that look the same, changed so that each two elements that look the same still do. -/
theorem map_map_congr {α β : Type} {f : α → β} {g g' : α → α} {xs ys : List α}
    (h : xs.map f = ys.map f) (step : ∀ x y, f x = f y → f (g x) = f (g' y)) :
    (xs.map g).map f = (ys.map g').map f := by
  induction xs generalizing ys with
  | nil =>
    obtain rfl := List.map_eq_nil_iff.1 h.symm
    rfl
  | cons x xs ih =>
    obtain ⟨y, ys, rfl, head, tail⟩ := List.map_eq_cons_iff.1 h.symm
    rw [List.map_cons, List.map_cons, List.map_cons, List.map_cons, step x y head.symm,
      ih tail.symm]

/-- Two stores that differ at most in times and in what became of the records of the resource. -/
structure Alike (resource : String) (a b : MemoryStore) : Prop where
  supplies : a.supplies = b.supplies
  issued : a.issued = b.issued
  records : a.records.map (Prediction.veiled resource) =
    b.records.map (Prediction.veiled resource)

namespace Alike

variable {resource : String} {a b c : MemoryStore} {id : PredictionId} {record : Prediction}

theorem refl (resource : String) (a : MemoryStore) : Alike resource a a := ⟨rfl, rfl, rfl⟩

theorem symm (h : Alike resource a b) : Alike resource b a :=
  ⟨h.supplies.symm, h.issued.symm, h.records.symm⟩

theorem trans (h : Alike resource a b) (h' : Alike resource b c) : Alike resource a c :=
  ⟨h.supplies.trans h'.supplies, h.issued.trans h'.issued, h.records.trans h'.records⟩

theorem ids (h : Alike resource a b) : a.ids = b.ids := by
  have veiled (store : MemoryStore) :
      store.ids = (store.records.map (Prediction.veiled resource)).map Prediction.id := by
    rw [List.map_map]
    exact List.map_congr_left fun record _ => (Prediction.id_veiled resource record).symm
  rw [veiled, veiled, h.records]

theorem nextId (h : Alike resource a b) : a.nextId = b.nextId := by
  rw [MemoryStore.nextId, h.supplies, h.issued, MemoryStore.nextId]

theorem unique (h : Alike resource a b) (unique : a.Unique) : b.Unique := by
  unfold Unique
  rw [← h.supplies, ← h.issued]
  exact unique

/-- The same ids are found, in records that are alike. -/
theorem find? (h : Alike resource a b) (found : a.find? id = some record) :
    ∃ record', b.find? id = some record' ∧
      record.veiled resource = record'.veiled resource := by
  have veiled (store : MemoryStore) : (store.records.map (Prediction.veiled resource)).find?
      (fun r => r.id == id) = (store.find? id).map (Prediction.veiled resource) := by
    rw [List.find?_map]
    simp only [Function.comp_def, Prediction.id_veiled]
    rfl
  have same := (veiled a).symm.trans ((congrArg _ h.records).trans (veiled b))
  rw [found, Option.map_some] at same
  obtain ⟨record', found', eq⟩ := Option.map_eq_some_iff.1 same.symm
  exact ⟨record', found', eq.symm⟩

theorem find?_eq_none (h : Alike resource a b) (missing : a.find? id = none) :
    b.find? id = none := by
  cases found : b.find? id with
  | none => rfl
  | some record =>
    obtain ⟨_, found', -⟩ := h.symm.find? found
    rw [missing] at found'
    cases found'

/-- The records that are found differ in times alone, unless they are records of the resource. -/
theorem get (h : Alike resource a b) (id : PredictionId)
    (other : ∀ record, a.find? id = some record → record.resource ≠ resource) :
    (a.get id).map Prediction.untimed = (b.get id).map Prediction.untimed := by
  unfold MemoryStore.get
  cases found : a.find? id with
  | none => rw [h.find?_eq_none found]
  | some record =>
    obtain ⟨record', found', same⟩ := h.find? found
    rw [found']
    exact congrArg Except.ok (Prediction.untimed_of_veiled same (other record found))

/-! ## Creation -/

theorem others (h : Alike resource a b) :
    a.others.map (Prediction.veiled resource) = b.others.map (Prediction.veiled resource) := by
  have veiled (store : MemoryStore) : store.others.map (Prediction.veiled resource) =
      (store.records.map (Prediction.veiled resource)).filter fun r => r.id != store.nextId := by
    rw [List.filter_map]
    simp only [Function.comp_def, Prediction.id_veiled]
    rfl
  rw [veiled, veiled, h.records, h.nextId]

theorem untimed_create (h : Alike resource a b) (owner subject : String) :
    (a.create owner subject).1.untimed = (b.create owner subject).1.untimed := by
  show (pending a.nextId owner subject _).untimed = (pending b.nextId owner subject _).untimed
  rw [h.nextId]
  rfl

theorem create (h : Alike resource a b) (owner subject : String) :
    Alike resource (a.create owner subject).2 (b.create owner subject).2 where
  supplies := h.supplies
  issued := congrArg (· + 1) h.issued
  records := by
    have created : (a.create owner subject).1.veiled resource =
        (b.create owner subject).1.veiled resource := by
      by_cases own : subject = resource
      · rw [Prediction.veiled_own own, Prediction.veiled_own own]
        exact congrArg (pending · owner subject Prediction.anytime) h.nextId
      · rw [Prediction.veiled_other own, Prediction.veiled_other own, h.untimed_create]
    show (a.others ++ [(a.create owner subject).1]).map _ =
      (b.others ++ [(b.create owner subject).1]).map _
    rw [List.map_append, List.map_append, h.others, List.map_singleton, List.map_singleton, created]

/-! ## Finalization -/

/-- An outcome for a record of the resource does not show. -/
theorem finalize_own (distinct : a.ids.Nodup) (id : PredictionId) (outcome : Outcome)
    (own : ∀ record, a.find? id = some record → record.resource = resource) :
    Alike resource (a.finalize id outcome).2 a where
  supplies := (finalize_supplies a id outcome).1
  issued := (finalize_supplies a id outcome).2
  records := by
    rw [finalize_records distinct, List.map_map]
    refine List.map_congr_left fun record mem => ?_
    rw [Function.comp_apply]
    split
    · rename_i hit
      have found := hit.1 ▸ find?_of_mem distinct mem
      exact Prediction.veiled_settled_own (own record found) outcome _
    · rfl

theorem finalize (h : Alike resource a b) (distinct : a.ids.Nodup) (id : PredictionId)
    (outcome : Outcome) : Alike resource (a.finalize id outcome).2 (b.finalize id outcome).2 where
  supplies := by rw [(finalize_supplies ..).1, (finalize_supplies ..).1, h.supplies]
  issued := by rw [(finalize_supplies ..).2, (finalize_supplies ..).2, h.issued]
  records := by
    rw [finalize_records distinct, finalize_records (h.ids ▸ distinct)]
    refine map_map_congr h.records fun record record' same => ?_
    by_cases own : record.resource = resource
    · have own' : record'.resource = resource := Prediction.resource_of_veiled same ▸ own
      rw [apply_ite (Prediction.veiled resource), apply_ite (Prediction.veiled resource),
        Prediction.veiled_settled_own own, Prediction.veiled_settled_own own', ite_self, ite_self,
        same]
    · have untimed := Prediction.untimed_of_veiled same own
      rw [Prediction.id_of_veiled same, Prediction.status_of_untimed untimed]
      split
      · exact Prediction.veiled_settled_other own same outcome _ _
      · exact same

/-- The answer is the same unless the record is one of the resource. -/
theorem finalize_result (h : Alike resource a b) (id : PredictionId) (outcome : Outcome)
    (other : ∀ record, a.find? id = some record → record.resource ≠ resource) :
    (a.finalize id outcome).1 = (b.finalize id outcome).1 := by
  unfold MemoryStore.finalize
  cases found : a.find? id with
  | none =>
    rw [h.find?_eq_none found]
  | some record =>
    obtain ⟨record', found', same⟩ := h.find? found
    have status := Prediction.status_of_untimed
      (Prediction.untimed_of_veiled same (other record found))
    simp only [found', status]
    split <;> rfl

end Alike

end MemoryStore

end Predictor
