import Predictor.Proofs.Engine.Growth
import Predictor.Proofs.Store.Records

/-!
The engine over the store in memory. Each move makes at most one call of the store, so records stay
in it once they are there, and every accepted submission has a record of its own (`Filed`).
-/

namespace Predictor.Engine

variable {σ : Type}

/-! ## One call of the store -/

theorem store_grants (through : List TaskId) (s : State σ) :
    (through.foldl State.grant s).store = s.store := by
  rw [grants_eq]

theorem store_grantNext (next : Option TaskId) (s : State σ) :
    (s.grantNext next).store = s.store := by
  rw [grantNext_eq, store_grants]

theorem Advance.store_eq {t : TaskId} {s s' : State σ} (move : Advance t s s') :
    s'.store = s.store := by
  cases move with
  | unanswered => rw [unanswered_eq]
  | occupy | createPermit | call | answered | finalizePermit => rfl

section Memory

variable {t : TaskId} {s s' : State MemoryStore}

/-- The store in memory creates a record whenever it is asked to. -/
theorem create_memory {store store' : MemoryStore} {owner resource : String} {record : Prediction}
    (h : PredictionStore.create store owner resource = (.ok record, store')) :
    record = (store.create owner resource).1 ∧ store' = (store.create owner resource).2 := by
  obtain ⟨hrecord, hstore⟩ := Prod.mk.inj h
  exact ⟨(Except.ok.inj hrecord).symm, hstore.symm⟩

theorem CreateRefused.store_eq {submission : Submission} {error : Error} {store : MemoryStore}
    (h : CreateRefused s submission error store) : store = s.store := by
  rcases h with ⟨-, -, same⟩ | refused
  · exact same
  · nomatch (Prod.mk.inj refused).1

theorem FinalizeRefused.store_eq {w : Work} {outcome : Outcome} {error : Error}
    {store : MemoryStore} (h : FinalizeRefused s w outcome error store) : store = s.store := by
  rcases h with ⟨-, -, same⟩ | refused
  · exact same
  · exact (MemoryStore.finalize_error refused).1

theorem Halt.store_step (move : Halt t s s') : MemoryStore.Step s.store s'.store := by
  cases move with
  | launched _ created =>
    exact (create_memory created).2 ▸ .create _ _
  | rolledBack _ refused => exact .of_eq refused.store_eq
  | @written w outcome store _ stored =>
    have after : (s.store.finalize w.id outcome).2 = store := congrArg Prod.snd stored
    exact after ▸ .finalize w.id outcome
  | unwritten _ refused => exact .of_eq refused.store_eq
  | checked =>
    unfold State.checkIdle
    split <;> exact .stay
  | asleep | unnamed | full | duplicate | createPanicked | createHeld | gateHeld
  | classifyPanicked | finalizePanicked | finalizeHeld => exact .stay

theorem Outside.store_step (move : Outside s s') : MemoryStore.Step s.store s'.store := by
  cases move with
  | createDirectly owner resource => exact .create owner resource
  | finalizeDirectly id outcome => exact .finalize id outcome
  | passCreate => exact .of_eq (store_grantNext ..)
  | passFinalize => exact .of_eq (store_grantNext ..)
  | passGate => exact .of_eq (store_grantNext ..)
  | openGates => exact .of_eq (store_grants ..)
  | submit | drain | cancelNew | cancelWaiting | cancelGranted | behave | setCreateMode
  | setFinalizeMode | setCreatePassage | setFinalizePassage => exact .stay

theorem Transition.store_step (move : Transition s s') : MemoryStore.Step s.store s'.store := by
  cases move with
  | take => exact .stay
  | advance first => exact .of_eq first.store_eq
  | halt last => exact last.store_step
  | outside move => exact move.store_step

end Memory

/-! ## Records of accepted submissions -/

structure Filed (s : State MemoryStore) : Prop where
  sound : s.store.Sound
  filed : ∀ a ∈ s.accepted, ∃ record, s.store.find? a.record.id = some record ∧
    record.owner = a.submission.owner ∧ record.resource = a.submission.resource
  distinct : (s.accepted.map fun a => a.record.id).Nodup

theorem filed_start (capacity : UInt64) (table : LabelTable) (supplies : Supplies)
    (surroundings : Surroundings) (freshIds : Nat → PredictionId) :
    Filed (State.start capacity table (.empty supplies) surroundings freshIds) where
  sound := MemoryStore.sound_empty supplies
  filed := by simp [State.accepted, State.start]
  distinct := List.nodup_nil

theorem Filed.transition {s s' : State MemoryStore} (h : Filed s) (move : Transition s s')
    (reported : Reported s) (unique : s'.store.Unique) : Filed s' := by
  have step := move.store_step
  have kept : ∀ a ∈ s.accepted, ∃ record, s'.store.find? a.record.id = some record ∧
      record.owner = a.submission.owner ∧ record.resource = a.submission.resource := by
    intro a ha
    obtain ⟨record, found, howner, hresource⟩ := h.filed a ha
    obtain ⟨record', found', owner, resource, -⟩ := step.find?_eq_some h.sound unique found
    exact ⟨record', found', owner.trans howner, resource.trans hresource⟩
  rcases (course_transition move).accepted_cases reported with
    ⟨accepted, -⟩ | ⟨a, accepted, -, -, -, created⟩
  · exact ⟨step.sound h.sound, accepted ▸ kept, accepted ▸ h.distinct⟩
  · obtain ⟨record, store⟩ := create_memory created
    have own : a.record.id = s.store.nextId := congrArg Prediction.id record
    have fresh : s.store.find? a.record.id = none := by
      rw [own]
      exact h.sound.find?_nextId _ _ (store ▸ unique)
    refine ⟨step.sound h.sound, fun b hb => ?_, ?_⟩
    · rw [accepted] at hb
      rcases List.mem_append.1 hb with hold | hnew
      · exact kept b hold
      · obtain rfl := List.mem_singleton.1 hnew
        refine ⟨b.record, ?_, ?_, ?_⟩
        · rw [store, MemoryStore.find?_create, if_pos own, ← record]
        · rw [record]
          rfl
        · rw [record]
          rfl
    · rw [accepted, List.map_append, List.nodup_append]
      refine ⟨h.distinct, List.nodup_singleton _, fun id hid other hother => ?_⟩
      obtain ⟨b, hb, rfl⟩ := List.mem_map.1 hid
      obtain rfl := List.mem_singleton.1 hother
      obtain ⟨_, found, -⟩ := h.filed b hb
      intro same
      simp [same, fresh] at found

/-- What holds of the store in memory as long as no id is handed out twice. -/
theorem Reachable.invariant_unique {P : State MemoryStore → Prop} {initial s : State MemoryStore}
    (start : P initial) (kept : ∀ {r r' : State MemoryStore}, Transition r r' →
      r'.store.Unique → P r → P r')
    (h : Reachable initial s) (unique : s.store.Unique) : P s :=
  h.invariant (P := fun r => r.store.Unique → P r) (fun _ => start)
    (fun move hr unique => kept move unique (hr (move.store_step.unique unique))) unique

/-- Ids that are unique later on were unique before. -/
theorem Reachable.unique {r s : State MemoryStore} (h : Reachable r s)
    (unique : s.store.Unique) : r.store.Unique :=
  h.invariant (P := fun x => x.store.Unique → r.store.Unique) id
    (fun move hr unique => hr (move.store_step.unique unique)) unique

theorem filed_of_reachable {capacity : UInt64} {table : LabelTable} {supplies : Supplies}
    {surroundings : Surroundings} {freshIds : Nat → PredictionId} {s : State MemoryStore}
    (h : Reachable (.start capacity table (.empty supplies) surroundings freshIds) s)
    (unique : s.store.Unique) : Filed s := by
  have kept := h.invariant_unique (P := fun r => Reported r ∧ Filed r)
    ⟨reported_start .., filed_start ..⟩ (fun move unique ⟨reported, filed⟩ =>
      ⟨(course_transition move).reported reported, filed.transition move reported unique⟩) unique
  exact kept.2

end Predictor.Engine
