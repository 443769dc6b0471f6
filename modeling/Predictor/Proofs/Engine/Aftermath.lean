import Predictor.Proofs.Engine.Accounting
import Predictor.Proofs.Engine.Filing

/-!
What a unit of work leaves behind in the store in memory. The record is as the reply to the
finalization call says (`Settled`), and a poll of a unit changes no record unless the store has taken
the outcome, and then only its own (`Changed.own`); so each fate of a unit determines what it has
left of the record (`Fate.Leaves`).
-/

namespace Predictor.Engine

variable {σ : Type}

/-! ## Replies -/

theorem Did.of_told {table : LabelTable} {task : Task} {deeds : List Deed}
    {result : Except Error Unit} (h : Did table task deeds) (told : .told result ∈ deeds) :
    ∃ answer : Answer,
      deeds = [.heard answer.behaviour, .asked (answer.outcome table), .told result] := by
  cases h with
  | finalized w answer reply =>
    obtain rfl : result = reply := by simpa using told
    exact ⟨answer, rfl⟩
  | submit | drain | new | classifying | finalizing | classifyPanicked | finalizePanicked =>
    simp at told

theorem Recorded.of_told {s : State σ} (h : Recorded s) {t : TaskId} {result : Except Error Unit}
    (told : (t, .told result) ∈ s.deeds) :
    ∃ answer : Answer, s.deedsOf t =
      [.heard answer.behaviour, .asked (answer.outcome s.table), .told result] :=
  (h.did (List.getElem?_eq_getElem (h.bound _ told))).of_told (mem_deedsIn.2 told)

/-- The store has replied to the finalization call of a unit of work in this move. -/
def Replies [PredictionStore σ] (s s' : State σ) (w : Work) (outcome : Outcome)
    (result : Except Error Unit) : Prop :=
  result = .error State.finalizeUnavailable ∨
    PredictionStore.finalize s.store w.id outcome = (result, s'.store)

theorem Advance.told {t i : TaskId} {s s' : State σ} {result : Except Error Unit}
    (move : Advance t s s') (told : (i, .told result) ∈ s'.deeds) : (i, .told result) ∈ s.deeds := by
  cases move with
  | occupy | createPermit | call | finalizePermit => exact told
  | answered =>
    simpa [State.answered, State.ask, State.note, State.measure, State.setTask] using told
  | unanswered => simpa [unanswered_eq] using told

section Moves

variable [PredictionStore σ]

theorem Halt.told {t i : TaskId} {s s' : State σ} {result : Except Error Unit} (move : Halt t s s')
    (told : (i, .told result) ∈ s'.deeds) :
    (i, .told result) ∈ s.deeds ∨ ∃ w outcome,
      s.tasks[i]? = some (.work w (.finalizing outcome true)) ∧ Replies s s' w outcome result := by
  cases move with
  | asleep | unnamed | full | duplicate | launched | rolledBack | createPanicked | createHeld
  | gateHeld | finalizeHeld => exact .inl told
  | checked =>
    unfold State.checkIdle at told
    split at told <;> exact .inl told
  | classifyPanicked | finalizePanicked => exact .inl (by simpa using List.mem_append.1 told)
  | @written w outcome store here stored =>
    rcases List.mem_append.1 told with hold | hnew
    · exact .inl hold
    · obtain ⟨rfl, rfl⟩ : i = t ∧ result = .ok () := by simpa using hnew
      exact .inr ⟨w, outcome, here, .inr stored⟩
  | @unwritten w outcome error store here refused =>
    rcases List.mem_append.1 told with hold | hnew
    · exact .inl hold
    · obtain ⟨rfl, rfl⟩ : i = t ∧ result = .error error := by simpa using hnew
      refine .inr ⟨w, outcome, here, ?_⟩
      rcases refused with ⟨-, rfl, -⟩ | answer
      · exact .inl rfl
      · exact .inr answer

omit [PredictionStore σ] in
theorem deeds_grantNext (next : Option TaskId) (s : State σ) :
    (s.grantNext next).deeds = s.deeds := by
  rw [grantNext_eq, deeds_grants]

theorem Outside.deeds_eq {s s' : State σ} (move : Outside s s') : s'.deeds = s.deeds := by
  cases move with
  | passCreate => exact deeds_grantNext _ _
  | passFinalize => exact deeds_grantNext _ _
  | passGate => exact deeds_grantNext _ _
  | openGates => exact deeds_grants _ _
  | submit | drain | cancelNew | cancelWaiting | cancelGranted | behave | setCreateMode
  | setFinalizeMode | setCreatePassage | setFinalizePassage | createDirectly | finalizeDirectly => rfl

/-- A reply that was not there before has come from the store. -/
theorem Transition.told {t : TaskId} {s s' : State σ} {result : Except Error Unit}
    (move : Transition s s') (told : (t, .told result) ∈ s'.deeds) :
    (t, .told result) ∈ s.deeds ∨ ∃ w outcome,
      s.tasks[t]? = some (.work w (.finalizing outcome true)) ∧ Replies s s' w outcome result := by
  cases move with
  | take => exact .inl told
  | advance first => exact .inl (first.told told)
  | halt last => exact last.told told
  | outside move => exact .inl (move.deeds_eq ▸ told)

end Moves

/-! ## Records after the reply -/

/-- The record of a unit of work is as the reply says, unless the store has not taken the call. -/
structure Settled (s : State MemoryStore) : Prop where
  replied : ∀ {t : TaskId} {w : Work} {stage : WorkStage} {behaviour : Behaviour}
    {outcome : Outcome} {result : Except Error Unit}, s.tasks[t]? = some (.work w stage) →
      s.deedsOf t = [.heard behaviour, .asked outcome, .told result] →
        result = .error State.finalizeUnavailable ∨ s.store.Replied w.id outcome result

/-- A unit of work has a record, which is about its resource. -/
theorem Filed.find?_unit {s : State MemoryStore} (h : Filed s) (intake : Intake s) {t : TaskId}
    {w : Work} {stage : WorkStage} (here : s.tasks[t]? = some (.work w stage)) :
    ∃ record, s.store.find? w.id = some record ∧ record.resource = w.resource := by
  obtain ⟨n, lt, rfl⟩ := List.mem_iff_getElem.1 (mem_spawned.2 ⟨t, stage, here⟩)
  have lt' : n < s.accepted.length := intake.units.length_eq ▸ lt
  have serves : Serves s.accepted[n] s.spawned[n] := intake.units.get lt' lt
  obtain ⟨record, found, -, resource⟩ := h.filed _ (List.getElem_mem lt')
  exact ⟨record, serves.id ▸ found, resource.trans serves.resource.symm⟩

theorem settled_start (capacity : UInt64) (table : LabelTable) (store : MemoryStore)
    (surroundings : Surroundings) (freshIds : Nat → PredictionId) :
    Settled (State.start capacity table store surroundings freshIds) where
  replied := by simp [State.start]

theorem Settled.transition {s s' : State MemoryStore} (h : Settled s) (move : Transition s s')
    (recorded : Recorded s) (intake : Intake s) (filed : Filed s) (unique : s'.store.Unique) :
    Settled s' := by
  refine ⟨fun {t w stage behaviour outcome result} here deeds => ?_⟩
  have grows := move.grows
  have told : (t, .told result) ∈ s'.deeds := mem_deedsIn.1 (by
    rw [← State.deedsOf, deeds]
    simp)
  rcases move.told told with before | ⟨w', outcome', here', replies⟩
  · -- the reply is an old one, and the record has stayed as it was
    obtain ⟨stage', here'⟩ := grows.work_before here (recorded.bound _ before)
    obtain ⟨answer, hdeeds⟩ := recorded.of_told before
    have prefixed := grows.deedsOf t
    rw [hdeeds, deeds] at prefixed
    obtain ⟨-, rfl⟩ : behaviour = answer.behaviour ∧ outcome = answer.outcome s.table := by
      simpa [eq_comm] using prefixed
    exact (h.replied here' hdeeds).imp_right fun replied =>
      move.store_step.replied filed.sound unique replied
  · -- the store replies in this move
    obtain ⟨stage', hwork⟩ := grows.work_before here (List.getElem?_eq_some_iff.1 here').1
    obtain ⟨rfl, -⟩ := Task.work.inj (Option.some.inj (here'.symm.trans hwork))
    have did := recorded.did here'
    have prefixed := grows.deedsOf t
    rw [deeds] at prefixed
    generalize s.deedsOf t = before at did prefixed
    cases did with
    | finalizing _ answer =>
      obtain ⟨-, rfl⟩ : behaviour = answer.behaviour ∧ outcome = answer.outcome s.table := by
        simpa [eq_comm] using prefixed
      obtain ⟨record, found, -⟩ := filed.find?_unit intake here'
      exact replies.imp_right fun answered => filed.sound.replied found answered

/-! ## Who changes a record -/

/-- A poll of task `t` in the course of the run has changed the record of that id. -/
def Changed (initial s : State MemoryStore) (t : TaskId) (id : PredictionId) : Prop :=
  ∃ r r', Reachable initial r ∧ r.ready.head? = some t ∧ r.step? = some r' ∧ Reachable r' s ∧
    r'.store.find? id ≠ r.store.find? id

/-- Task `t` is a submission, or a unit of work of that id for which the store has taken an outcome. -/
def MayChange (s : State MemoryStore) (t : TaskId) (id : PredictionId) : Prop :=
  (∃ submission, s.origins[t]? = some (.submit submission .new)) ∨
    ∃ w, s.origins[t]? = some (.work w .new) ∧ id = w.id ∧ (t, .told (.ok ())) ∈ s.deeds

theorem MayChange.grows {s s' : State MemoryStore} {t : TaskId} {id : PredictionId}
    (h : MayChange s t id) (grows : Grows s s') : MayChange s' t id := by
  have origin : ∀ {task}, s.origins[t]? = some task → s'.origins[t]? = some task := by
    intro task here
    obtain ⟨added, heq⟩ := grows.origins
    rw [← heq, List.getElem?_append_left (List.getElem?_eq_some_iff.1 here).1, here]
  rcases h with ⟨submission, here⟩ | ⟨w, here, hid, told⟩
  · exact .inl ⟨submission, origin here⟩
  · exact .inr ⟨w, origin here, hid, grows.mem_deeds told⟩

theorem Halt.mayChange {t : TaskId} {s s' : State MemoryStore} {id : PredictionId}
    (move : Halt t s s') (changed : s'.store.find? id ≠ s.store.find? id) : MayChange s' t id := by
  have origin := fun {task : Task} (here : s.tasks[t]? = some task) => move.grows.origin_eq here
  cases move with
  | launched here => exact .inl ⟨_, origin here⟩
  | rolledBack _ refused => exact absurd (congrArg (MemoryStore.find? · id) refused.store_eq) changed
  | @written w outcome store here stored =>
    obtain ⟨_, -, -, hfind⟩ := MemoryStore.finalize_ok stored
    refine .inr ⟨w, origin here, ?_, List.mem_append_right _ (List.mem_singleton.2 rfl)⟩
    by_contra other
    exact changed ((hfind id).trans (if_neg other))
  | unwritten _ refused => exact absurd (congrArg (MemoryStore.find? · id) refused.store_eq) changed
  | checked =>
    unfold State.checkIdle at changed
    split at changed <;> exact absurd rfl changed
  | asleep | unnamed | full | duplicate | createPanicked | createHeld | gateHeld
  | classifyPanicked | finalizePanicked | finalizeHeld => exact absurd rfl changed

theorem Polled.mayChange {t : TaskId} {s s' : State MemoryStore} {id : PredictionId}
    (poll : Polled t s s') (changed : s'.store.find? id ≠ s.store.find? id) :
    MayChange s' t id := by
  induction poll with
  | halt last => exact last.mayChange changed
  | advance first _ ih => exact ih (first.store_eq ▸ changed)

theorem Changed.mayChange {initial s : State MemoryStore} {t : TaskId} {id : PredictionId}
    (h : Changed initial s t id) : MayChange s t id := by
  obtain ⟨r, r', -, head, step, later, changed⟩ := h
  refine MayChange.grows ?_ later.grows
  obtain ⟨first, rest, ready, rfl⟩ := State.poll_of_step? step
  obtain rfl : first = t := by simpa [ready] using head
  exact (polled_poll _ first).mayChange changed

/-- A unit of work changes its own record only, and only when the store has taken the outcome. -/
theorem Changed.own {initial s : State MemoryStore} {t : TaskId} {id : PredictionId} {w : Work}
    {stage : WorkStage} (h : Changed initial s t id) (here : s.tasks[t]? = some (.work w stage)) :
    id = w.id ∧ .told (.ok ()) ∈ s.deedsOf t := by
  have origin := origins_of_some here
  rcases h.mayChange with ⟨submission, other⟩ | ⟨w', other, hid, told⟩
  · rw [origin] at other
    simp [Task.origin] at other
  · rw [origin] at other
    obtain ⟨rfl, -⟩ := Task.work.inj (Option.some.inj other)
    exact ⟨hid, mem_deedsIn.2 told⟩

/-! ## The end of a unit -/

/-- What unit `t`, which has come to such an end, has left of the record of that id. -/
def Fate.Leaves (table : LabelTable) (initial s : State MemoryStore) (t : TaskId)
    (id : PredictionId) : Fate → Prop
  | .written (.ok raw) => ∃ record, s.store.find? id = some record ∧ record.status = .completed ∧
      record.label = some (table.decode raw) ∧ record.error = none
  | .written (.error error) => ∃ record, s.store.find? id = some record ∧
      record.status = .failed ∧ record.error = some error.message ∧ record.label = none
  | .unwritten answer error => ¬ Changed initial s t id ∧
      (error = State.finalizeUnavailable ∨
        ∃ record, s.store.find? id = some record ∧ record.status.isTerminal = true ∧
          error = .invalidTransition record.status.text (answer.outcome table).status.text)
  | .finalizePanicked _ | .classifyPanicked => ¬ Changed initial s t id

/-- A fate without a reply that the outcome has been taken leaves the record alone. -/
theorem not_changed {initial s : State MemoryStore} {t : TaskId} {w : Work} {stage : WorkStage}
    {deeds : List Deed} (here : s.tasks[t]? = some (.work w stage)) (did : s.deedsOf t = deeds)
    (untold : .told (.ok ()) ∉ deeds) : ¬ Changed initial s t w.id :=
  fun changed => untold (did ▸ (changed.own here).2)

theorem Settled.fate {initial s : State MemoryStore} (h : Settled s) (recorded : Recorded s)
    {t : TaskId} {w : Work} {panicked : Bool}
    (here : s.tasks[t]? = some (.work w (.done panicked))) :
    ∃! fate : Fate, s.deedsOf t = fate.deeds s.table ∧ fate.Leaves s.table initial s t w.id := by
  obtain ⟨fate, deeds⟩ := (recorded.did here).fate
  refine ⟨fate, ⟨deeds, ?_⟩, fun other hother => Fate.deeds_inj (hother.1.symm.trans deeds)⟩
  cases fate with
  | written answer =>
    obtain ⟨record, found, status, shown⟩ := (h.replied here deeds).resolve_left nofun
    cases answer with
    | ok raw => exact ⟨record, found, status, shown⟩
    | error error => exact ⟨record, found, status, shown⟩
  | unwritten answer error =>
    refine ⟨not_changed here deeds (by simp [Fate.deeds]), ?_⟩
    exact (h.replied here deeds).imp_left Except.error.inj
  | finalizePanicked answer => exact not_changed here deeds (by simp [Fate.deeds])
  | classifyPanicked => exact not_changed here deeds (by simp [Fate.deeds])

/-- A unit of work that holds no admission is over. -/
theorem work_done {s : State σ} {t : TaskId} {w : Work} {stage : WorkStage}
    (here : s.tasks[t]? = some (.work w stage)) (released : ¬ s.Holds t w.resource) :
    ∃ panicked, stage = .done panicked := by
  cases stage with
  | done panicked => exact ⟨panicked, rfl⟩
  | new | classifying | finalizing => exact absurd ⟨_, here, rfl⟩ released

variable {capacity : UInt64} {table : LabelTable} {supplies : Supplies}
  {surroundings : Surroundings} {freshIds : Nat → PredictionId} {s : State MemoryStore}

theorem settled_of_reachable
    (h : Reachable (.start capacity table (.empty supplies) surroundings freshIds) s)
    (unique : s.store.Unique) : Settled s := by
  have kept := h.invariant_unique (P := fun r => Intake r ∧ Recorded r ∧ Filed r ∧ Settled r)
    ⟨intake_start .., recorded_start .., filed_start .., settled_start ..⟩
    (fun move unique ⟨intake, recorded, filed, settled⟩ =>
      ⟨(course_transition move).intake intake, recorded.transition move,
        filed.transition move intake.toReported unique,
        settled.transition move recorded intake filed unique⟩) unique
  exact kept.2.2.2

/-- A submission that returned a record has filed it, and has one unit of work with its id. For this
unit the store is asked at most once, and only after the classifier has answered. Once the
admission has been given back, the unit has met one of its fates, and the record is as this fate
leaves it. No unit changes a record that is not its own. -/
theorem unit_leaves_record
    (h : Reachable (.start capacity table (.empty supplies) surroundings freshIds) s)
    (unique : s.store.Unique) {i : TaskId} {submission : Submission} {record : Prediction}
    (returned : s.tasks[i]? = some (.submit submission (.done (.returned (.ok record))))) :
    (∃ stored, s.store.find? record.id = some stored ∧ stored.owner = submission.owner ∧
      stored.resource = submission.resource) ∧
    ∃ t w stage, s.tasks[t]? = some (.work w stage) ∧ w.id = record.id ∧
      (∀ t' w' stage', s.tasks[t']? = some (.work w' stage') → w'.id = record.id → t' = t) ∧
      (∀ front outcome back, s.deeds = front ++ (t, .asked outcome) :: back →
        ∃ answer : Answer, (t, .heard answer.behaviour) ∈ front ∧ outcome = answer.outcome table ∧
          ∀ other, (t, .asked other) ∉ front ++ back) ∧
      (¬ s.Holds t w.resource →
        ∃! fate : Fate, s.deedsOf t = fate.deeds table ∧
          fate.Leaves table (.start capacity table (.empty supplies) surroundings freshIds) s t
            record.id) ∧
      ∀ t' w' stage' id, s.tasks[t']? = some (.work w' stage') →
        Changed (.start capacity table (.empty supplies) surroundings freshIds) s t' id →
          id = w'.id := by
  have intake := intake_of_reachable h
  have recorded := recorded_of_reachable h
  have filed := filed_of_reachable h unique
  have settled := settled_of_reachable h unique
  obtain rfl : s.table = table := h.grows.table
  have accepted : ⟨i, submission, record⟩ ∈ s.accepted := intake.mem_accepted.2 returned
  have served : record.id ∈ s.spawned.map Work.id := by
    rw [intake.ids, intake.created]
    exact List.mem_map_of_mem accepted
  have distinct : (s.spawned.map Work.id).Nodup := by
    rw [intake.ids, intake.created]
    exact filed.distinct
  obtain ⟨w, spawned, same⟩ := List.mem_map.1 served
  obtain ⟨t, stage, here⟩ := mem_spawned.1 spawned
  refine ⟨filed.filed _ accepted, t, w, stage, here, same, fun t' w' stage' here' same' => ?_,
    fun front outcome back split => recorded.asked split, fun released => ?_,
    fun t' w' stage' id here' changed => (changed.own here').1⟩
  · exact unit_unique distinct here' here (same'.trans same.symm)
  · obtain ⟨panicked, rfl⟩ := work_done here released
    exact same ▸ settled.fate recorded here

theorem unit_leaves_record_sample : (Sample.run true).store.Unique ∧
    ∃ record, (Sample.run true).tasks[0]? =
        some (.submit Sample.submission (.done (.returned (.ok record)))) ∧
      ∃ t, ∃! fate : Fate, (Sample.run true).deedsOf t = fate.deeds ⟨[]⟩ ∧
        fate.Leaves ⟨[]⟩ (Sample.start true) (Sample.run true) t record.id := by
  have unique : (Sample.run true).store.Unique := by decide
  have released : ∀ t r, ¬ (Sample.run true).Holds t r := fun t r holds =>
    absurd (mem_live.2 ⟨t, holds⟩) (List.not_mem_nil (a := r))
  obtain ⟨-, t, w, stage, -, -, -, -, fate, -⟩ :=
    unit_leaves_record (Sample.reachable_run true) unique (i := 0) rfl
  exact ⟨unique, _, rfl, t, fate (released t w.resource)⟩

end Predictor.Engine
