import Predictor.Proofs.Engine.Remainder
import Predictor.Proofs.Store.Alike

/-!
Two states of the engine over the store in memory that differ at most in what the classifier answers
for one resource and in what has come of it (`Alike`): the same change made to both keeps them so, and
so do the polls of submissions and drains.
-/

namespace Predictor

/-- Whether an event is none of a unit of work for the resource. -/
def Telemetry.Event.isApart (resource : String) (event : Telemetry.Event) : Bool :=
  event.span.all fun span => span.resource != resource

/-- Whether a measurement is about admissions; the others are made by units of work. -/
def Telemetry.Measurement.ofAdmission : Telemetry.Measurement → Bool
  | .submitted _ | .inFlight _ => true
  | .finalized _ | .finalizeFailure | .classified _ => false

namespace Engine

open Telemetry

/-! ## What does not show -/

/-- A task as far as it shows: a record that it has returned without its times, and the end of a unit
of work for the resource without how it came about. -/
def Task.veiled (resource : String) : Task → Task
  | .submit submission (.done (.returned (.ok record))) =>
    .submit submission (.done (.returned (.ok record.untimed)))
  | .work w (.done panicked) =>
    .work w (.done (if w.resource = resource then false else panicked))
  | task => task

/-- The classifier answers alike for all resources but one. -/
structure Surroundings.Alike (resource : String) (w w' : Surroundings) : Prop where
  gates : w.gates = w'.gates
  createMode : w.createMode = w'.createMode
  finalizeMode : w.finalizeMode = w'.finalizeMode
  createPermits : w.createPermits = w'.createPermits
  finalizePermits : w.finalizePermits = w'.finalizePermits
  createPassage : w.createPassage = w'.createPassage
  finalizePassage : w.finalizePassage = w'.finalizePassage
  answers : ∀ other, other ≠ resource → w.behaviourOf other = w'.behaviourOf other

/-- The states differ at most in what has come of the answers for the resource; only deeds of these
tasks differ. -/
structure State.Alike (resource : String) (mine : TaskId → Bool) (s s' : State MemoryStore) :
    Prop where
  admission : s.admission = s'.admission
  table : s.table = s'.table
  store : s.store.Alike resource s'.store
  surroundings : s.surroundings.Alike resource s'.surroundings
  tasks : s.tasks.map (Task.veiled resource) = s'.tasks.map (Task.veiled resource)
  ready : s.ready = s'.ready
  drains : s.drains = s'.drains
  freshIds : s.freshIds = s'.freshIds
  freshUsed : s.freshUsed = s'.freshUsed
  entrants : s.entrants = s'.entrants
  created : s.created = s'.created
  calls : s.calls = s'.calls
  deeds : s.deeds.filter (fun entry => !mine entry.1) =
    s'.deeds.filter fun entry => !mine entry.1
  finished : s.finished = s'.finished
  events : s.events.filter (Event.isApart resource) = s'.events.filter (Event.isApart resource)
  measured : s.measured.filter Measurement.ofAdmission =
    s'.measured.filter Measurement.ofAdmission

/-- There is nothing to come for a task. -/
def State.OverAt {σ : Type} (s : State σ) (t : TaskId) : Prop :=
  ∀ task, s.tasks[t]? = some task → task.isOver = true

section OverAt

variable {σ : Type} [PredictionStore σ] {s : State σ} {t : TaskId}

theorem State.OverAt.poll (h : s.OverAt t) : s.poll t = s := by
  cases here : s.tasks[t]? with
  | none => rw [State.poll, here]
  | some task => exact poll_asleep here (Task.asleep_of_isOver (h task here))

omit [PredictionStore σ] in
theorem State.OverAt.cancel (h : s.OverAt t) : s.cancel t = s := by
  unfold State.cancel
  split
  · rename_i here
    exact nomatch h _ here
  · rename_i here
    exact nomatch h _ here
  · rfl

end OverAt

section Veiled

variable {resource : String} {task : Task}

theorem Task.isOver_veiled (resource : String) (task : Task) :
    (task.veiled resource).isOver = task.isOver := by
  unfold veiled
  split <;> rfl

theorem Task.veiled_of_open (h : task.isOver = false) : task.veiled resource = task := by
  unfold veiled
  split <;> first | rfl | cases h

theorem Task.grant_veiled (resource : String) (task : Task) :
    (task.veiled resource).grant = task.grant.veiled resource := by
  rcases task with ⟨_, _ | _ | (_ | _) | _ | _⟩ | ⟨_, _ | _ | _ | _⟩ | _ <;> rfl

theorem map_modify_grant (resource : String) (tasks : List Task) (t : TaskId) :
    (tasks.modify t Task.grant).map (Task.veiled resource) =
      (tasks.map (Task.veiled resource)).modify t Task.grant := by
  refine List.ext_getElem? fun i => ?_
  rw [List.getElem?_map, List.getElem?_modify, List.getElem?_modify, List.getElem?_map]
  cases tasks[i]? with
  | none => rfl
  | some task =>
    simp only [Option.map_some, Option.map_eq_map]
    split
    · rw [Task.grant_veiled]
    · rfl

theorem Task.unit?_veiled (resource : String) (task : Task) :
    (task.veiled resource).unit? = task.unit? := by
  unfold veiled
  split <;> rfl

theorem isApart_span {w : Work} (own : w.resource = resource) (happening : Happening)
    (status : Option Status) :
    Event.isApart resource ⟨happening, some (w.span status)⟩ = false := by
  simp [Event.isApart, Work.span, own]

end Veiled

namespace Surroundings.Alike

variable {resource : String} {w w' w'' : Surroundings}

theorem refl (resource : String) (w : Surroundings) : w.Alike resource w :=
  ⟨rfl, rfl, rfl, rfl, rfl, rfl, rfl, fun _ _ => rfl⟩

theorem symm (h : w.Alike resource w') : w'.Alike resource w :=
  ⟨h.gates.symm, h.createMode.symm, h.finalizeMode.symm, h.createPermits.symm,
    h.finalizePermits.symm, h.createPassage.symm, h.finalizePassage.symm,
    fun other ne => (h.answers other ne).symm⟩

theorem trans (h : w.Alike resource w') (h' : w'.Alike resource w'') : w.Alike resource w'' :=
  ⟨h.gates.trans h'.gates, h.createMode.trans h'.createMode, h.finalizeMode.trans h'.finalizeMode,
    h.createPermits.trans h'.createPermits, h.finalizePermits.trans h'.finalizePermits,
    h.createPassage.trans h'.createPassage, h.finalizePassage.trans h'.finalizePassage,
    fun other ne => (h.answers other ne).trans (h'.answers other ne)⟩

end Surroundings.Alike

namespace State.Alike

variable {resource : String} {mine : TaskId → Bool} {s s' s'' : State MemoryStore}

theorem refl (resource : String) (mine : TaskId → Bool) (s : State MemoryStore) :
    s.Alike resource mine s :=
  ⟨rfl, rfl, .refl resource s.store, .refl resource s.surroundings, rfl, rfl, rfl, rfl, rfl, rfl,
    rfl, rfl, rfl, rfl, rfl, rfl⟩

theorem symm (h : s.Alike resource mine s') : s'.Alike resource mine s :=
  ⟨h.admission.symm, h.table.symm, h.store.symm, h.surroundings.symm, h.tasks.symm, h.ready.symm,
    h.drains.symm, h.freshIds.symm, h.freshUsed.symm, h.entrants.symm, h.created.symm, h.calls.symm,
    h.deeds.symm, h.finished.symm, h.events.symm, h.measured.symm⟩

theorem trans (h : s.Alike resource mine s') (h' : s'.Alike resource mine s'') :
    s.Alike resource mine s'' :=
  ⟨h.admission.trans h'.admission, h.table.trans h'.table, h.store.trans h'.store,
    h.surroundings.trans h'.surroundings, h.tasks.trans h'.tasks, h.ready.trans h'.ready,
    h.drains.trans h'.drains, h.freshIds.trans h'.freshIds, h.freshUsed.trans h'.freshUsed,
    h.entrants.trans h'.entrants, h.created.trans h'.created, h.calls.trans h'.calls,
    h.deeds.trans h'.deeds, h.finished.trans h'.finished, h.events.trans h'.events, h.measured.trans h'.measured⟩

theorem length_eq (h : s.Alike resource mine s') : s.tasks.length = s'.tasks.length := by
  have same := congrArg List.length h.tasks
  rwa [List.length_map, List.length_map] at same

/-- A task that has not ended is the same in both states. -/
theorem here (h : s.Alike resource mine s') {t : TaskId} {task : Task}
    (here : s.tasks[t]? = some task) (running : task.isOver = false) :
    s'.tasks[t]? = some task := by
  have same := congrArg (·[t]?) h.tasks
  simp only [List.getElem?_map, here, Option.map_some] at same
  obtain ⟨task', here', same⟩ := Option.map_eq_some_iff.1 same.symm
  have running' : task'.isOver = false := by
    rw [← Task.isOver_veiled resource, same, Task.isOver_veiled, running]
  rw [Task.veiled_of_open running, Task.veiled_of_open running'] at same
  rw [here', same]

/-- A task is the same in both states, or there is nothing to come for it in either. -/
theorem cases_task (h : s.Alike resource mine s') (t : TaskId) :
    (s.OverAt t ∧ s'.OverAt t) ∨
      ∃ task, s.tasks[t]? = some task ∧ s'.tasks[t]? = some task := by
  by_cases running : ∃ task, s.tasks[t]? = some task ∧ task.isOver = false
  · obtain ⟨task, here, running⟩ := running
    exact .inr ⟨task, here, h.here here running⟩
  · refine .inl ⟨fun task here => ?_, fun task here => ?_⟩
    · exact Bool.eq_true_of_not_eq_false fun runs => running ⟨task, here, runs⟩
    · refine Bool.eq_true_of_not_eq_false fun runs => running ⟨task, ?_, runs⟩
      exact h.symm.here here runs

/-! ## The same change in both states -/

variable {t : TaskId}

theorem emit (h : s.Alike resource mine s') (happening : Happening) (span : Option Span) :
    (s.emit happening span).Alike resource mine (s'.emit happening span) :=
  { h with
    events := by simp only [State.emit, List.filter_append, h.events] }

theorem measure (h : s.Alike resource mine s') (m : Measurement) :
    (s.measure m).Alike resource mine (s'.measure m) :=
  { h with
    measured := by simp only [State.measure, List.filter_append, h.measured] }

theorem note (h : s.Alike resource mine s') (t : TaskId) (deed : Deed) :
    (s.note t deed).Alike resource mine (s'.note t deed) :=
  { h with
    deeds := by simp only [State.note, List.filter_append, h.deeds] }

/-- A task comes to a stage in both states, or to stages that look the same. -/
theorem setTask (h : s.Alike resource mine s') {task task' : Task}
    (same : task.veiled resource = task'.veiled resource) (t : TaskId) :
    (s.setTask t task).Alike resource mine (s'.setTask t task') :=
  { h with
    tasks := by simp only [State.setTask, List.map_set, h.tasks, same] }

theorem spawn (h : s.Alike resource mine s') (task : Task) :
    (s.spawn task).Alike resource mine (s'.spawn task) :=
  { h with
    tasks := by simp only [State.spawn, List.map_append, h.tasks]
    ready := by simp only [State.spawn, h.ready, h.length_eq] }

theorem grants (h : s.Alike resource mine s') (through : List TaskId) :
    (through.foldl State.grant s).Alike resource mine (through.foldl State.grant s') := by
  induction through generalizing s s' with
  | nil => exact h
  | cons t rest ih =>
    exact ih { h with
      tasks := by simp only [State.grant, map_modify_grant, h.tasks]
      ready := by simp only [State.grant, h.ready] }

theorem grantNext (h : s.Alike resource mine s') (next : Option TaskId) :
    (s.grantNext next).Alike resource mine (s'.grantNext next) := by
  rw [grantNext_eq, grantNext_eq]
  exact h.grants next.toList

theorem wakeDrains (h : s.Alike resource mine s') :
    s.wakeDrains.Alike resource mine s'.wakeDrains :=
  { h with
    ready := by simp only [State.wakeDrains, h.ready, h.drains]
    drains := rfl }

theorem release (h : s.Alike resource mine s') (name : String) (span : Option Span) :
    (s.release name span).Alike resource mine (s'.release name span) := by
  have released : State.Alike resource mine { s with admission := s.admission.release name }
      { s' with admission := s'.admission.release name } :=
    { h with
      admission := by rw [h.admission] }
  exact ((released.measure _).wakeDrains).emit _ _

theorem endSubmit (h : s.Alike resource mine s') (submission : Submission)
    {ending ending' : SubmitEnding}
    (same : (Task.submit submission (.done ending)).veiled resource =
      (Task.submit submission (.done ending')).veiled resource) (t : TaskId) :
    (s.endSubmit t submission ending).Alike resource mine (s'.endSubmit t submission ending') :=
  { h.setTask same t with
    finished := by simp only [State.endSubmit, h.finished] }

theorem withGates (h : s.Alike resource mine s') (gates : Gates) :
    (s.withGates gates).Alike resource mine (s'.withGates gates) :=
  { h with
    surroundings := { h.surroundings with gates := rfl } }

theorem withCreatePermits (h : s.Alike resource mine s') (permits : Permits) :
    (s.withCreatePermits permits).Alike resource mine (s'.withCreatePermits permits) :=
  { h with
    surroundings := { h.surroundings with createPermits := rfl } }

theorem withFinalizePermits (h : s.Alike resource mine s') (permits : Permits) :
    (s.withFinalizePermits permits).Alike resource mine (s'.withFinalizePermits permits) :=
  { h with
    surroundings := { h.surroundings with finalizePermits := rfl } }

/-! ## Submissions -/

theorem reject (h : s.Alike resource mine s') (t : TaskId) (submission : Submission)
    (result : SubmissionResult) (error : Error) :
    (s.reject t submission result error).Alike resource mine
      (s'.reject t submission result error) :=
  (h.measure _).endSubmit submission rfl t

theorem rollBack (h : s.Alike resource mine s') (t : TaskId) (submission : Submission)
    (error : Error) :
    (s.rollBack t submission error).Alike resource mine (s'.rollBack t submission error) :=
  (((h.release _ _).measure _).emit _ _).endSubmit submission rfl t

theorem launch (h : s.Alike resource mine s') (t : TaskId) (submission : Submission)
    {record record' : Prediction} (same : record.untimed = record'.untimed) :
    (s.launch t submission record).Alike resource mine (s'.launch t submission record') := by
  have id : record.id = record'.id := Prediction.id_of_untimed same
  have returned : (Task.submit submission (.done (.returned (.ok record)))).veiled resource =
      (Task.submit submission (.done (.returned (.ok record')))).veiled resource :=
    congrArg (fun record => Task.submit submission (.done (.returned (.ok record)))) same
  unfold State.launch
  rw [id, h.freshIds, h.freshUsed]
  refine ((State.Alike.spawn (State.Alike.endSubmit ?_ submission returned t) _).measure _).emit _ _
  exact { h with
    freshIds := rfl
    freshUsed := rfl
    created := congrArg (· ++ [record'.id]) h.created }

theorem create (h : s.Alike resource mine s') (t : TaskId) (submission : Submission) :
    (s.create t submission).Alike resource mine (s'.create t submission) := by
  have created : State.Alike resource mine
      { s with store := (s.store.create submission.owner submission.resource).2 }
      { s' with store := (s'.store.create submission.owner submission.resource).2 } :=
    { h with
      store := h.store.create _ _ }
  exact created.launch t submission (h.store.untimed_create _ _)

theorem endCreate (h : s.Alike resource mine s') (t : TaskId) (submission : Submission)
    (passage : Passage) :
    (s.endCreate t submission passage).Alike resource mine (s'.endCreate t submission passage) := by
  cases passage with
  | proceeds => exact h.create t submission
  | fails => exact h.rollBack t submission _
  | panics => exact (h.release _ _).endSubmit submission rfl t

theorem callCreate (h : s.Alike resource mine s') (t : TaskId) (submission : Submission) :
    (s.callCreate t submission).Alike resource mine (s'.callCreate t submission) := by
  unfold State.callCreate
  rw [h.surroundings.createMode]
  split
  · exact h.endCreate t submission _
  · exact h.endCreate t submission _
  · exact h.endCreate t submission _
  · dsimp only
    rw [h.surroundings.createPermits]
    have permitted := h.withCreatePermits (s'.surroundings.createPermits.acquire t).2
    rw [permitted.surroundings.createPassage]
    split
    · exact permitted.endCreate t submission _
    · exact (h.withCreatePermits _).setTask rfl t

theorem occupy (h : s.Alike resource mine s') (t : TaskId) (submission : Submission)
    (admission : Admission) :
    (s.occupy t submission admission).Alike resource mine (s'.occupy t submission admission) := by
  have entered : State.Alike resource mine { s with admission, entrants := s.entrants ++ [t] }
      { s' with admission, entrants := s'.entrants ++ [t] } :=
    { h with
      admission := rfl
      entrants := by rw [h.entrants] }
  exact (entered.measure _).setTask rfl t

theorem requestAdmission (h : s.Alike resource mine s') (t : TaskId) (submission : Submission) :
    (s.requestAdmission t submission).Alike resource mine (s'.requestAdmission t submission) := by
  have reserved (admission : Admission) :
      State.Alike resource mine { s with admission } { s' with admission } :=
    { h with
      admission := rfl }
  unfold State.requestAdmission
  rw [h.admission]
  split
  · exact h.reject t submission _ _
  · split
    · exact h.reject t submission _ _
    · dsimp only
      split
      · exact (reserved _).wakeDrains.reject t submission _ _
      · exact (h.occupy t submission _).callCreate t submission

/-! ## Drains -/

theorem checkIdle (h : s.Alike resource mine s') (t : TaskId) :
    (s.checkIdle t).Alike resource mine (s'.checkIdle t) := by
  unfold State.checkIdle
  rw [h.admission]
  split
  · exact { h.setTask rfl t with
      finished := congrArg (· ++ [t]) h.finished }
  · exact { h.setTask rfl t with
      drains := congrArg (· ++ [t]) h.drains }

end State.Alike

end Engine

end Predictor
