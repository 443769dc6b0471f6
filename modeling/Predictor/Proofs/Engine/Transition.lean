import Mathlib.Logic.Relation
import Predictor.Engine.Stimulus

/-!
What one step of the engine can do. A poll is a chain of moves after which the task runs on
(`Advance`), closed by one that suspends or ends it (`Halt`); what comes from outside is one of the
moves of `Outside`. `polled_poll` and `outside_apply` say that these are all, so an invariant that
each of them keeps holds in every reachable state (`Reachable.invariant`).
-/

namespace Predictor.Engine

open Telemetry

variable {σ : Type}

/-- Whether a poll does anything for the task. -/
def Task.awake : Task → Bool
  | .submit _ .new | .submit _ (.creating true) => true
  | .work _ .new | .work _ (.classifying true) | .work _ (.finalizing _ true) => true
  | .drain .new | .drain .waiting => true
  | _ => false

/-! ## The list of tasks -/

section Tasks

variable {before after : List Task} {t i : Nat} {old new task : Task}

theorem getElem?_of_set_self (h : after = before.set t new) (here : before[t]? = some old) :
    after[t]? = some new := by
  rw [h, List.getElem?_set_self (List.getElem?_eq_some_iff.1 here).1]

theorem getElem?_of_set_ne (h : after = before.set t new) (hi : i ≠ t) :
    after[i]? = before[i]? := by
  rw [h, List.getElem?_set_ne (Ne.symm hi)]

/-- When one task has changed, a task is that one or an old one. -/
theorem cases_of_set (h : after = before.set t new) (hi : after[i]? = some task) :
    i = t ∧ task = new ∨ i ≠ t ∧ before[i]? = some task := by
  by_cases hit : i = t
  · subst hit
    rw [h, List.getElem?_set, if_pos rfl] at hi
    split at hi
    · exact .inl ⟨rfl, (Option.some.inj hi).symm⟩
    · simp at hi
  · exact .inr ⟨hit, (getElem?_of_set_ne h hit).symm.trans hi⟩

theorem getElem?_of_append (h : after = before ++ [new]) (hi : before[i]? = some task) :
    after[i]? = some task := by
  rw [h, List.getElem?_append_left (List.getElem?_eq_some_iff.1 hi).1, hi]

theorem getElem?_of_append_length (h : after = before ++ [new]) :
    after[before.length]? = some new := by
  rw [h, List.getElem?_concat_length]

/-- When a task has been added, a task is that one or an old one. -/
theorem cases_of_append (h : after = before ++ [new]) (hi : after[i]? = some task) :
    i = before.length ∧ task = new ∨ before[i]? = some task := by
  rw [h, List.getElem?_append] at hi
  split at hi
  · exact .inr hi
  · have hlast : i - before.length < 1 := (List.getElem?_eq_some_iff.1 hi).1
    have hlength : i = before.length := by omega
    exact .inl ⟨hlength, List.mem_singleton.1 (List.mem_of_getElem? hi)⟩

theorem getElem?_launch_length {added : Task} (h : after = before.set t new ++ [added]) :
    after[before.length]? = some added := by
  have hlast := getElem?_of_append_length h
  rwa [List.length_set] at hlast

theorem getElem?_launch_ne {added : Task} (h : after = before.set t new ++ [added])
    (hi : i ≠ before.length) : after[i]? = (before.set t new)[i]? := by
  rw [h, List.getElem?_append]
  split
  · rfl
  · rename_i hlt
    have hle := Nat.le_of_not_lt hlt
    rw [List.getElem?_eq_none_iff.2 hle, List.getElem?_eq_none_iff, List.length_singleton]
    rw [List.length_set] at hle ⊢
    omega

/-- When one task has changed and one has been added, the others are as they were. -/
theorem getElem?_launch_other {added : Task} (h : after = before.set t new ++ [added])
    (hit : i ≠ t) (hi : i ≠ before.length) : after[i]? = before[i]? := by
  rw [getElem?_launch_ne h hi, getElem?_of_set_ne rfl hit]

/-- A task that is set to what it is has not changed. -/
theorem set_same (here : before[t]? = some task) : before.set t task = before := by
  obtain ⟨ht, rfl⟩ := List.getElem?_eq_some_iff.1 here
  exact List.set_getElem_self ht

end Tasks

/-- A permit passed on leaves a task that has one where it is. -/
theorem passCreate_keeps_granted {s : State σ} {t : TaskId} {submission : Submission}
    (here : s.tasks[t]? = some (.submit submission (.creating true))) :
    s.passCreate.tasks[t]? = some (.submit submission (.creating true)) := by
  unfold State.passCreate
  dsimp only
  cases s.surroundings.createPermits.add.1 with
  | none => exact here
  | some other =>
    simp only [State.grantNext, State.grant, State.withCreatePermits, List.getElem?_modify, here]
    split <;> rfl

/-- All that changes when the classifier has failed. -/
theorem unanswered_eq (s : State σ) (t : TaskId) (w : Work) (error : ClassifyError) :
    s.unanswered t w error = { s with
      tasks := s.tasks.set t (.work w (.finalizing (.failed error.message) true))
      deeds := s.deeds ++ [(t, .heard (.fails error)), (t, .asked (.failed error.message))]
      measured := s.measured ++ [.classified (some error.kind)]
      events := s.events ++ [⟨.classificationFailed error, some (w.span none)⟩] } := by
  simp only [State.unanswered, State.ask, State.note, State.measure, State.emit, State.setTask,
    List.append_assoc, List.cons_append, List.nil_append]

variable [PredictionStore σ]

/-- A move after which task `t` runs on in the same poll. -/
inductive Advance (t : TaskId) : State σ → State σ → Prop
  | occupy {s : State σ} {submission : Submission} {admission : Admission}
      (here : s.tasks[t]? = some (.submit submission .new))
      (named : submission.resource.isEmpty = false) (free : s.admission.atCapacity = false)
      (claims : s.admission.reserve.claim? submission.resource = some admission) :
      Advance t s (s.occupy t submission admission)
  | createPermit {s : State σ} {submission : Submission} {permits : Permits}
      (here : s.tasks[t]? = some (.submit submission (.creating true)))
      (taken : s.surroundings.createPermits.acquire t = (true, permits)) :
      Advance t s (s.withCreatePermits permits)
  | call {s : State σ} {w : Work} {gates : Gates}
      (here : s.tasks[t]? = some (.work w .new))
      (through : s.surroundings.gates.enter w.resource t = (true, gates)) :
      Advance t s (s.called t w true gates)
  | answered {s : State σ} {w : Work} {raw : RawResult}
      (here : s.tasks[t]? = some (.work w (.classifying true)))
      (answer : s.surroundings.behaviourOf w.resource = .answers raw) :
      Advance t s (s.answered t w raw)
  | unanswered {s : State σ} {w : Work} {error : ClassifyError}
      (here : s.tasks[t]? = some (.work w (.classifying true)))
      (answer : s.surroundings.behaviourOf w.resource = .fails error) :
      Advance t s (s.unanswered t w error)
  | finalizePermit {s : State σ} {w : Work} {outcome : Outcome} {permits : Permits}
      (here : s.tasks[t]? = some (.work w (.finalizing outcome true)))
      (taken : s.surroundings.finalizePermits.acquire t = (true, permits)) :
      Advance t s (s.withFinalizePermits permits)

/-- What may come of a creation call now: what its mode says, or what comes of calls that were held
back. -/
def State.CreateComes (s : State σ) (passage : Passage) : Prop :=
  s.surroundings.createMode = passage.mode ∨ s.surroundings.createPassage = passage

def State.FinalizeComes (s : State σ) (passage : Passage) : Prop :=
  s.surroundings.finalizeMode = passage.mode ∨ s.surroundings.finalizePassage = passage

/-- A creation call that returned an error: the store never took it, or refused it itself. -/
def CreateRefused (s : State σ) (submission : Submission) (error : Error) (store : σ) : Prop :=
  (s.CreateComes .fails ∧ error = State.createUnavailable ∧ store = s.store) ∨
    PredictionStore.create s.store submission.owner submission.resource = (.error error, store)

/-- A finalization call that returned an error. -/
def FinalizeRefused (s : State σ) (w : Work) (outcome : Outcome) (error : Error) (store : σ) :
    Prop :=
  (s.FinalizeComes .fails ∧ error = State.finalizeUnavailable ∧ store = s.store) ∨
    PredictionStore.finalize s.store w.id outcome = (.error error, store)

/-- A move that ends the poll of task `t`. -/
inductive Halt (t : TaskId) : State σ → State σ → Prop
  | asleep {s : State σ} (still : ∀ task, s.tasks[t]? = some task → task.awake = false) : Halt t s s
  | unnamed {s : State σ} {submission : Submission}
      (here : s.tasks[t]? = some (.submit submission .new))
      (unnamed : submission.resource.isEmpty = true) :
      Halt t s (s.reject t submission .invalid (.invalidResource "resource must not be empty"))
  | full {s : State σ} {submission : Submission}
      (here : s.tasks[t]? = some (.submit submission .new))
      (named : submission.resource.isEmpty = false) (full : s.admission.atCapacity = true) :
      Halt t s (s.reject t submission .capacityExceeded
        (.capacityExceeded s.admission.capacity.toNat))
  | duplicate {s : State σ} {submission : Submission}
      (here : s.tasks[t]? = some (.submit submission .new))
      (named : submission.resource.isEmpty = false) (free : s.admission.atCapacity = false)
      (claimed : s.admission.reserve.claim? submission.resource = none) :
      Halt t s (({ s with admission := s.admission.reserve.unreserve }.wakeDrains).reject t
        submission .duplicate (.duplicateInProgress submission.resource))
  | launched {s : State σ} {submission : Submission} {record : Prediction} {store : σ}
      (here : s.tasks[t]? = some (.submit submission (.creating true)))
      (created : PredictionStore.create s.store submission.owner submission.resource =
        (.ok record, store)) :
      Halt t s ({ s with store }.launch t submission record)
  | rolledBack {s : State σ} {submission : Submission} {error : Error} {store : σ}
      (here : s.tasks[t]? = some (.submit submission (.creating true)))
      (refused : CreateRefused s submission error store) :
      Halt t s ({ s with store }.rollBack t submission error)
  | createPanicked {s : State σ} {submission : Submission}
      (here : s.tasks[t]? = some (.submit submission (.creating true)))
      (comes : s.CreateComes .panics) :
      Halt t s ((s.release submission.resource none).endSubmit t submission .panicked)
  | createHeld {s : State σ} {submission : Submission} {permits : Permits}
      (here : s.tasks[t]? = some (.submit submission (.creating true)))
      (held : s.surroundings.createPermits.acquire t = (false, permits)) :
      Halt t s ((s.withCreatePermits permits).setTask t (.submit submission (.creating false)))
  | gateHeld {s : State σ} {w : Work} {gates : Gates}
      (here : s.tasks[t]? = some (.work w .new))
      (held : s.surroundings.gates.enter w.resource t = (false, gates)) :
      Halt t s (s.called t w false gates)
  | classifyPanicked {s : State σ} {w : Work}
      (here : s.tasks[t]? = some (.work w (.classifying true)))
      (answer : s.surroundings.behaviourOf w.resource = .panics) :
      Halt t s ((s.note t (.heard .panics)).endWork t w none true)
  | finalizePanicked {s : State σ} {w : Work} {outcome : Outcome}
      (here : s.tasks[t]? = some (.work w (.finalizing outcome true)))
      (comes : s.FinalizeComes .panics) :
      Halt t s ((s.note t .broken).endWork t w none true)
  | written {s : State σ} {w : Work} {outcome : Outcome} {store : σ}
      (here : s.tasks[t]? = some (.work w (.finalizing outcome true)))
      (stored : PredictionStore.finalize s.store w.id outcome = (.ok (), store)) :
      Halt t s ({ s with store }.finalized t w outcome.status (.ok ()))
  | unwritten {s : State σ} {w : Work} {outcome : Outcome} {error : Error} {store : σ}
      (here : s.tasks[t]? = some (.work w (.finalizing outcome true)))
      (refused : FinalizeRefused s w outcome error store) :
      Halt t s ({ s with store }.finalized t w outcome.status (.error error))
  | finalizeHeld {s : State σ} {w : Work} {outcome : Outcome} {permits : Permits}
      (here : s.tasks[t]? = some (.work w (.finalizing outcome true)))
      (held : s.surroundings.finalizePermits.acquire t = (false, permits)) :
      Halt t s ((s.withFinalizePermits permits).setTask t (.work w (.finalizing outcome false)))
  | checked {s : State σ} {stage : DrainStage} (here : s.tasks[t]? = some (.drain stage))
      (running : stage ≠ .done) : Halt t s (s.checkIdle t)

/-- A poll of task `t`. -/
inductive Polled (t : TaskId) : State σ → State σ → Prop
  | halt {s s' : State σ} : Halt t s s' → Polled t s s'
  | advance {s r s' : State σ} : Advance t s r → Polled t r s' → Polled t s s'

/-- A move from outside the engine. -/
inductive Outside : State σ → State σ → Prop
  | submit {s : State σ} (submission : Submission) : Outside s (s.beginSubmit submission)
  | drain {s : State σ} : Outside s (s.spawn (.drain .new))
  | cancelNew {s : State σ} {t : TaskId} {submission : Submission}
      (here : s.tasks[t]? = some (.submit submission .new)) :
      Outside s (s.endSubmit t submission .cancelled)
  | cancelWaiting {s : State σ} {t : TaskId} {submission : Submission}
      (here : s.tasks[t]? = some (.submit submission (.creating false))) :
      Outside s (((s.withCreatePermits (s.surroundings.createPermits.leave t)).release
        submission.resource none).endSubmit t submission .cancelled)
  | cancelGranted {s : State σ} {t : TaskId} {submission : Submission}
      (here : s.tasks[t]? = some (.submit submission (.creating true))) :
      Outside s ((s.release submission.resource none).endSubmit t submission .cancelled)
  | passCreate {s : State σ} : Outside s s.passCreate
  | passFinalize {s : State σ} : Outside s s.passFinalize
  | passGate {s : State σ} {resource : String} {t : Option TaskId} {gates : Gates}
      (pass : s.surroundings.gates.admitOne resource = (t, gates)) :
      Outside s ((s.withGates gates).grantNext t)
  | openGates {s : State σ} {through : List TaskId} {gates : Gates}
      (pass : s.surroundings.gates.openAll = (through, gates)) :
      Outside s (through.foldl State.grant (s.withGates gates))
  | behave {s : State σ} (resource : String) (behaviour : Behaviour) :
      Outside s { s with surroundings := { s.surroundings with
        behaviours := (resource, behaviour) :: s.surroundings.behaviours } }
  | setCreateMode {s : State σ} (mode : CallMode) :
      Outside s { s with surroundings := { s.surroundings with createMode := mode } }
  | setFinalizeMode {s : State σ} (mode : CallMode) :
      Outside s { s with surroundings := { s.surroundings with finalizeMode := mode } }
  | setCreatePassage {s : State σ} (passage : Passage) :
      Outside s { s with surroundings := { s.surroundings with createPassage := passage } }
  | setFinalizePassage {s : State σ} (passage : Passage) :
      Outside s { s with surroundings := { s.surroundings with finalizePassage := passage } }
  | createDirectly {s : State σ} (owner resource : String) :
      Outside s { s with store := (PredictionStore.create s.store owner resource).2 }
  | finalizeDirectly {s : State σ} (id : PredictionId) (outcome : Outcome) :
      Outside s { s with store := (PredictionStore.finalize s.store id outcome).2 }

/-- Any move at all; a poll begins by taking its task from the ready queue. -/
inductive Transition : State σ → State σ → Prop
  | take {s : State σ} {t : TaskId} {rest : List TaskId} (next : s.ready = t :: rest) :
      Transition s { s with ready := rest }
  | advance {s s' : State σ} {t : TaskId} : Advance t s s' → Transition s s'
  | halt {s s' : State σ} {t : TaskId} : Halt t s s' → Transition s s'
  | outside {s s' : State σ} : Outside s s' → Transition s s'

/-! ## Polls -/

theorem polled_create {s : State σ} {t : TaskId} {submission : Submission}
    (here : s.tasks[t]? = some (.submit submission (.creating true))) :
    Polled t s (s.create t submission) := by
  unfold State.create
  split
  · exact .halt (.launched here ‹_›)
  · exact .halt (.rolledBack here (.inr ‹_›))

theorem polled_endCreate {s : State σ} {t : TaskId} {submission : Submission} {passage : Passage}
    (here : s.tasks[t]? = some (.submit submission (.creating true))) (comes : s.CreateComes passage) :
    Polled t s (s.endCreate t submission passage) := by
  cases passage with
  | proceeds => exact polled_create here
  | fails => exact .halt (.rolledBack here (.inl ⟨comes, rfl, rfl⟩))
  | panics => exact .halt (.createPanicked here comes)

theorem polled_callCreate {s : State σ} {t : TaskId} {submission : Submission}
    (here : s.tasks[t]? = some (.submit submission (.creating true))) :
    Polled t s (s.callCreate t submission) := by
  unfold State.callCreate
  split
  · exact polled_endCreate here (.inl ‹_›)
  · exact polled_endCreate here (.inl ‹_›)
  · exact polled_endCreate here (.inl ‹_›)
  · dsimp only
    split
    · rename_i taken
      exact .advance (.createPermit here (Prod.ext taken rfl)) (polled_endCreate here (.inr rfl))
    · rename_i held
      exact .halt (.createHeld here (Prod.ext (Bool.eq_false_iff.2 held) rfl))

theorem polled_requestAdmission {s : State σ} {t : TaskId} {submission : Submission}
    (here : s.tasks[t]? = some (.submit submission .new)) :
    Polled t s (s.requestAdmission t submission) := by
  unfold State.requestAdmission
  split
  · exact .halt (.unnamed here ‹_›)
  · rename_i named
    split
    · exact .halt (.full here (Bool.eq_false_iff.2 named) ‹_›)
    · rename_i free
      dsimp only
      split
      · exact .halt (.duplicate here (Bool.eq_false_iff.2 named)
          (Bool.eq_false_iff.2 free) ‹_›)
      · refine .advance (.occupy here (Bool.eq_false_iff.2 named)
          (Bool.eq_false_iff.2 free) ‹_›) (polled_callCreate ?_)
        exact getElem?_of_set_self rfl here

theorem polled_finalize {s : State σ} {t : TaskId} {w : Work} {outcome : Outcome}
    (here : s.tasks[t]? = some (.work w (.finalizing outcome true))) :
    Polled t s (s.finalize t w outcome) := by
  unfold State.finalize
  dsimp only
  cases stored : (PredictionStore.finalize s.store w.id outcome).1 with
  | ok _ => exact .halt (.written here (Prod.ext stored rfl))
  | error error => exact .halt (.unwritten here (.inr (Prod.ext stored rfl)))

theorem polled_endFinalize {s : State σ} {t : TaskId} {w : Work} {outcome : Outcome}
    {passage : Passage} (here : s.tasks[t]? = some (.work w (.finalizing outcome true)))
    (comes : s.FinalizeComes passage) : Polled t s (s.endFinalize t w outcome passage) := by
  cases passage with
  | proceeds => exact polled_finalize here
  | fails => exact .halt (.unwritten here (.inl ⟨comes, rfl, rfl⟩))
  | panics => exact .halt (.finalizePanicked here comes)

theorem polled_callFinalize {s : State σ} {t : TaskId} {w : Work} {outcome : Outcome}
    (here : s.tasks[t]? = some (.work w (.finalizing outcome true))) :
    Polled t s (s.callFinalize t w outcome) := by
  unfold State.callFinalize
  split
  · exact polled_endFinalize here (.inl ‹_›)
  · exact polled_endFinalize here (.inl ‹_›)
  · exact polled_endFinalize here (.inl ‹_›)
  · dsimp only
    split
    · rename_i taken
      exact .advance (.finalizePermit here (Prod.ext taken rfl)) (polled_endFinalize here (.inr rfl))
    · rename_i held
      exact .halt (.finalizeHeld here (Prod.ext (Bool.eq_false_iff.2 held) rfl))

theorem polled_hear {s : State σ} {t : TaskId} {w : Work}
    (here : s.tasks[t]? = some (.work w (.classifying true))) : Polled t s (s.hear t w) := by
  unfold State.hear
  split
  · exact .advance (.answered here ‹_›) (polled_callFinalize (getElem?_of_set_self rfl here))
  · exact .advance (.unanswered here ‹_›) (polled_callFinalize (getElem?_of_set_self rfl here))
  · exact .halt (.classifyPanicked here ‹_›)

theorem polled_callClassify {s : State σ} {t : TaskId} {w : Work}
    (here : s.tasks[t]? = some (.work w .new)) : Polled t s (s.callClassify t w) := by
  unfold State.callClassify
  dsimp only
  split
  · rename_i through
    rw [through]
    exact .advance (.call here (Prod.ext through rfl)) (polled_hear (getElem?_of_set_self rfl here))
  · rename_i held
    rw [Bool.eq_false_iff.2 held]
    exact .halt (.gateHeld here (Prod.ext (Bool.eq_false_iff.2 held) rfl))

/-- Every poll is a chain of moves of its task. -/
theorem polled_poll (s : State σ) (t : TaskId) : Polled t s (s.poll t) := by
  unfold State.poll
  split
  · exact polled_requestAdmission ‹_›
  · exact polled_endCreate ‹_› (.inr rfl)
  · exact polled_callClassify ‹_›
  · exact polled_hear ‹_›
  · exact polled_endFinalize ‹_› (.inr rfl)
  · rename_i here
    exact .halt (.checked here nofun)
  · rename_i here
    exact .halt (.checked here nofun)
  · refine .halt (.asleep fun task here => ?_)
    unfold Task.awake
    split <;> simp_all

theorem Polled.transitions {t : TaskId} {s s' : State σ} (h : Polled t s s') :
    Relation.ReflTransGen Transition s s' := by
  induction h with
  | halt last => exact .single (.halt last)
  | advance first _ ih => exact .head (.advance first) ih

omit [PredictionStore σ] in
theorem Advance.other {t i : TaskId} {s s' : State σ} {task : Task} (h : Advance t s s')
    (hi : i ≠ t) (here : s.tasks[i]? = some task) : s'.tasks[i]? = some task := by
  cases h with
  | createPermit | finalizePermit => exact here
  | occupy | call | answered | unanswered => exact (getElem?_of_set_ne rfl hi).trans here

theorem Halt.other {t i : TaskId} {s s' : State σ} {task : Task} (h : Halt t s s')
    (hi : i ≠ t) (here : s.tasks[i]? = some task) : s'.tasks[i]? = some task := by
  cases h with
  | asleep => exact here
  | launched =>
    exact getElem?_of_append rfl ((getElem?_of_set_ne rfl hi).trans here)
  | checked =>
    unfold State.checkIdle
    split <;> exact (getElem?_of_set_ne rfl hi).trans here
  | unnamed | full | duplicate | rolledBack | createPanicked | createHeld | gateHeld
  | classifyPanicked | finalizePanicked | written | unwritten | finalizeHeld =>
    exact (getElem?_of_set_ne rfl hi).trans here

/-- A poll leaves all other tasks where they are. -/
theorem Polled.other {t i : TaskId} {s s' : State σ} {task : Task} (h : Polled t s s')
    (hi : i ≠ t) (here : s.tasks[i]? = some task) : s'.tasks[i]? = some task := by
  induction h with
  | halt last => exact last.other hi here
  | advance first _ ih => exact ih (first.other hi here)

/-! ## What comes from outside -/

theorem outside_cancel (s : State σ) (t : TaskId) :
    Relation.ReflTransGen Outside s (s.cancel t) := by
  unfold State.cancel
  split
  · exact .single (.cancelNew ‹_›)
  · rename_i submission granted here
    cases granted with
    | false => exact .single (.cancelWaiting here)
    | true => exact .head .passCreate (.single (.cancelGranted (passCreate_keeps_granted here)))
  · exact .refl

theorem outside_apply (s : State σ) (stimulus : Stimulus) :
    Relation.ReflTransGen Outside s (s.apply stimulus) := by
  cases stimulus with
  | submit submission => exact .single (.submit submission)
  | submitAll submissions =>
    simp only [State.apply]
    induction submissions generalizing s with
    | nil => exact .refl
    | cons submission rest ih => exact .head (.submit submission) (ih _)
  | cancel t => exact outside_cancel s t
  | drain => exact .single .drain
  | passGate resource => exact .single (.passGate rfl)
  | openGates => exact .single (.openGates rfl)
  | behave resource behaviour => exact .single (.behave resource behaviour)
  | setCreateMode mode => exact .single (.setCreateMode mode)
  | setFinalizeMode mode => exact .single (.setFinalizeMode mode)
  | setCreatePassage passage => exact .single (.setCreatePassage passage)
  | setFinalizePassage passage => exact .single (.setFinalizePassage passage)
  | passCreate => exact .single .passCreate
  | passFinalize => exact .single .passFinalize
  | createDirectly owner resource => exact .single (.createDirectly owner resource)
  | finalizeDirectly id outcome => exact .single (.finalizeDirectly id outcome)

/-! ## Runs -/

theorem Reachable.transitions {initial s : State σ} (h : Reachable initial s) :
    Relation.ReflTransGen Transition initial s := by
  induction h with
  | start => exact .refl
  | event stimulus _ ih =>
    exact ih.trans (Relation.ReflTransGen.mono (fun _ _ => .outside) _ _ (outside_apply _ stimulus))
  | poll _ hstep ih =>
    obtain ⟨t, rest, next, rfl⟩ := State.poll_of_step? hstep
    exact ih.trans (.head (.take next) (polled_poll _ t).transitions)

/-- What holds at the start and is kept by every move holds in every reachable state. -/
theorem Reachable.invariant {P : State σ → Prop} {initial s : State σ} (start : P initial)
    (kept : ∀ {r r' : State σ}, Transition r r' → P r → P r') (h : Reachable initial s) : P s := by
  have chain := h.transitions
  clear h
  induction chain with
  | refl => exact start
  | tail _ last ih => exact kept last ih

namespace State

/-- At most so many polls. -/
def polls (s : State σ) : Nat → State σ
  | 0 => s
  | n + 1 =>
    match s.step? with
    | none => s
    | some s' => s'.polls n

end State

theorem Reachable.polls {initial s : State σ} (h : Reachable initial s) (n : Nat) :
    Reachable initial (s.polls n) := by
  induction n generalizing s with
  | zero => exact h
  | succ n ih =>
    unfold State.polls
    split
    · exact h
    · exact ih (h.poll ‹_›)

end Predictor.Engine
