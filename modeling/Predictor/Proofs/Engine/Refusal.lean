import Predictor.Proofs.Engine.Alike
import Predictor.Proofs.Engine.Bookkeeping
import Predictor.Proofs.Engine.Drain
import Predictor.Store.Calls

/-!
What the first poll of a submission does. Either admission refuses it, and then nothing has changed
but that it is over and counted (`TurnedAway`); or it takes a slot and its resource and calls the
store for a record (`CreationCalled`). In the course of a run a submission makes one such call at most
(`Makes.callsBy`). Main statement: `first_poll_decides`.
-/

namespace Predictor

/-! ## A store that is overheard -/

/-- A store with the calls that have been made to it. -/
structure Overheard (σ : Type) where
  store : σ
  calls : List StoreCall

namespace Overheard

variable {σ : Type} [PredictionStore σ]

instance : PredictionStore (Overheard σ) where
  create o owner resource :=
    let (result, store) := PredictionStore.create o.store owner resource
    (result, ⟨store, o.calls ++ [.create owner resource]⟩)
  finalize o id outcome :=
    let (result, store) := PredictionStore.finalize o.store id outcome
    (result, ⟨store, o.calls ++ [.finalize id outcome]⟩)
  get o id :=
    let (result, store) := PredictionStore.get o.store id
    (result, ⟨store, o.calls ++ [.get id]⟩)

end Overheard

namespace Engine

open Telemetry

variable {σ : Type}

/-! ## Refusals -/

/-- Why admission refuses a resource, if it does. -/
def State.refusal? (s : State σ) (resource : String) : Option Error :=
  if resource = "" then some (.invalidResource "resource must not be empty")
  else if s.admission.capacity ≤ s.admission.inFlight then
    some (.capacityExceeded s.admission.capacity.toNat)
  else if resource ∈ s.admission.claimed then some (.duplicateInProgress resource)
  else none

/-- From `s` to `s'` the submission of task `t` has come to its end with an error, and nothing else has
changed but the count of such results; drains may have been woken. -/
structure TurnedAway (s s' : State σ) (t : TaskId) (submission : Submission) (error : Error) :
    Prop where
  tasks : s'.tasks = s.tasks.set t (.submit submission (.done (.returned (.error error))))
  finished : s'.finished = s.finished ++ [t]
  store : s'.store = s.store
  created : s'.created = s.created
  calls : s'.calls = s.calls
  deeds : s'.deeds = s.deeds
  events : s'.events = s.events
  surroundings : s'.surroundings = s.surroundings
  freshUsed : s'.freshUsed = s.freshUsed
  entrants : s'.entrants = s.entrants
  capacity : s'.admission.capacity = s.admission.capacity
  inFlight : s'.admission.inFlight = s.admission.inFlight
  claimed : s'.admission.claimed = s.admission.claimed
  measured : s'.measured = s.measured ++ [.submitted error.verdict]
  woken : s'.ready = s.ready ∧ s'.drains = s.drains ∨
    s'.ready = s.ready ++ s.drains ∧ s'.drains = []

theorem turnedAway_reject (s : State σ) (t : TaskId) (submission : Submission) (error : Error) :
    TurnedAway s (s.reject t submission error.verdict error) t submission error where
  tasks := rfl
  finished := rfl
  store := rfl
  created := rfl
  calls := rfl
  deeds := rfl
  events := rfl
  surroundings := rfl
  freshUsed := rfl
  entrants := rfl
  capacity := rfl
  inFlight := rfl
  claimed := rfl
  measured := rfl
  woken := .inl ⟨rfl, rfl⟩

/-- A slot that is reserved and given back at once has not been taken. -/
theorem turnedAway_takeBack (s : State σ) (t : TaskId) (submission : Submission) (resource : String) :
    TurnedAway s
      (({ s with admission := s.admission.reserve.unreserve }.wakeDrains).reject t submission .duplicate
        (.duplicateInProgress resource)) t submission (.duplicateInProgress resource) where
  tasks := rfl
  finished := rfl
  store := rfl
  created := rfl
  calls := rfl
  deeds := rfl
  events := rfl
  surroundings := rfl
  freshUsed := rfl
  entrants := rfl
  capacity := rfl
  inFlight := Admission.unreserve_reserve s.admission
  claimed := rfl
  measured := rfl
  woken := .inr ⟨rfl, rfl⟩

section TurnedAway

variable {s s' : State σ} {t : TaskId} {submission : Submission} {error : Error}

/-- The other tasks hold what they held, and the submission held nothing. -/
theorem TurnedAway.holds_iff (h : TurnedAway s s' t submission error)
    (here : s.tasks[t]? = some (.submit submission .new)) (i : TaskId) (resource : String) :
    s'.Holds i resource ↔ s.Holds i resource := by
  have same : (Task.submit submission (.done (.returned (.error error)))).held? =
      (Task.submit submission .new).held? := rfl
  exact holds_carry here same h.tasks i resource

theorem TurnedAway.turns_eq (h : TurnedAway s s' t submission error) (up : Bool) :
    s'.turns up = s.turns up := by
  rw [State.turns, h.measured, List.count_append]
  rfl

end TurnedAway

/-! ## The first poll -/

/-- The admission of a resource on top of the others. -/
def Admission.take (a : Admission) (resource : String) : Admission :=
  { a.reserve with claimed := a.claimed ++ [resource] }

/-- The submission of task `t` has been admitted, and its creation call comes next. -/
def State.entered (s : State σ) (t : TaskId) (submission : Submission) : State σ :=
  s.occupy t submission (s.admission.take submission.resource)

/-- A creation call that is made now is not held back, and this comes of it. -/
def State.ComesAtOnce (s : State σ) (passage : Passage) : Prop :=
  s.surroundings.createMode = passage.mode ∨
    s.surroundings.createMode = .hold ∧ 0 < s.surroundings.createPermits.free ∧
      s.surroundings.createPassage = passage

/-- A creation call that is made now is held back. -/
def State.HoldsBack (s : State σ) : Prop :=
  s.surroundings.createMode = .hold ∧ s.surroundings.createPermits.free = 0

theorem comes_or_holdsBack (s : State σ) : (∃ passage, s.ComesAtOnce passage) ∨ s.HoldsBack := by
  cases mode : s.surroundings.createMode with
  | ok => exact .inl ⟨.proceeds, .inl mode⟩
  | fail => exact .inl ⟨.fails, .inl mode⟩
  | panic => exact .inl ⟨.panics, .inl mode⟩
  | hold =>
    rcases Nat.eq_zero_or_pos s.surroundings.createPermits.free with none_free | permitted
    · exact .inr ⟨mode, none_free⟩
    · exact .inl ⟨_, .inr ⟨mode, permitted, rfl⟩⟩

section Polls

variable [PredictionStore σ] {s : State σ} {t : TaskId} {submission : Submission}

theorem claim?_of_not_mem {a : Admission} {resource : String} (h : resource ∉ a.claimed) :
    a.reserve.claim? resource = some (a.take resource) := by
  have unclaimed : a.reserve.isClaimed resource = false := by
    rw [← Bool.not_eq_true, Admission.isClaimed, List.contains_iff_mem]
    exact h
  rw [Admission.claim?, unclaimed]
  rfl

theorem claim?_of_mem {a : Admission} {resource : String} (h : resource ∈ a.claimed) :
    a.reserve.claim? resource = none := by
  have claimed : a.reserve.isClaimed resource = true := List.contains_iff_mem.2 h
  rw [Admission.claim?, claimed]
  rfl

theorem poll_new (here : s.tasks[t]? = some (.submit submission .new)) :
    s.poll t = s.requestAdmission t submission := by
  simp only [State.poll, here]

theorem poll_creating (here : s.tasks[t]? = some (.submit submission (.creating true))) :
    s.poll t = s.endCreate t submission s.surroundings.createPassage := by
  simp only [State.poll, here]

/-- A creation call that is not held back ends at once; it may have used a permit. -/
theorem callCreate_of_comes {passage : Passage} (comes : s.ComesAtOnce passage) (t : TaskId)
    (submission : Submission) :
    ∃ permits, s.callCreate t submission =
      (s.withCreatePermits permits).endCreate t submission passage := by
  rcases comes with mode | ⟨mode, permitted, later⟩
  · refine ⟨s.surroundings.createPermits, ?_⟩
    cases passage <;> simp only [State.callCreate, mode, Passage.mode] <;> rfl
  · refine ⟨{ s.surroundings.createPermits with free := s.surroundings.createPermits.free - 1 }, ?_⟩
    simp [State.callCreate, State.withCreatePermits, mode, later, Permits.acquire, permitted]

theorem callCreate_of_holdsBack (holds : s.HoldsBack) (t : TaskId) (submission : Submission) :
    s.callCreate t submission = (s.withCreatePermits { s.surroundings.createPermits with
      waiting := s.surroundings.createPermits.waiting ++ [t] }).setTask t
        (.submit submission (.creating false)) := by
  obtain ⟨mode, none_free⟩ := holds
  simp [State.callCreate, mode, Permits.acquire, none_free]

theorem requestAdmission_refused {error : Error} (h : s.refusal? submission.resource = some error) :
    TurnedAway s (s.requestAdmission t submission) t submission error := by
  unfold State.refusal? at h
  unfold State.requestAdmission
  by_cases unnamed : submission.resource = ""
  · rw [if_pos unnamed] at h
    obtain rfl := Option.some.inj h
    rw [if_pos (by simpa using unnamed)]
    exact turnedAway_reject s t submission _
  rw [if_neg unnamed] at h
  rw [if_neg (by simpa using unnamed)]
  by_cases full : s.admission.capacity ≤ s.admission.inFlight
  · rw [if_pos full] at h
    obtain rfl := Option.some.inj h
    have atCapacity : s.admission.atCapacity = true := decide_eq_true full
    rw [if_pos atCapacity]
    exact turnedAway_reject s t submission _
  rw [if_neg full] at h
  rw [if_neg (by simpa [Admission.atCapacity] using full)]
  by_cases claimed : submission.resource ∈ s.admission.claimed
  · rw [if_pos claimed] at h
    obtain rfl := Option.some.inj h
    simp only [claim?_of_mem claimed]
    exact turnedAway_takeBack s t submission _
  · rw [if_neg claimed] at h
    cases h

theorem requestAdmission_passed (h : s.refusal? submission.resource = none) :
    s.requestAdmission t submission = (s.entered t submission).callCreate t submission := by
  unfold State.refusal? at h
  unfold State.requestAdmission
  by_cases unnamed : submission.resource = ""
  · rw [if_pos unnamed] at h
    cases h
  rw [if_neg unnamed] at h
  rw [if_neg (by simpa using unnamed)]
  by_cases full : s.admission.capacity ≤ s.admission.inFlight
  · rw [if_pos full] at h
    cases h
  rw [if_neg full] at h
  rw [if_neg (by simpa [Admission.atCapacity] using full)]
  by_cases claimed : submission.resource ∈ s.admission.claimed
  · rw [if_pos claimed] at h
    cases h
  · simp only [claim?_of_not_mem claimed, State.entered]

/-- The first poll of a submission that passes admission goes on to its creation call. -/
theorem poll_entered (here : s.tasks[t]? = some (.submit submission .new))
    (passes : s.refusal? submission.resource = none) :
    s.poll t = (s.entered t submission).callCreate t submission :=
  (poll_new here).trans (requestAdmission_passed passes)

/-- What becomes of a creation call at once: the store takes it, or fails, or panics, or holds it back. -/
inductive CreationCalled (s s' : State (Overheard σ)) (t : TaskId) (submission : Submission) : Prop
  | taken (comes : s.ComesAtOnce .proceeds)
      (heard : s'.store.calls = s.store.calls ++ [.create submission.owner submission.resource])
      (ended : ∃ result, s'.tasks[t]? = some (.submit submission (.done (.returned result))) ∧
        (PredictionStore.create s.store.store submission.owner submission.resource).1 = result)
  | failed (comes : s.ComesAtOnce .fails) (unheard : s'.store = s.store)
      (ended : s'.tasks[t]? =
        some (.submit submission (.done (.returned (.error State.createUnavailable)))))
  | panicked (comes : s.ComesAtOnce .panics) (unheard : s'.store = s.store)
      (ended : s'.tasks[t]? = some (.submit submission (.done .panicked)))
  | held (holds : s.HoldsBack) (unheard : s'.store = s.store)
      (waits : s'.tasks[t]? = some (.submit submission (.creating false)))
      (line : s'.surroundings.createPermits.waiting = s.surroundings.createPermits.waiting ++ [t])

theorem create_refused {error : Error} {store : σ}
    (refused : PredictionStore.create s.store submission.owner submission.resource =
      (.error error, store)) : s.create t submission = { s with store }.rollBack t submission error := by
  simp only [State.create, refused]

/-- A creation call that reaches the store ends the submission with what the store answers. -/
theorem create_ended (here : s.tasks[t]? = some (.submit submission (.creating true))) :
    (s.create t submission).tasks[t]? = some (.submit submission (.done (.returned
        (PredictionStore.create s.store submission.owner submission.resource).1))) ∧
      (s.create t submission).store =
        (PredictionStore.create s.store submission.owner submission.resource).2 := by
  cases answer : PredictionStore.create s.store submission.owner submission.resource with
  | mk result store =>
    cases result with
    | ok record =>
      have launched : s.create t submission = { s with store }.launch t submission record := by
        simp only [State.create, answer]
      rw [launched]
      exact ⟨getElem?_of_append rfl (getElem?_of_set_self rfl here), rfl⟩
    | error error =>
      rw [create_refused answer]
      exact ⟨getElem?_of_set_self rfl here, rfl⟩

/-- A creation call that is made ends the submission with what the store answers, or without the store;
or the submission waits in it. -/
inductive CallMade (s s' : State σ) (t : TaskId) (submission : Submission) : Prop
  | reached (comes : s.ComesAtOnce .proceeds)
      (ended : s'.tasks[t]? = some (.submit submission (.done (.returned
        (PredictionStore.create s.store submission.owner submission.resource).1))))
      (store : s'.store = (PredictionStore.create s.store submission.owner submission.resource).2)
  | failed (comes : s.ComesAtOnce .fails)
      (ended : s'.tasks[t]? =
        some (.submit submission (.done (.returned (.error State.createUnavailable)))))
      (store : s'.store = s.store)
  | panicked (comes : s.ComesAtOnce .panics)
      (ended : s'.tasks[t]? = some (.submit submission (.done .panicked))) (store : s'.store = s.store)
  | held (holds : s.HoldsBack)
      (waits : s'.tasks[t]? = some (.submit submission (.creating false)))
      (line : s'.surroundings.createPermits.waiting = s.surroundings.createPermits.waiting ++ [t])
      (store : s'.store = s.store)

theorem callMade_callCreate (here : s.tasks[t]? = some (.submit submission (.creating true))) :
    CallMade s (s.callCreate t submission) t submission := by
  rcases comes_or_holdsBack s with ⟨passage, comes⟩ | holds
  · obtain ⟨permits, called⟩ := callCreate_of_comes comes t submission
    rw [called]
    cases passage with
    | proceeds =>
      obtain ⟨ended, store⟩ := create_ended (s := s.withCreatePermits permits) here
      exact .reached comes ended store
    | fails => exact .failed comes (getElem?_of_set_self rfl here) rfl
    | panics => exact .panicked comes (getElem?_of_set_self rfl here) rfl
  · rw [callCreate_of_holdsBack holds t submission]
    exact .held holds (getElem?_of_set_self rfl here) rfl rfl

/-- A store that is overheard answers what it answers alone. -/
theorem creationCalled_of_callMade {x x' : State (Overheard σ)} (made : CallMade x x' t submission) :
    CreationCalled x x' t submission := by
  cases made with
  | reached comes ended store => exact .taken comes (congrArg Overheard.calls store) ⟨_, ended, rfl⟩
  | failed comes ended store => exact .failed comes store ended
  | panicked comes ended store => exact .panicked comes store ended
  | held holds waits line store => exact .held holds store waits line

theorem creationCalled_poll {x : State (Overheard σ)}
    (here : x.tasks[t]? = some (.submit submission .new))
    (passes : x.refusal? submission.resource = none) : CreationCalled x (x.poll t) t submission := by
  have made := callMade_callCreate (s := x.entered t submission) (getElem?_of_set_self rfl here)
  rw [← poll_entered here passes] at made
  cases creationCalled_of_callMade made with
  | taken comes heard ended => exact .taken comes heard ended
  | failed comes unheard ended => exact .failed comes unheard ended
  | panicked comes unheard ended => exact .panicked comes unheard ended
  | held holds unheard waits line => exact .held holds unheard waits line

/-- What a creation call measures comes behind what was measured. -/
theorem measured_callCreate (s : State σ) (t : TaskId) (submission : Submission) :
    s.measured <+: (s.callCreate t submission).measured := by
  have create : ∀ x : State σ, x.measured <+: (x.create t submission).measured := by
    intro x
    unfold State.create
    split
    · exact List.prefix_append _ _
    · exact (List.prefix_append _ _).trans (List.prefix_append _ _)
  rcases comes_or_holdsBack s with ⟨passage, comes⟩ | holds
  · obtain ⟨permits, called⟩ := callCreate_of_comes comes t submission
    rw [called]
    cases passage with
    | proceeds => exact create (s.withCreatePermits permits)
    | fails => exact (List.prefix_append _ _).trans (List.prefix_append _ _)
    | panics => exact List.prefix_append _ _
  · rw [callCreate_of_holdsBack holds t submission]
    exact List.prefix_rfl

/-- A submission that has passed admission has not been turned away. -/
theorem not_turnedAway_of_passed {a : Admission} {error : Error} :
    ¬TurnedAway s ((s.occupy t submission a).callCreate t submission) t submission error := by
  intro h
  obtain ⟨more, heq⟩ := measured_callCreate (s.occupy t submission a) t submission
  rw [h.measured] at heq
  have long : s.measured ++ ([Measurement.inFlight true] ++ more) =
      s.measured ++ [.submitted error.verdict] := by
    rw [← List.append_assoc]
    exact heq
  have clash := List.append_cancel_left long
  cases clash

/-- **Refusals.** The first poll turns a submission away with the error of its refusal, and only so. -/
theorem turnedAway_iff (here : s.tasks[t]? = some (.submit submission .new)) {error : Error} :
    TurnedAway s (s.poll t) t submission error ↔ s.refusal? submission.resource = some error := by
  rw [poll_new here]
  constructor
  · intro h
    cases refusal : s.refusal? submission.resource with
    | none =>
      rw [requestAdmission_passed refusal] at h
      exact absurd h not_turnedAway_of_passed
    | some found =>
      have ended := getElem?_of_set_self (requestAdmission_refused (t := t) refusal).tasks here
      rw [getElem?_of_set_self h.tasks here] at ended
      cases ended
      rfl
  · exact requestAdmission_refused

end Polls

/-! ## The course of a submission -/

/-- What may become of a submission from outside: it gets the permit that it waits for, or it is
cancelled. -/
inductive SubmitStage.Disturbed : SubmitStage → SubmitStage → Prop
  | none (stage : SubmitStage) : Disturbed stage stage
  | granted (g : Bool) : Disturbed (.creating g) (.creating true)
  | cancelledNew : Disturbed .new (.done .cancelled)
  | cancelled (g : Bool) : Disturbed (.creating g) (.done .cancelled)

section Course

variable {s s' : State σ} {t : TaskId} {submission : Submission} {stage : SubmitStage}

theorem disturbed_grants (through : List TaskId)
    (here : s.tasks[t]? = some (.submit submission stage)) :
    ∃ stage', (through.foldl State.grant s).tasks[t]? = some (.submit submission stage') ∧
      stage.Disturbed stage' := by
  rw [getElem?_grants, here]
  split
  · cases stage with
    | new => exact ⟨.new, rfl, .none _⟩
    | creating g => exact ⟨.creating true, rfl, .granted g⟩
    | done ending => exact ⟨.done ending, rfl, .none _⟩
  · exact ⟨stage, rfl, .none _⟩

/-- Another submission is cancelled, or this one. -/
theorem disturbed_cancel {i : TaskId} {other : Submission} {before : SubmitStage}
    (here : s.tasks[t]? = some (.submit submission stage))
    (hi : s.tasks[i]? = some (.submit other before))
    (ends : before.Disturbed (.done .cancelled))
    (tasks : s'.tasks = s.tasks.set i (.submit other (.done .cancelled))) :
    ∃ stage', s'.tasks[t]? = some (.submit submission stage') ∧ stage.Disturbed stage' := by
  by_cases hit : t = i
  · subst hit
    rw [here] at hi
    cases hi
    exact ⟨_, getElem?_of_set_self tasks here, ends⟩
  · exact ⟨stage, (getElem?_of_set_ne tasks hit).trans here, .none _⟩

theorem Outside.disturbed [PredictionStore σ] (move : Outside s s')
    (here : s.tasks[t]? = some (.submit submission stage)) :
    ∃ stage', s'.tasks[t]? = some (.submit submission stage') ∧ stage.Disturbed stage' := by
  have next : ∀ (through : Option TaskId) {r : State σ}, r.tasks = s.tasks →
      ∃ stage', (r.grantNext through).tasks[t]? = some (.submit submission stage') ∧
        stage.Disturbed stage' := by
    intro through r tasks
    rw [grantNext_eq]
    exact disturbed_grants _ (tasks ▸ here)
  cases move with
  | submit | drain => exact ⟨stage, getElem?_of_append rfl here, .none _⟩
  | cancelNew hi => exact disturbed_cancel here hi .cancelledNew rfl
  | cancelWaiting hi => exact disturbed_cancel here hi (.cancelled _) rfl
  | cancelGranted hi => exact disturbed_cancel here hi (.cancelled _) rfl
  | passCreate => exact next _ rfl
  | passFinalize => exact next _ rfl
  | passGate => exact next _ rfl
  | openGates => exact disturbed_grants _ here
  | behave | setCreateMode | setFinalizeMode | setCreatePassage | setFinalizePassage | createDirectly
  | finalizeDirectly =>
    exact ⟨stage, here, .none _⟩

/-- What is kept whatever comes from outside is kept by every event. -/
theorem disturbed_apply [PredictionStore σ] {P : SubmitStage → Prop}
    (kept : ∀ {before after : SubmitStage}, before.Disturbed after → P before → P after)
    (stimulus : Stimulus) (here : s.tasks[t]? = some (.submit submission stage)) (hp : P stage) :
    ∃ stage', (s.apply stimulus).tasks[t]? = some (.submit submission stage') ∧ P stage' := by
  have chain := outside_apply s stimulus
  generalize s.apply stimulus = s' at chain ⊢
  induction chain with
  | refl => exact ⟨stage, here, hp⟩
  | tail _ last ih =>
    obtain ⟨between, hbetween, hp'⟩ := ih
    obtain ⟨stage', here', disturbed⟩ := last.disturbed hbetween
    exact ⟨stage', here', kept disturbed hp'⟩

end Course

/-! ## Creation calls of a run -/

section Runs

variable [PredictionStore σ] {s u : State (Overheard σ)} {t : TaskId} {submission : Submission}
  {stage : SubmitStage} {calls : List StoreCall}

/-- The calls that the polls of task `t` make to the store in the run from `s` to another state. -/
inductive Makes (t : TaskId) (s : State (Overheard σ)) : State (Overheard σ) → List StoreCall → Prop
  | start : Makes t s s []
  | event {u : State (Overheard σ)} {calls : List StoreCall} (stimulus : Stimulus)
      (before : Makes t s u calls) : Makes t s (u.apply stimulus) calls
  | own {u : State (Overheard σ)} {calls : List StoreCall} {rest : List TaskId}
      (before : Makes t s u calls) (next : u.ready = t :: rest) :
      Makes t s ({ u with ready := rest }.poll t)
        (calls ++ ({ u with ready := rest }.poll t).store.calls.drop u.store.calls.length)
  | other {u : State (Overheard σ)} {calls : List StoreCall} {i : TaskId} {rest : List TaskId}
      (before : Makes t s u calls) (next : u.ready = i :: rest) (apart : t ≠ i) :
      Makes t s ({ u with ready := rest }.poll i) calls

theorem Reachable.makes (h : Reachable s u) (t : TaskId) : ∃ calls, Makes t s u calls := by
  induction h with
  | start => exact ⟨[], .start⟩
  | event stimulus _ ih =>
    obtain ⟨calls, before⟩ := ih
    exact ⟨calls, before.event stimulus⟩
  | poll _ step ih =>
    obtain ⟨calls, before⟩ := ih
    obtain ⟨i, rest, next, rfl⟩ := State.poll_of_step? step
    by_cases hit : t = i
    · subst hit
      exact ⟨_, before.own next⟩
    · exact ⟨calls, before.other next hit⟩

/-- The calls that a submission has made when it has come to a stage: none before its creation call
is through, and that one if it has its record. -/
def CallsBy (submission : Submission) (calls : List StoreCall) : SubmitStage → Prop
  | .new | .creating _ | .done .panicked | .done .cancelled => calls = []
  | .done (.returned (.ok _)) => calls = [.create submission.owner submission.resource]
  | .done (.returned (.error _)) =>
    calls = [] ∨ calls = [.create submission.owner submission.resource]

theorem CallsBy.disturbed {before after : SubmitStage} (disturbed : before.Disturbed after)
    (h : CallsBy submission calls before) : CallsBy submission calls after := by
  cases disturbed <;> exact h

/-- The call that has been heard, or none. -/
theorem CallsBy.called {before : List StoreCall} {result : Except Error Prediction}
    (heard : calls = before ++ [.create submission.owner submission.resource]) :
    CallsBy submission (calls.drop before.length) (.done (.returned result)) := by
  rw [heard, List.drop_left]
  cases result with
  | ok => rfl
  | error => exact .inr rfl

/-- One poll of the submission makes its creation call, or none. -/
theorem callsBy_poll (here : s.tasks[t]? = some (.submit submission stage))
    (h : CallsBy submission calls stage) : ∃ stage',
      (s.poll t).tasks[t]? = some (.submit submission stage') ∧
        CallsBy submission (calls ++ (s.poll t).store.calls.drop s.store.calls.length) stage' := by
  have silent : ∀ {stage'}, (s.poll t).store = s.store →
      (s.poll t).tasks[t]? = some (.submit submission stage') → CallsBy submission calls stage' →
      ∃ stage', (s.poll t).tasks[t]? = some (.submit submission stage') ∧
        CallsBy submission (calls ++ (s.poll t).store.calls.drop s.store.calls.length) stage' := by
    intro stage' unheard here' made
    refine ⟨stage', here', ?_⟩
    rwa [unheard, List.drop_length, List.append_nil]
  cases stage with
  | new =>
    obtain rfl : calls = [] := h
    cases refusal : s.refusal? submission.resource with
    | some error =>
      have away := (turnedAway_iff here).2 refusal
      exact silent away.store (getElem?_of_set_self away.tasks here) (.inl rfl)
    | none =>
      cases creationCalled_poll here refusal with
      | taken _ heard ended =>
        obtain ⟨result, ended, -⟩ := ended
        exact ⟨_, ended, CallsBy.called heard⟩
      | failed _ unheard ended => exact silent unheard ended (.inl rfl)
      | panicked _ unheard ended => exact silent unheard ended rfl
      | held _ unheard waits => exact silent unheard waits rfl
  | creating granted =>
    cases granted with
    | false =>
      have still : s.poll t = s := poll_asleep here rfl
      exact silent (by rw [still]) (by rw [still, here]) h
    | true =>
      obtain rfl : calls = [] := h
      have polled := poll_creating here
      cases passage : s.surroundings.createPassage with
      | proceeds =>
        obtain ⟨ended, store⟩ := create_ended here
        rw [polled, passage]
        exact ⟨_, ended, CallsBy.called (congrArg Overheard.calls store)⟩
      | fails =>
        rw [passage] at polled
        have ended : (s.poll t).tasks[t]? =
            some (.submit submission (.done (.returned (.error State.createUnavailable)))) := by
          rw [polled]
          exact getElem?_of_set_self rfl here
        have unheard : (s.poll t).store = s.store := by
          rw [polled]
          rfl
        exact silent unheard ended (.inl rfl)
      | panics =>
        rw [passage] at polled
        have ended : (s.poll t).tasks[t]? = some (.submit submission (.done .panicked)) := by
          rw [polled]
          exact getElem?_of_set_self rfl here
        have unheard : (s.poll t).store = s.store := by
          rw [polled]
          rfl
        exact silent unheard ended rfl
  | done ending =>
    have still : s.poll t = s := poll_asleep here rfl
    exact silent (by rw [still]) (by rw [still, here]) h

/-- **Creation calls.** In the course of a run a submission makes its one creation call, or none. -/
theorem Makes.callsBy (h : Makes t s u calls) (here : s.tasks[t]? = some (.submit submission .new)) :
    ∃ stage, u.tasks[t]? = some (.submit submission stage) ∧ CallsBy submission calls stage := by
  induction h with
  | start => exact ⟨.new, here, rfl⟩
  | event stimulus _ ih =>
    obtain ⟨stage, there, made⟩ := ih
    exact disturbed_apply CallsBy.disturbed stimulus there made
  | @own u calls rest _ next ih =>
    obtain ⟨stage, there, made⟩ := ih
    exact callsBy_poll (s := { u with ready := rest }) there made
  | other _ next apart ih =>
    obtain ⟨stage, there, made⟩ := ih
    exact ⟨stage, (polled_poll _ _).other apart there, made⟩

/-! ## First polls -/

/-- The submission of task `t` has returned the error. -/
def Returns (s : State σ) (t : TaskId) (submission : Submission) (error : Error) : Prop :=
  s.tasks[t]? = some (.submit submission (.done (.returned (.error error))))

/-- What the first poll of a submission does, from the state in which its task has been taken from the
queue to the one after the poll. -/
structure FirstPoll (s s' : State (Overheard σ)) (t : TaskId) (submission : Submission) : Prop where
  invalid : TurnedAway s s' t submission (.invalidResource "resource must not be empty") ↔
    submission.resource = ""
  full : TurnedAway s s' t submission (.capacityExceeded s.admission.capacity.toNat) ↔
    submission.resource ≠ "" ∧ s.admission.capacity ≤ s.admission.inFlight
  duplicate : TurnedAway s s' t submission (.duplicateInProgress submission.resource) ↔
    submission.resource ≠ "" ∧ s.admission.inFlight < s.admission.capacity ∧
      submission.resource ∈ s.admission.claimed
  /-- Who is turned away leaves the admissions of all tasks and the in-flight metric as they are. -/
  untouched : ∀ error, TurnedAway s s' t submission error →
    (∀ i resource, s'.Holds i resource ↔ s.Holds i resource) ∧ ∀ up, s'.turns up = s.turns up
  /-- All others take a slot and their resource, and call the store. -/
  called : submission.resource ≠ "" → s.admission.inFlight < s.admission.capacity →
    submission.resource ∉ s.admission.claimed →
      s' = (s.occupy t submission (s.admission.take submission.resource)).callCreate t submission ∧
        CreationCalled s s' t submission
  /-- If the store has no refusals of its own, the error alone tells why. -/
  returned : PlainStore σ →
    ((∃ reason, Returns s' t submission (.invalidResource reason)) ↔ submission.resource = "") ∧
    ((∃ limit, Returns s' t submission (.capacityExceeded limit)) ↔
      submission.resource ≠ "" ∧ s.admission.capacity ≤ s.admission.inFlight) ∧
    ((∃ resource, Returns s' t submission (.duplicateInProgress resource)) ↔
      submission.resource ≠ "" ∧ s.admission.inFlight < s.admission.capacity ∧
        submission.resource ∈ s.admission.claimed)

theorem refusal?_eq_none_iff {τ : Type} {s : State τ} {resource : String} :
    s.refusal? resource = none ↔ resource ≠ "" ∧ s.admission.inFlight < s.admission.capacity ∧
      resource ∉ s.admission.claimed := by
  unfold State.refusal?
  split_ifs <;> simp_all [UInt64.not_le]

theorem refusal?_eq_some_iff {τ : Type} {s : State τ} {resource : String} {error : Error} :
    s.refusal? resource = some error ↔
      error = .invalidResource "resource must not be empty" ∧ resource = "" ∨
      error = .capacityExceeded s.admission.capacity.toNat ∧ resource ≠ "" ∧
        s.admission.capacity ≤ s.admission.inFlight ∨
      error = .duplicateInProgress resource ∧ resource ≠ "" ∧
        s.admission.inFlight < s.admission.capacity ∧ resource ∈ s.admission.claimed := by
  unfold State.refusal?
  split_ifs <;> simp_all [UInt64.not_le, eq_comm]

/-- A store that is overheard has no more errors of its own. -/
theorem PlainStore.overheard (plain : PlainStore σ) : PlainStore (Overheard σ) := by
  intro o o' owner resource error refused
  obtain ⟨answered, -⟩ := Prod.mk.inj refused
  exact plain _ _ _ _ _ (Prod.ext answered rfl)

/-- What is returned once admission is passed is no refusal. -/
theorem verdict_of_passed (plain : PlainStore σ) (refusal : s.refusal? submission.resource = none)
    (here : s.tasks[t]? = some (.submit submission .new)) {error : Error}
    (returned : Returns (s.poll t) t submission error) : error.verdict = .error := by
  unfold Returns at returned
  cases creationCalled_poll here refusal with
  | taken _ _ ended =>
    obtain ⟨result, ended, answered⟩ := ended
    rw [returned] at ended
    cases ended
    exact plain _ _ _ _ _ (Prod.ext answered rfl)
  | failed _ _ ended =>
    rw [returned] at ended
    cases ended
    rfl
  | panicked _ _ ended =>
    rw [returned] at ended
    cases ended
  | held _ _ waits =>
    rw [returned] at waits
    cases waits

/-- Under a store without refusals of its own, a refusal is returned just if admission refuses. -/
theorem returns_iff (plain : PlainStore σ) (here : s.tasks[t]? = some (.submit submission .new))
    {error : Error} (refuses : error.verdict ≠ .error) :
    Returns (s.poll t) t submission error ↔ s.refusal? submission.resource = some error := by
  constructor
  · intro returned
    cases refusal : s.refusal? submission.resource with
    | none => exact absurd (verdict_of_passed plain refusal here returned) refuses
    | some found =>
      have ended := getElem?_of_set_self ((turnedAway_iff here).2 refusal).tasks here
      rw [returned] at ended
      cases ended
      rfl
  · intro refusal
    exact getElem?_of_set_self ((turnedAway_iff here).2 refusal).tasks here

theorem firstPoll (here : s.tasks[t]? = some (.submit submission .new)) :
    FirstPoll s (s.poll t) t submission where
  invalid := by
    rw [turnedAway_iff here, refusal?_eq_some_iff]
    simp
  full := by
    rw [turnedAway_iff here, refusal?_eq_some_iff]
    simp
  duplicate := by
    rw [turnedAway_iff here, refusal?_eq_some_iff]
    simp
  untouched := by
    intro error away
    exact ⟨away.holds_iff here, away.turns_eq⟩
  called := by
    intro named free unclaimed
    have refusal := refusal?_eq_none_iff.2 ⟨named, free, unclaimed⟩
    exact ⟨poll_entered here refusal, creationCalled_poll here refusal⟩
  returned := by
    intro plain
    have invalid : ∀ reason, (Error.invalidResource reason).verdict ≠ .error := by simp [Error.verdict]
    have full : ∀ limit, (Error.capacityExceeded limit).verdict ≠ .error := by simp [Error.verdict]
    have duplicate : ∀ resource, (Error.duplicateInProgress resource).verdict ≠ .error := by
      simp [Error.verdict]
    refine ⟨?_, ?_, ?_⟩
    · simp only [returns_iff plain here (invalid _), refusal?_eq_some_iff]
      simp
    · simp only [returns_iff plain here (full _), refusal?_eq_some_iff]
      simp
    · simp only [returns_iff plain here (duplicate _), refusal?_eq_some_iff]
      simp

/-- A poll ends a drain just if nothing is in flight. -/
theorem drain_over_iff {τ : Type} [PredictionStore τ] {s : State τ} {d : TaskId} {stage : DrainStage}
    (here : s.tasks[d]? = some (.drain stage)) (running : stage ≠ .done) :
    (s.poll d).tasks[d]? = some (.drain .done) ↔ s.admission.inFlight = 0 := by
  have polled : s.poll d = s.checkIdle d := by
    cases stage with
    | new | waiting => simp only [State.poll, here]
    | done => exact absurd rfl running
  rw [polled, State.checkIdle]
  split
  · rename_i idle
    exact ⟨fun _ => idle, fun _ => getElem?_of_set_self rfl here⟩
  · rename_i busy
    have waits : (s.tasks.set d (.drain .waiting))[d]? = some (.drain .waiting) :=
      getElem?_of_set_self rfl here
    refine ⟨fun ended => ?_, fun idle => absurd idle busy⟩
    have clash := waits.symm.trans ended
    cases clash

/-- **First polls.** Whatever has happened before, the first poll of a submission refuses an empty
resource, then a full engine, then a resource that is claimed, and these refusals leave everything as
it was; every other submission calls the store for a record, once and for all. Drains that are woken
end only when nothing is in flight. -/
theorem first_poll_decides {capacity : UInt64} {table : LabelTable} {store : σ}
    {surroundings : Surroundings} {freshIds : Nat → PredictionId} {rest : List TaskId}
    (h : Reachable (State.start capacity table ⟨store, []⟩ surroundings freshIds) s)
    (next : s.ready = t :: rest) (here : s.tasks[t]? = some (.submit submission .new)) :
    s.step? = some ({ s with ready := rest }.poll t) ∧ s.admission.capacity = capacity ∧
      FirstPoll { s with ready := rest } ({ s with ready := rest }.poll t) t submission ∧
      (∀ u, Reachable s u → ∃ calls, Makes t s u calls) ∧
      (∀ u calls, Makes t s u calls → ∃ stage, u.tasks[t]? = some (.submit submission stage) ∧
        CallsBy submission calls stage) ∧
      ∀ (u : State (Overheard σ)) (d : TaskId) (stage : DrainStage),
        u.tasks[d]? = some (.drain stage) → stage ≠ .done →
          ((u.poll d).tasks[d]? = some (.drain .done) ↔ u.admission.inFlight = 0) := by
  refine ⟨?_, capacity_of_reachable h, firstPoll (s := { s with ready := rest }) here, ?_, ?_, ?_⟩
  · simp only [State.step?, next]
  · intro u hu
    exact hu.makes t
  · intro u calls made
    exact made.callsBy here
  · intro u d stage hd running
    exact drain_over_iff hd running

end Runs

namespace Sample

/-- The engine of the samples, with its store overheard. -/
def overheard : State (Overheard MemoryStore) :=
  .start 2 ⟨[]⟩ ⟨.empty supplies, []⟩ (.start (.answers ⟨none⟩) false) supplies.ids

/-- A resource is submitted twice, and the first submission has been polled. -/
def claimedTwice : State (Overheard MemoryStore) :=
  (overheard.apply (.submitAll [submission, submission])).polls 1

end Sample

/-- The second submission of `claimedTwice` is a duplicate. -/
theorem first_poll_decides_claimedTwice :
    Reachable Sample.overheard Sample.claimedTwice ∧ Sample.claimedTwice.ready = [1, 2] ∧
      Sample.claimedTwice.store.calls = [.create "owner" "scan.png"] ∧
      FirstPoll { Sample.claimedTwice with ready := [2] }
        ({ Sample.claimedTwice with ready := [2] }.poll 1) 1 Sample.submission ∧
      TurnedAway { Sample.claimedTwice with ready := [2] }
        ({ Sample.claimedTwice with ready := [2] }.poll 1) 1 Sample.submission
        (.duplicateInProgress "scan.png") ∧
      (∃ stage, Sample.claimedTwice.tasks[1]? = some (.submit Sample.submission stage) ∧
        CallsBy Sample.submission [] stage) ∧
      (({ Sample.claimedTwice with tasks := [.drain .new] }.poll 0).tasks[0]? = some (.drain .done) ↔
        Sample.claimedTwice.admission.inFlight = 0) := by
  have reached : Reachable Sample.overheard Sample.claimedTwice := (Reachable.start.event _).polls 1
  have next : Sample.claimedTwice.ready = [1, 2] := rfl
  have here : Sample.claimedTwice.tasks[1]? = some (.submit Sample.submission .new) := rfl
  obtain ⟨-, -, first, -, calls, drains⟩ := first_poll_decides reached next here
  exact ⟨reached, rfl, rfl, first, first.duplicate.2 ⟨by decide, by decide, by decide⟩,
    calls _ [] .start, drains { Sample.claimedTwice with tasks := [.drain .new] } 0 .new rfl nofun⟩

end Engine

end Predictor
