import Predictor.Engine.State

/-!
One poll of one task: it runs from the point where it is suspended to the next one or to its end.
A submission takes its admission, creates the record and leaves the classification to a unit of work;
the unit calls the classifier, writes the outcome and releases the admission; a drain looks whether
anything is in flight.
-/

namespace Predictor.Engine.State

open Telemetry

variable {σ : Type}

/-! ## Submissions -/

/-- A submission is refused before anything is created for it. -/
def reject (s : State σ) (t : TaskId) (submission : Submission) (result : SubmissionResult)
    (error : Error) : State σ :=
  (s.measure (.submitted result)).endSubmit t submission (.returned (.error error))

/-- The record could not be created: the admission is given back and the error goes to the caller. -/
def rollBack (s : State σ) (t : TaskId) (submission : Submission) (error : Error) : State σ :=
  (((s.release submission.resource none).measure (.submitted .error)).emit
    (.creationFailed submission.resource error) none).endSubmit t submission
      (.returned (.error error))

/-- The record exists: its unit of work begins, and the caller gets the record. -/
def launch (s : State σ) (t : TaskId) (submission : Submission) (record : Prediction) : State σ :=
  let fresh := s.freshIds s.freshUsed
  let correlation := Correlation.ofContext fresh submission.context record.id
  let used := if Correlation.needsFresh submission.context then 1 else 0
  let s := { s with freshUsed := s.freshUsed + used, created := s.created ++ [record.id] }
  let s := s.endSubmit t submission (.returned (.ok record))
  let s := s.spawn (.work ⟨submission.resource, correlation⟩ .new)
  (s.measure (.submitted .admitted)).emit
    (.admitted record.id submission.resource submission.owner) none

variable [PredictionStore σ]

/-- The store's creation call itself. -/
def create (s : State σ) (t : TaskId) (submission : Submission) : State σ :=
  match PredictionStore.create s.store submission.owner submission.resource with
  | (.ok record, store) => { s with store }.launch t submission record
  | (.error error, store) => { s with store }.rollBack t submission error

/-- The error of a creation call that the store refuses to take. -/
def createUnavailable : Error := .other "create unavailable"

/-- The creation call is not held back, or no longer. -/
def endCreate (s : State σ) (t : TaskId) (submission : Submission) : Passage → State σ
  | .proceeds => s.create t submission
  | .fails => s.rollBack t submission createUnavailable
  | .panics => (s.release submission.resource none).endSubmit t submission .panicked

def callCreate (s : State σ) (t : TaskId) (submission : Submission) : State σ :=
  match s.surroundings.createMode with
  | .ok => s.endCreate t submission .proceeds
  | .fail => s.endCreate t submission .fails
  | .panic => s.endCreate t submission .panics
  | .hold =>
    let (taken, permits) := s.surroundings.createPermits.acquire t
    let s := s.withCreatePermits permits
    if taken then s.endCreate t submission s.surroundings.createPassage
    else s.setTask t (.submit submission (.creating false))

/-- A submission has taken its admission; the creation call comes next. -/
def occupy (s : State σ) (t : TaskId) (submission : Submission) (admission : Admission) : State σ :=
  ({ s with admission, entrants := s.entrants ++ [t] }.measure (.inFlight true)).setTask t
    (.submit submission (.creating true))

/-- The first poll of a submission: an empty resource is refused first, then a full engine, then a
resource that is in flight. -/
def requestAdmission (s : State σ) (t : TaskId) (submission : Submission) : State σ :=
  if submission.resource.isEmpty then
    s.reject t submission .invalid (.invalidResource "resource must not be empty")
  else if s.admission.atCapacity then
    s.reject t submission .capacityExceeded (.capacityExceeded s.admission.capacity.toNat)
  else
    let reserved := s.admission.reserve
    match reserved.claim? submission.resource with
    | none =>
      ({ s with admission := reserved.unreserve }.wakeDrains).reject t submission .duplicate
        (.duplicateInProgress submission.resource)
    | some admission => (s.occupy t submission admission).callCreate t submission

/-! ## Background work -/

/-- The unit of work is over, and its admission with it. -/
def endWork (s : State σ) (t : TaskId) (w : Work) (status : Option Status) (panicked : Bool) :
    State σ :=
  (s.release w.resource (some (w.span status))).setTask t (.work w (.done panicked))

/-- The store's finalization call has returned. -/
def finalized (s : State σ) (t : TaskId) (w : Work) (status : Status) :
    Except Error Unit → State σ
  | .ok () =>
    (((s.note t (.told (.ok ()))).emit (.statusTransition status)
      (some (w.span (some status)))).measure (.finalized status)).endWork t w (some status) false
  | .error error =>
    (((s.note t (.told (.error error))).measure .finalizeFailure).emit
      (.finalizationFailed w.id w.resource error) (some (w.span none))).endWork t w none false

/-- The store's finalization call itself. -/
def finalize (s : State σ) (t : TaskId) (w : Work) (outcome : Outcome) : State σ :=
  let (result, store) := PredictionStore.finalize s.store w.id outcome
  { s with store }.finalized t w outcome.status result

/-- The error of a finalization call that the store refuses to take. -/
def finalizeUnavailable : Error := .other "finalize unavailable"

/-- The finalization call is not held back, or no longer. -/
def endFinalize (s : State σ) (t : TaskId) (w : Work) (outcome : Outcome) : Passage → State σ
  | .proceeds => s.finalize t w outcome
  | .fails => s.finalized t w outcome.status (.error finalizeUnavailable)
  | .panics => (s.note t .broken).endWork t w none true

def callFinalize (s : State σ) (t : TaskId) (w : Work) (outcome : Outcome) : State σ :=
  match s.surroundings.finalizeMode with
  | .ok => s.endFinalize t w outcome .proceeds
  | .fail => s.endFinalize t w outcome .fails
  | .panic => s.endFinalize t w outcome .panics
  | .hold =>
    let (taken, permits) := s.surroundings.finalizePermits.acquire t
    let s := s.withFinalizePermits permits
    if taken then s.endFinalize t w outcome s.surroundings.finalizePassage
    else s.setTask t (.work w (.finalizing outcome false))

/-- The finalization call begins; the store acts on it next. -/
def ask (s : State σ) (t : TaskId) (w : Work) (outcome : Outcome) : State σ :=
  (s.note t (.asked outcome)).setTask t (.work w (.finalizing outcome true))

/-- The classifier has answered. -/
def answered (s : State σ) (t : TaskId) (w : Work) (raw : RawResult) : State σ :=
  ((s.note t (.heard (.answers raw))).measure (.classified none)).ask t w
    (.classified (s.table.decode raw))

/-- The classifier has failed. -/
def unanswered (s : State σ) (t : TaskId) (w : Work) (error : ClassifyError) : State σ :=
  (((s.note t (.heard (.fails error))).measure (.classified (some error.kind))).emit
    (.classificationFailed error) (some (w.span none))).ask t w (.failed error.message)

/-- The classification call has passed its gate. -/
def hear (s : State σ) (t : TaskId) (w : Work) : State σ :=
  match s.surroundings.behaviourOf w.resource with
  | .answers raw =>
    (s.answered t w raw).callFinalize t w (.classified (s.table.decode raw))
  | .fails error => (s.unanswered t w error).callFinalize t w (.failed error.message)
  | .panics => (s.note t (.heard .panics)).endWork t w none true

/-- The classifier has been called; `through` says whether the call has passed its gate. -/
def called (s : State σ) (t : TaskId) (w : Work) (through : Bool) (gates : Gates) : State σ :=
  ({ s with calls := s.calls ++ [w] }.withGates gates).setTask t (.work w (.classifying through))

/-- The first poll of a unit of work: it calls the classifier. -/
def callClassify (s : State σ) (t : TaskId) (w : Work) : State σ :=
  let (through, gates) := s.surroundings.gates.enter w.resource t
  let s := s.called t w through gates
  if through then s.hear t w else s

/-! ## Drains -/

/-- A drain is over when nothing is in flight; else it waits for the next release. -/
def checkIdle (s : State σ) (t : TaskId) : State σ :=
  if s.admission.inFlight = 0 then
    { s.setTask t (.drain .done) with finished := s.finished ++ [t] }
  else { s.setTask t (.drain .waiting) with drains := s.drains ++ [t] }

/-! ## Polls -/

def poll (s : State σ) (t : TaskId) : State σ :=
  match s.tasks[t]? with
  | some (.submit submission .new) => s.requestAdmission t submission
  | some (.submit submission (.creating true)) =>
    s.endCreate t submission s.surroundings.createPassage
  | some (.work w .new) => s.callClassify t w
  | some (.work w (.classifying true)) => s.hear t w
  | some (.work w (.finalizing outcome true)) =>
    s.endFinalize t w outcome s.surroundings.finalizePassage
  | some (.drain .new) => s.checkIdle t
  | some (.drain .waiting) => s.checkIdle t
  | _ => s

/-- Polls the task that is ready first. -/
def step? (s : State σ) : Option (State σ) :=
  match s.ready with
  | [] => none
  | t :: rest => some ({ s with ready := rest }.poll t)

end Predictor.Engine.State
