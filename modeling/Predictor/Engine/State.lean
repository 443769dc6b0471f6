import Predictor.Engine.Admission
import Predictor.Engine.Surroundings
import Predictor.Label.Table
import Predictor.Store.Basic
import Predictor.Telemetry.Event
import Predictor.Telemetry.Metrics

/-!
The state of the engine between two polls: the admission counter and claims, the store, the tasks
with the point at which each is suspended, the queue of tasks that are ready, and what has been
logged, measured, called and finished so far.
-/

namespace Predictor.Engine

open Telemetry

/-- A request to classify a resource. -/
structure Submission where
  context : RequestContext
  owner : String
  resource : String
  deriving DecidableEq, Repr

inductive SubmitEnding
  | returned (result : Except Error Prediction)
  | panicked
  | cancelled

inductive SubmitStage
  | new
  /-- Inside the store's creation call, holding an admission. -/
  | creating (granted : Bool)
  | done (ending : SubmitEnding)

/-- A unit of background work: one admitted prediction. -/
structure Work where
  resource : String
  correlation : Correlation
  deriving DecidableEq, Repr

inductive WorkStage
  | new
  /-- Inside the classification call. -/
  | classifying (granted : Bool)
  /-- Inside the store's finalization call. -/
  | finalizing (outcome : Outcome) (granted : Bool)
  | done (panicked : Bool)

/-- What a unit of work hears from the classifier, asks of the store and is told by it. -/
inductive Deed
  /-- The classification call is over. -/
  | heard (answer : Behaviour)
  /-- The finalization call begins. -/
  | asked (outcome : Outcome)
  /-- The finalization call has returned. -/
  | told (result : Except Error Unit)
  /-- The finalization call has panicked. -/
  | broken

inductive DrainStage
  | new
  | waiting
  | done

inductive Task
  | submit (submission : Submission) (stage : SubmitStage)
  | work (unit : Work) (stage : WorkStage)
  | drain (stage : DrainStage)

structure State (σ : Type) where
  admission : Admission
  table : LabelTable
  store : σ
  surroundings : Surroundings
  tasks : List Task
  /-- Tasks to be polled, the next one first. -/
  ready : List TaskId
  /-- Drains to be woken by the next release, in the order in which they began to wait. -/
  drains : List TaskId
  /-- Request ids for submissions that bring none. -/
  freshIds : Nat → PredictionId
  freshUsed : Nat
  /-- Submissions that have passed admission, in that order. -/
  entrants : List TaskId
  /-- Records created by submissions. -/
  created : List PredictionId
  /-- Classification calls. -/
  calls : List Work
  /-- What the units of work have done since, each deed with its task. -/
  deeds : List (TaskId × Deed)
  /-- Submissions and drains that have ended, in that order. -/
  finished : List TaskId
  events : List Event
  measured : List Measurement

namespace Work

def id (w : Work) : PredictionId := w.correlation.predictionId

def span (w : Work) (status : Option Status) : Span :=
  ⟨w.id, w.resource, w.correlation.requestId, status⟩

end Work

namespace Task

/-- The resource of the admission that a task holds, if it holds one. -/
def held? : Task → Option String
  | .submit submission (.creating _) => some submission.resource
  | .work _ (.done _) => none
  | .work unit _ => some unit.resource
  | _ => none

/-- A waiting task gets what it waits for. -/
def grant : Task → Task
  | .submit submission (.creating _) => .submit submission (.creating true)
  | .work unit (.classifying _) => .work unit (.classifying true)
  | .work unit (.finalizing outcome _) => .work unit (.finalizing outcome true)
  | task => task

end Task

namespace State

variable {σ : Type}

def start (capacity : UInt64) (table : LabelTable) (store : σ) (surroundings : Surroundings)
    (freshIds : Nat → PredictionId) : State σ :=
  { admission := .empty capacity, table, store, surroundings, tasks := [], ready := [],
    drains := [], freshIds, freshUsed := 0, entrants := [], created := [], calls := [],
    deeds := [], finished := [], events := [], measured := [] }

/-- The resources of the live admissions, in the order of the tasks that hold them. -/
def live (s : State σ) : List String := s.tasks.filterMap Task.held?

/-- No task can move. -/
def AtRest (s : State σ) : Prop := s.ready = []

/-! ## Small changes -/

def emit (s : State σ) (happening : Happening) (span : Option Span) : State σ :=
  { s with events := s.events ++ [⟨happening, span⟩] }

def measure (s : State σ) (m : Measurement) : State σ :=
  { s with measured := s.measured ++ [m] }

def note (s : State σ) (t : TaskId) (deed : Deed) : State σ :=
  { s with deeds := s.deeds ++ [(t, deed)] }

def setTask (s : State σ) (t : TaskId) (task : Task) : State σ :=
  { s with tasks := s.tasks.set t task }

def withGates (s : State σ) (gates : Gates) : State σ :=
  { s with surroundings := { s.surroundings with gates } }

def withCreatePermits (s : State σ) (permits : Permits) : State σ :=
  { s with surroundings := { s.surroundings with createPermits := permits } }

def withFinalizePermits (s : State σ) (permits : Permits) : State σ :=
  { s with surroundings := { s.surroundings with finalizePermits := permits } }

/-- Adds a task behind all others and makes it ready. -/
def spawn (s : State σ) (task : Task) : State σ :=
  { s with tasks := s.tasks ++ [task], ready := s.ready ++ [s.tasks.length] }

/-- Gives a waiting task what it waits for, and makes it ready. -/
def grant (s : State σ) (t : TaskId) : State σ :=
  { s with tasks := s.tasks.modify t Task.grant, ready := s.ready ++ [t] }

/-- Wakes every drain that waits. -/
def wakeDrains (s : State σ) : State σ :=
  { s with ready := s.ready ++ s.drains, drains := [] }

/-- Gives back the slot and the claim of an admission, and tells those who wait for it. -/
def release (s : State σ) (resource : String) (span : Option Span) : State σ :=
  (({ s with admission := s.admission.release resource }.measure
    (.inFlight false)).wakeDrains).emit (.released resource) span

def endSubmit (s : State σ) (t : TaskId) (submission : Submission) (ending : SubmitEnding) :
    State σ :=
  { s.setTask t (.submit submission (.done ending)) with finished := s.finished ++ [t] }

end State

end Predictor.Engine
