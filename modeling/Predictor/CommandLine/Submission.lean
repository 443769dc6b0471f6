import Predictor.CommandLine.Report
import Predictor.Engine.Stimulus

/-!
The run of a submission from the command line. One resource after the other is handed to the engine,
each when the one before has been admitted or refused; an error that is no refusal ends the run at
once. When all are handed over the run waits for the engine to drain, and then reads the admitted
predictions back in the order of their admission.
-/

namespace Predictor.CommandLine

open Engine

inductive Phase
  /-- The submission of a resource is under way; others are to follow. -/
  | submitting (task : TaskId) (resource : String) (others : List String)
  | draining (task : TaskId)
  | reading (ids : List PredictionId)
  | ended (result : Except Error Unit)

structure SubmitRun (σ : Type) where
  engine : State σ
  context : RequestContext
  owner : String
  phase : Phase
  /-- The predictions admitted so far. -/
  accepted : List PredictionId
  /-- The lines printed so far. -/
  output : List String

def acceptedLine (id : PredictionId) (resource : String) : String :=
  "Accepted: " ++ id.text ++ " (" ++ resource ++ ")"

def rejectedLine (resource : String) (error : Error) : String :=
  "Rejected: " ++ resource ++ ": " ++ error.message

namespace SubmitRun

variable {σ : Type}

def print (r : SubmitRun σ) (line : String) : SubmitRun σ :=
  { r with output := r.output ++ [line] }

/-- Hands over the next resource, or begins to wait when there is none. -/
def proceed (r : SubmitRun σ) : List String → SubmitRun σ
  | [] => { r with
      engine := r.engine.spawn (.drain .new), phase := .draining r.engine.tasks.length }
  | resource :: others => { r with
      engine := r.engine.beginSubmit ⟨r.context, r.owner, resource⟩
      phase := .submitting r.engine.tasks.length resource others }

def start (engine : State σ) (context : RequestContext) (owner : String)
    (resources : List String) : SubmitRun σ :=
  proceed ⟨engine, context, owner, .reading [], [], []⟩ resources

/-- Goes on after the submission of a resource has returned. -/
def returned (r : SubmitRun σ) (resource : String) (others : List String) :
    Except Error Prediction → SubmitRun σ
  | .ok record =>
    proceed { r.print (acceptedLine record.id resource) with
      accepted := r.accepted ++ [record.id] } others
  | .error error =>
    if error.isRejection then (r.print (rejectedLine resource error)).proceed others
    else { r with phase := .ended (.error error) }

/-- Begins to read back, after a blank line when there is something to read. -/
def drained (r : SubmitRun σ) : SubmitRun σ :=
  { r with
    output := r.output ++ (if r.accepted.isEmpty then [] else [""])
    phase := .reading r.accepted }

variable [PredictionStore σ]

/-- Reads the next prediction back. -/
def readBack (r : SubmitRun σ) (id : PredictionId) (others : List PredictionId) : SubmitRun σ :=
  let (result, store) := PredictionStore.get r.engine.store id
  let r := { r with engine := { r.engine with store } }
  match result with
  | .ok record => { r.print (resultLine record) with phase := .reading others }
  | .error error => { r with phase := .ended (.error error) }

/-- The next step of the run itself, once what it waits for is there. -/
def advance (r : SubmitRun σ) : SubmitRun σ :=
  match r.phase with
  | .submitting task resource others =>
    match r.engine.tasks[task]? with
    | some (.submit _ (.done (.returned result))) => r.returned resource others result
    | _ => r
  | .draining task =>
    match r.engine.tasks[task]? with
    | some (.drain .done) => r.drained
    | _ => r
  | .reading [] => { r with phase := .ended (.ok ()) }
  | .reading (id :: others) => r.readBack id others
  | .ended _ => r

/-- How the run ended, once it has. -/
def result? (r : SubmitRun σ) : Option (Except Error Unit) :=
  match r.phase with
  | .ended result => some result
  | _ => none

/-- What a run hears from the service and from the store: the service sets an answer or lets a call
through, and the store lets its calls wait or go on. -/
inductive Heard : Stimulus → Prop
  | passGate (resource : String) : Heard (.passGate resource)
  | behave (resource : String) (behaviour : Behaviour) : Heard (.behave resource behaviour)
  | createMode {mode : CallMode} (takes : mode.Takes) : Heard (.setCreateMode mode)
  | finalizeMode {mode : CallMode} (takes : mode.Takes) : Heard (.setFinalizeMode mode)
  | passCreate : Heard .passCreate
  | passFinalize : Heard .passFinalize

/-- One step of a run: the engine polls a task, the service or the store is heard from, or the run
itself goes on. -/
inductive Next : SubmitRun σ → SubmitRun σ → Prop
  | poll {r : SubmitRun σ} {engine : State σ} : r.engine.step? = some engine →
      Next r { r with engine }
  | hear {r : SubmitRun σ} {stimulus : Stimulus} : Heard stimulus →
      Next r { r with engine := r.engine.apply stimulus }
  | advance {r : SubmitRun σ} : Next r r.advance

/-! ## Running -/

def settle (r : SubmitRun σ) : SubmitRun σ := { r with engine := r.engine.settle }

/-- Steps of the run, each after the engine has come to rest. -/
def steps (r : SubmitRun σ) : Nat → SubmitRun σ
  | 0 => r
  | n + 1 => (r.settle.advance).steps n

/-- Lets the service answer the calls that wait at their gates. -/
def hear (answer : Work → Behaviour) (r : SubmitRun σ) : SubmitRun σ :=
  { r with engine := r.engine.calls.foldl (fun engine w =>
      (engine.respond (.behave w.resource (answer w))).respond (.passGate w.resource)) r.engine }

/-- The whole run: the service answers once all resources are handed over. -/
def run (answer : Work → Behaviour) (resources : List String) (r : SubmitRun σ) : SubmitRun σ :=
  let r := r.steps resources.length
  match r.result? with
  | some _ => r
  | none =>
    let r := r.settle.hear answer
    r.steps (r.accepted.length + 2)

end SubmitRun

end Predictor.CommandLine
