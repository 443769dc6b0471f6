import Predictor.Engine.Rest

/-!
What happens to the engine from outside: submissions and drains begin, submissions are cancelled, the
classifier and the store let calls through or change their behaviour, and the store is used past the
engine. `respond` is one such event followed by polling until the engine is at rest.
-/

namespace Predictor.Engine

inductive Stimulus
  | submit (submission : Submission)
  /-- Several submissions begin before any of them runs. -/
  | submitAll (submissions : List Submission)
  | cancel (t : TaskId)
  | drain
  | passGate (resource : String)
  | openGates
  | behave (resource : String) (behaviour : Behaviour)
  | setCreateMode (mode : CallMode)
  | setFinalizeMode (mode : CallMode)
  /-- What is to come of creation calls that were held back. -/
  | setCreatePassage (passage : Passage)
  | setFinalizePassage (passage : Passage)
  | passCreate
  | passFinalize
  /-- The store is used directly. -/
  | createDirectly (owner resource : String)
  | finalizeDirectly (id : PredictionId) (outcome : Outcome)

namespace State

variable {σ : Type}

def grantNext (s : State σ) : Option TaskId → State σ
  | some t => s.grant t
  | none => s

/-- One more permit for creation calls. -/
def passCreate (s : State σ) : State σ :=
  let (t, permits) := s.surroundings.createPermits.add
  (s.withCreatePermits permits).grantNext t

/-- One more permit for finalization calls. -/
def passFinalize (s : State σ) : State σ :=
  let (t, permits) := s.surroundings.finalizePermits.add
  (s.withFinalizePermits permits).grantNext t

/-- A submission that is still running is dropped, and with it the permit and the admission that it
holds. -/
def cancel (s : State σ) (t : TaskId) : State σ :=
  match s.tasks[t]? with
  | some (.submit submission .new) => s.endSubmit t submission .cancelled
  | some (.submit submission (.creating granted)) =>
    let s :=
      if granted then s.passCreate
      else s.withCreatePermits (s.surroundings.createPermits.leave t)
    (s.release submission.resource none).endSubmit t submission .cancelled
  | _ => s

def beginSubmit (s : State σ) (submission : Submission) : State σ :=
  s.spawn (.submit submission .new)

variable [PredictionStore σ]

def apply (s : State σ) : Stimulus → State σ
  | .submit submission => s.beginSubmit submission
  | .submitAll submissions => submissions.foldl beginSubmit s
  | .cancel t => s.cancel t
  | .drain => s.spawn (.drain .new)
  | .passGate resource =>
    let (t, gates) := s.surroundings.gates.admitOne resource
    (s.withGates gates).grantNext t
  | .openGates =>
    let (through, gates) := s.surroundings.gates.openAll
    through.foldl grant (s.withGates gates)
  | .behave resource behaviour =>
    { s with surroundings := { s.surroundings with
      behaviours := (resource, behaviour) :: s.surroundings.behaviours } }
  | .setCreateMode mode => { s with surroundings := { s.surroundings with createMode := mode } }
  | .setFinalizeMode mode =>
    { s with surroundings := { s.surroundings with finalizeMode := mode } }
  | .setCreatePassage passage =>
    { s with surroundings := { s.surroundings with createPassage := passage } }
  | .setFinalizePassage passage =>
    { s with surroundings := { s.surroundings with finalizePassage := passage } }
  | .passCreate => s.passCreate
  | .passFinalize => s.passFinalize
  | .createDirectly owner resource =>
    { s with store := (PredictionStore.create s.store owner resource).2 }
  | .finalizeDirectly id outcome =>
    { s with store := (PredictionStore.finalize s.store id outcome).2 }

/-- An event, and then rest. -/
def respond (s : State σ) (stimulus : Stimulus) : State σ := (s.apply stimulus).settle

end State

/-- The states that a run passes through: events and polls in any order. -/
inductive Reachable {σ : Type} [PredictionStore σ] (initial : State σ) : State σ → Prop
  | start : Reachable initial initial
  | event {s : State σ} (stimulus : Stimulus) : Reachable initial s →
      Reachable initial (s.apply stimulus)
  | poll {s s' : State σ} : Reachable initial s → s.step? = some s' → Reachable initial s'

end Predictor.Engine
