import Predictor.Classifier.Fault
import Predictor.Engine.Permits
import Predictor.RawResult

/-!
What the engine meets outside itself: a classifier that holds each call at the gate of its resource
and then answers, fails or panics, and a store whose calls may fail, panic or be held back; a call that
was held back goes on, fails or panics when it is let through.
-/

namespace Predictor.Engine

/-- What the classifier does with a call that has passed its gate. -/
inductive Behaviour
  | answers (raw : RawResult)
  | fails (error : ClassifyError)
  | panics
  deriving DecidableEq, Repr

/-- What comes of a call of the store that is not held back, or no longer. -/
inductive Passage
  /-- The store acts on it. -/
  | proceeds
  | fails
  | panics
  deriving DecidableEq, Repr

/-- What the store does with a call, before the call itself. -/
inductive CallMode
  | ok
  | fail
  | panic
  | hold
  deriving DecidableEq, Repr

/-- The mode of calls of which this comes at once. -/
def Passage.mode : Passage → CallMode
  | .proceeds => .ok
  | .fails => .fail
  | .panics => .panic

/-- The store takes the call, at once or when it lets the call go on. -/
def CallMode.Takes (mode : CallMode) : Prop := mode = .ok ∨ mode = .hold

structure Surroundings where
  gates : Gates
  /-- Behaviours set so far, the latest first. -/
  behaviours : List (String × Behaviour)
  /-- The behaviour of all other resources. -/
  usual : Behaviour
  createMode : CallMode
  finalizeMode : CallMode
  createPermits : Permits
  finalizePermits : Permits
  /-- What comes of a creation call that was held back, once it is let through. -/
  createPassage : Passage
  finalizePassage : Passage
  deriving DecidableEq, Repr

namespace Surroundings

def start (usual : Behaviour) (isOpen : Bool) : Surroundings :=
  { gates := ⟨isOpen, []⟩, behaviours := [], usual, createMode := .ok, finalizeMode := .ok
    createPermits := .none, finalizePermits := .none, createPassage := .proceeds
    finalizePassage := .proceeds }

def behaviourOf (w : Surroundings) (resource : String) : Behaviour :=
  (w.behaviours.lookup resource).getD w.usual

end Surroundings

end Predictor.Engine
