/-!
The admission counter and the set of claimed resources. A slot is reserved before the resource is
claimed and given back when the claim fails; releasing an admission gives back both. The counter is a
word of 64 bits, and counting past its ends would wrap around; so each use of it is kept, with the
value that it found.
-/

namespace Predictor.Engine

inductive CounterOperation
  | reserve
  | unreserve
  | release
  deriving DecidableEq, Repr

def CounterOperation.apply : CounterOperation → UInt64 → UInt64
  | .reserve, n => n + 1
  | .unreserve, n => n - 1
  | .release, n => n - 1

/-- An operation on the counter, and the value it found there. -/
structure CounterUse where
  operation : CounterOperation
  found : UInt64
  deriving DecidableEq, Repr

structure Admission where
  capacity : UInt64
  /-- Slots in use. -/
  inFlight : UInt64
  /-- Resources in use, each once. -/
  claimed : List String
  /-- The uses of the counter so far. -/
  uses : List CounterUse
  deriving DecidableEq, Repr

namespace Admission

def empty (capacity : UInt64) : Admission := ⟨capacity, 0, [], []⟩

def atCapacity (a : Admission) : Bool := a.capacity ≤ a.inFlight

def isClaimed (a : Admission) (resource : String) : Bool := a.claimed.contains resource

def count (a : Admission) (operation : CounterOperation) : Admission :=
  { a with inFlight := operation.apply a.inFlight, uses := a.uses ++ [⟨operation, a.inFlight⟩] }

def reserve (a : Admission) : Admission := a.count .reserve

/-- Takes a reservation back. -/
def unreserve (a : Admission) : Admission := a.count .unreserve

/-- Claims a resource that nobody else has claimed. -/
def claim? (a : Admission) (resource : String) : Option Admission :=
  if a.isClaimed resource then none else some { a with claimed := a.claimed ++ [resource] }

def release (a : Admission) (resource : String) : Admission :=
  { a.count .release with claimed := a.claimed.erase resource }

end Admission

end Predictor.Engine
