/-!
Permits let waiting tasks through, first come first served. Permits that nobody waits for add up. A
gate holds the calls for one resource back; the gates of all resources can be opened for good.
-/

namespace Predictor.Engine

/-- A task by its place in the order of creation. -/
abbrev TaskId := Nat

structure Permits where
  free : Nat
  /-- Tasks that wait, the first comer first. -/
  waiting : List TaskId
  deriving DecidableEq, Repr

namespace Permits

def none : Permits := ⟨0, []⟩

/-- Takes a free permit, or joins those who wait; also says whether a permit was taken. -/
def acquire (p : Permits) (t : TaskId) : Bool × Permits :=
  if 0 < p.free then (true, { p with free := p.free - 1 })
  else (false, { p with waiting := p.waiting ++ [t] })

/-- One more permit: the task that gets it, or none when it stays free. -/
def add (p : Permits) : Option TaskId × Permits :=
  match p.waiting with
  | [] => (.none, { p with free := p.free + 1 })
  | t :: rest => (some t, { p with waiting := rest })

/-- A task waits no longer. -/
def leave (p : Permits) (t : TaskId) : Permits := { p with waiting := p.waiting.erase t }

end Permits

structure Gates where
  /-- Open for good, for every resource. -/
  isOpen : Bool
  /-- The gates met so far. -/
  gates : List (String × Permits)
  deriving DecidableEq, Repr

namespace Gates

def permits (g : Gates) (resource : String) : Permits := (g.gates.lookup resource).getD .none

def put (g : Gates) (resource : String) (p : Permits) : Gates :=
  { g with gates := (resource, p) :: g.gates.filter fun gate => gate.1 != resource }

/-- A call arrives at a gate; also says whether it goes through. -/
def enter (g : Gates) (resource : String) (t : TaskId) : Bool × Gates :=
  if g.isOpen then (true, g)
  else
    let (through, p) := (g.permits resource).acquire t
    (through, g.put resource p)

/-- Lets one call through a gate, now or when it arrives. -/
def admitOne (g : Gates) (resource : String) : Option TaskId × Gates :=
  if g.isOpen then (.none, g)
  else
    let (t, p) := (g.permits resource).add
    (t, g.put resource p)

/-- Opens all gates; those who wait go through in ascending order of their resources. -/
def openAll (g : Gates) : List TaskId × Gates :=
  let ordered := g.gates.mergeSort fun a b => a.1 ≤ b.1
  (ordered.flatMap fun gate => gate.2.waiting, ⟨true, []⟩)

end Gates

end Predictor.Engine
