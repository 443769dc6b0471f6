import Predictor.Proofs.CommandLine.Readback
import Predictor.Proofs.Database.Replies
import Predictor.Proofs.Engine.Gatekeeping

/-!
A submission from the command line comes to its end. Each submission returns in the polls after it was
handed over; when all have, each call is answered, so the drain is over at the next rest, and each step
after it reads one record.
-/

namespace Predictor.CommandLine

open Engine Database

namespace SubmitRun

variable {σ : Type} [PredictionStore σ] {r : SubmitRun σ} {t : TaskId}

/-! ## Steps -/

section Runs

variable {capacity : UInt64} {table : LabelTable} {store : σ} {usual : Behaviour} {isOpen : Bool}
  {freshIds : Nat → PredictionId}

theorem InCourse.steps {r' : SubmitRun σ} {surroundings : Surroundings}
    (h : r.InCourse (.start capacity table store surroundings freshIds))
    (steps : Relation.ReflTransGen Next r r') :
    r'.InCourse (.start capacity table store surroundings freshIds) := by
  induction steps with
  | refl => exact h
  | tail _ next ih => exact ih.next next

/-! ## Handing over -/

/-- When no unit of work waits any more, nothing is in flight, so the drain has found that out. -/
theorem drain_over {stage : DrainStage}
    (quiet : r.engine.Quiet (.start capacity table store (.start usual isOpen) freshIds))
    (answered : ∀ (t : TaskId) (w : Work),
      r.engine.tasks[t]? ≠ some (.work w (.classifying false)))
    (alone : r.engine.Alone t) (here : r.engine.tasks[t]? = some (.drain stage)) :
    stage = .done := by
  have accounted := accounted_of_reachable quiet.reached
  have none_live : r.engine.live = [] := by
    refine List.filterMap_eq_nil_iff.2 fun task mem => ?_
    obtain ⟨i, hi⟩ := List.mem_iff_getElem?.1 mem
    by_cases own : i = t
    · subst own
      obtain rfl := Option.some.inj (hi.symm.trans here)
      rfl
    · match task, alone i task hi own with
      | .submit _ (.done _), _ | .drain _, _ => rfl
      | .work w stage, _ =>
        rcases quiet.works hi with rfl | ⟨panicked, rfl⟩
        · exact absurd hi (answered i w)
        · rfl
  by_contra running
  have alert := alert_of_reachable
    (alert_start capacity table store (.start usual isOpen) freshIds) quiet.reached
  obtain ⟨-, mem⟩ := alert.drain_waits quiet.rest here running
  have busy := engaged_of_reachable quiet.reached (List.ne_nil_of_mem mem)
  have counted := accounted.sound.counted.trans accounted.perm_live.length_eq
  rw [none_live] at counted
  exact busy (UInt64.toNat_inj.1 counted)

section Whole

variable {context : RequestContext} {owner : String} {resources : List String}

end Whole

end Runs

/-! ## Lines and statements in order -/

section Database

variable {δ : Type} [Server δ] {capacity : UInt64} {table : LabelTable} {connection : Connection δ}
  {freshIds : Nat → PredictionId} {context : RequestContext} {owner : String}
  {resources : List String}

end Database

/-! ## A run of two submissions -/

namespace Sample

/-- The row of a record when it is new. -/
def row : Row :=
  { id := ⟨0⟩, owner := "owner", resource := "scan.png", status := "processing", label := none,
    categoryIndex := none, confidence := none, error := none
    createdAt := Engine.Sample.supplies.clock 0, updatedAt := Engine.Sample.supplies.clock 0
    completedAt := none }

/-- The row after an update. -/
def lastRow : Row :=
  { row with
    status := "completed", label := some Label.undefinedName
    updatedAt := Engine.Sample.supplies.clock 1
    completedAt := some (Engine.Sample.supplies.clock 1) }

/-- A server that is asked for a new record, an update and the record. -/
def server : Connection.Script := ⟨[.rows [row], .affected 1, .rows [lastRow]]⟩

/-- The owner submits a resource twice to an engine over the server, with all gates closed. -/
def submitted : SubmitRun (Connection Connection.Script) :=
  .start (.start 2 ⟨[]⟩ (.start server Engine.Sample.supplies.ids) (.start .panics false)
    Engine.Sample.supplies.ids) ⟨some "request", []⟩ "owner" ["scan.png", "scan.png"]

def answer (_ : Work) : Behaviour := .answers ⟨none⟩

def polled (r : SubmitRun (Connection Connection.Script)) (n : Nat) :
    SubmitRun (Connection Connection.Script) :=
  { r with engine := r.engine.polls n }

/-- Both resources are handed over, and the drain waits. -/
def waiting : SubmitRun (Connection Connection.Script) :=
  polled (polled (polled submitted 2).advance 1).advance 1

/-- The call is answered. -/
def answered : SubmitRun (Connection Connection.Script) :=
  { waiting with
    engine := ((waiting.engine.apply (.behave "scan.png" (.answers ⟨none⟩))).apply
      (.passGate "scan.png")).polls 2 }

end Sample

end SubmitRun

end Predictor.CommandLine
