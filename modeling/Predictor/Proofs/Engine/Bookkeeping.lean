import Mathlib.Algebra.BigOperators.Group.List.Basic
import Mathlib.Algebra.Ring.Int.Defs
import Mathlib.Algebra.Ring.Nat
import Predictor.Database.Connection
import Predictor.Proofs.Engine.Deeds
import Predictor.Store.Memory

/-!
The books of the engine. Each move changes one task and books what it measures, does and calls
(`Booked`). A law gives weights to tasks, measurements, deeds and calls; if each booking is neutral, the
total weight stays zero (`Law.weight_of_reachable`).
-/

namespace Predictor

open Telemetry

/-- Under which result a submission is counted that returns the error. -/
def Error.verdict : Error → SubmissionResult
  | .capacityExceeded _ => .capacityExceeded
  | .duplicateInProgress _ => .duplicate
  | .invalidResource _ => .invalid
  | _ => .error

namespace Engine

variable {σ : Type}

/-! ## Bookings -/

/-- The result of a submission that has returned. -/
def Task.verdict? : Task → Option SubmissionResult
  | .submit _ (.done (.returned (.ok _))) => some .admitted
  | .submit _ (.done (.returned (.error error))) => some error.verdict
  | _ => none

/-- The label under which a call that has returned is recorded, if it has failed. -/
def Answer.fault? : Answer → Option String
  | .ok _ => none
  | .error error => some error.kind

/-- What goes along with the change of a task. -/
structure Booking where
  /-- Units of work that begin. -/
  added : List Task
  measured : List Measurement
  deeds : List Deed
  calls : List Work

/-- The changes of a task, each with what goes along with it. -/
inductive Booked : Task → Task → Booking → Prop
  | same (task : Task) : Booked task task ⟨[], [], [], []⟩
  | occupied (submission : Submission) (g : Bool) :
      Booked (.submit submission .new) (.submit submission (.creating g))
        ⟨[], [.inFlight true], [], []⟩
  | refused (submission : Submission) (error : Error) :
      Booked (.submit submission .new) (.submit submission (.done (.returned (.error error))))
        ⟨[], [.submitted error.verdict], [], []⟩
  | creating (submission : Submission) (g g' : Bool) :
      Booked (.submit submission (.creating g)) (.submit submission (.creating g'))
        ⟨[], [], [], []⟩
  | launched (submission : Submission) (g : Bool) (record : Prediction) (w : Work) :
      Booked (.submit submission (.creating g)) (.submit submission (.done (.returned (.ok record))))
        ⟨[.work w .new], [.submitted .admitted], [], []⟩
  | rolledBack (submission : Submission) (g : Bool) (error : Error)
      (plain : error.verdict = .error) :
      Booked (.submit submission (.creating g))
        (.submit submission (.done (.returned (.error error))))
        ⟨[], [.inFlight false, .submitted .error], [], []⟩
  | createPanicked (submission : Submission) (g : Bool) :
      Booked (.submit submission (.creating g)) (.submit submission (.done .panicked))
        ⟨[], [.inFlight false], [], []⟩
  | withdrawn (submission : Submission) :
      Booked (.submit submission .new) (.submit submission (.done .cancelled)) ⟨[], [], [], []⟩
  | cancelled (submission : Submission) (g : Bool) :
      Booked (.submit submission (.creating g)) (.submit submission (.done .cancelled))
        ⟨[], [.inFlight false], [], []⟩
  | called (w : Work) (g : Bool) :
      Booked (.work w .new) (.work w (.classifying g)) ⟨[], [], [], [w]⟩
  | classifying (w : Work) (g g' : Bool) :
      Booked (.work w (.classifying g)) (.work w (.classifying g')) ⟨[], [], [], []⟩
  | heard (w : Work) (g g' : Bool) (answer : Answer) (outcome : Outcome) :
      Booked (.work w (.classifying g)) (.work w (.finalizing outcome g'))
        ⟨[], [.classified answer.fault?], [.heard answer.behaviour, .asked outcome], []⟩
  | classifyPanicked (w : Work) (g : Bool) :
      Booked (.work w (.classifying g)) (.work w (.done true))
        ⟨[], [.inFlight false], [.heard .panics], []⟩
  | finalizing (w : Work) (outcome : Outcome) (g g' : Bool) :
      Booked (.work w (.finalizing outcome g)) (.work w (.finalizing outcome g')) ⟨[], [], [], []⟩
  | written (w : Work) (outcome : Outcome) (g : Bool) :
      Booked (.work w (.finalizing outcome g)) (.work w (.done false))
        ⟨[], [.finalized outcome.status, .inFlight false], [.told (.ok ())], []⟩
  | unwritten (w : Work) (outcome : Outcome) (g : Bool) (error : Error) :
      Booked (.work w (.finalizing outcome g)) (.work w (.done false))
        ⟨[], [.finalizeFailure, .inFlight false], [.told (.error error)], []⟩
  | finalizePanicked (w : Work) (outcome : Outcome) (g : Bool) :
      Booked (.work w (.finalizing outcome g)) (.work w (.done true))
        ⟨[], [.inFlight false], [.broken], []⟩
  | looked (stage stage' : DrainStage) : Booked (.drain stage) (.drain stage') ⟨[], [], [], []⟩

theorem Booked.grant (task : Task) : Booked task task.grant ⟨[], [], [], []⟩ := by
  match task with
  | .submit submission (.creating g) => exact .creating submission g true
  | .work w (.classifying g) => exact .classifying w g true
  | .work w (.finalizing outcome g) => exact .finalizing w outcome g true
  | .submit _ .new | .submit _ (.done _) | .work _ .new | .work _ (.done _) | .drain _ =>
    exact .same _

/-- What a move does to the books. -/
inductive Turnover : State σ → State σ → Prop
  | still {s s' : State σ} (tasks : s'.tasks = s.tasks) (measured : s'.measured = s.measured)
      (deeds : s'.deeds = s.deeds) (calls : s'.calls = s.calls) : Turnover s s'
  | booked {s s' : State σ} {t : TaskId} {old new : Task} {entry : Booking}
      (here : s.tasks[t]? = some old) (booked : Booked old new entry)
      (tasks : s'.tasks = s.tasks.set t new ++ entry.added)
      (measured : s'.measured = s.measured ++ entry.measured)
      (deeds : s'.deeds = s.deeds ++ entry.deeds.map fun deed => (t, deed))
      (calls : s'.calls = s.calls ++ entry.calls) : Turnover s s'
  | begun {s s' : State σ} {task : Task}
      (fresh : (∃ submission, task = .submit submission .new) ∨ task = .drain .new)
      (tasks : s'.tasks = s.tasks ++ [task]) (measured : s'.measured = s.measured)
      (deeds : s'.deeds = s.deeds) (calls : s'.calls = s.calls) : Turnover s s'

/-- A task changes, and nothing goes along with it. -/
theorem Turnover.set {s s' : State σ} {t : TaskId} {old new : Task}
    (here : s.tasks[t]? = some old) (booked : Booked old new ⟨[], [], [], []⟩)
    (tasks : s'.tasks = s.tasks.set t new) (measured : s'.measured = s.measured)
    (deeds : s'.deeds = s.deeds) (calls : s'.calls = s.calls) : Turnover s s' :=
  .booked here booked (tasks.trans (List.append_nil _).symm)
    (measured.trans (List.append_nil _).symm) (deeds.trans (List.append_nil _).symm)
    (calls.trans (List.append_nil _).symm)

/-- A task changes, and only measurements go along with it. -/
theorem Turnover.measures {s s' : State σ} {t : TaskId} {old new : Task} {ms : List Measurement}
    (here : s.tasks[t]? = some old) (booked : Booked old new ⟨[], ms, [], []⟩)
    (tasks : s'.tasks = s.tasks.set t new) (measured : s'.measured = s.measured ++ ms)
    (deeds : s'.deeds = s.deeds) (calls : s'.calls = s.calls) : Turnover s s' :=
  .booked here booked (tasks.trans (List.append_nil _).symm) measured
    (deeds.trans (List.append_nil _).symm) (calls.trans (List.append_nil _).symm)

/-- A unit of work changes, with measurements and deeds. -/
theorem Turnover.does {s s' : State σ} {t : TaskId} {old new : Task} {ms : List Measurement}
    {own : List Deed} (here : s.tasks[t]? = some old) (booked : Booked old new ⟨[], ms, own, []⟩)
    (tasks : s'.tasks = s.tasks.set t new) (measured : s'.measured = s.measured ++ ms)
    (deeds : s'.deeds = s.deeds ++ own.map fun deed => (t, deed)) (calls : s'.calls = s.calls) :
    Turnover s s' :=
  .booked here booked (tasks.trans (List.append_nil _).symm) measured deeds
    (calls.trans (List.append_nil _).symm)

theorem turnover_grant (s : State σ) (t : TaskId) : Turnover s (s.grant t) := by
  cases here : s.tasks[t]? with
  | none => exact .still (List.modify_eq_self (List.getElem?_eq_none_iff.1 here)) rfl rfl rfl
  | some task => exact .set here (.grant task) (tasks_grant here) rfl rfl rfl

theorem turnover_grants (s : State σ) (through : List TaskId) :
    Relation.ReflTransGen Turnover s (through.foldl State.grant s) := by
  induction through generalizing s with
  | nil => exact .refl
  | cons t rest ih => exact .head (turnover_grant s t) (ih (s.grant t))

theorem turnover_grantNext (s : State σ) (next : Option TaskId) :
    Relation.ReflTransGen Turnover s (s.grantNext next) := by
  rw [grantNext_eq]
  exact turnover_grants s next.toList

theorem turnover_advance {t : TaskId} {s s' : State σ} (move : Advance t s s') :
    Turnover s s' := by
  cases move with
  | occupy here => exact .measures here (.occupied _ true) rfl rfl rfl rfl
  | createPermit | finalizePermit => exact .still rfl rfl rfl rfl
  | call here =>
    exact .booked here (.called _ true) (List.append_nil _).symm (List.append_nil _).symm
      (List.append_nil _).symm rfl
  | @answered w raw here =>
    exact .does here (.heard w true true (.ok raw) _) rfl rfl (List.append_assoc _ _ _) rfl
  | @unanswered w error here =>
    rw [unanswered_eq]
    exact .does here (.heard w true true (.error error) _) rfl rfl rfl rfl

section Moves

variable [PredictionStore σ]

/-- Errors of the store's creation calls are none of the engine's own refusals. -/
def PlainStore (σ : Type) [PredictionStore σ] : Prop :=
  ∀ (store store' : σ) (owner resource : String) (error : Error),
    PredictionStore.create store owner resource = (.error error, store') → error.verdict = .error

theorem plainStore_memory : PlainStore MemoryStore := by
  intro store store' owner resource error refused
  cases refused

theorem plainStore_connection {δ : Type} [Database.Server δ] :
    PlainStore (Database.Connection δ) := by
  intro c c' owner resource error refused
  have failed : Database.Connection.created
      (c.send (.insert (c.ids c.issued) owner resource)).1 = .error error :=
    congrArg Prod.fst refused
  revert failed
  generalize (c.send (.insert (c.ids c.issued) owner resource)).1 = reply
  intro failed
  cases reply with
  | failed fault =>
    cases failed
    rfl
  | statuses | affected =>
    cases failed
    rfl
  | rows rows =>
    cases rows with
    | nil =>
      cases failed
      rfl
    | cons row rest =>
      have unread : row.toPrediction = .error error := failed
      cases read : Status.ofText row.status with
      | ok status =>
        rw [Database.Row.toPrediction, read] at unread
        cases unread
      | error problem =>
        rw [Database.Row.toPrediction, read] at unread
        cases unread
        unfold Status.ofText at read
        split at read <;> cases read
        rfl

theorem CreateRefused.plain {s : State σ} {submission : Submission} {error : Error} {store : σ}
    (plain : PlainStore σ) (h : CreateRefused s submission error store) :
    error.verdict = .error := by
  rcases h with ⟨-, rfl, -⟩ | refused
  · rfl
  · exact plain _ _ _ _ _ refused

theorem turnover_halt (plain : PlainStore σ) {t : TaskId} {s s' : State σ} (move : Halt t s s') :
    Turnover s s' := by
  cases move with
  | asleep => exact .still rfl rfl rfl rfl
  | unnamed here | full here | duplicate here =>
    exact .measures here (.refused _ _) rfl rfl rfl rfl
  | launched here =>
    exact .booked here (.launched _ true _ _) rfl rfl (List.append_nil _).symm
      (List.append_nil _).symm
  | rolledBack here refused =>
    exact .measures here (.rolledBack _ true _ (refused.plain plain)) rfl (List.append_assoc _ _ _)
      rfl rfl
  | createPanicked here => exact .measures here (.createPanicked _ true) rfl rfl rfl rfl
  | createHeld here => exact .set here (.creating _ true false) rfl rfl rfl rfl
  | gateHeld here =>
    exact .booked here (.called _ false) (List.append_nil _).symm (List.append_nil _).symm
      (List.append_nil _).symm rfl
  | classifyPanicked here => exact .does here (.classifyPanicked _ true) rfl rfl rfl rfl
  | finalizePanicked here => exact .does here (.finalizePanicked _ _ true) rfl rfl rfl rfl
  | @written w outcome _ here =>
    exact .does here (.written w outcome true) rfl (List.append_assoc _ _ _) rfl rfl
  | @unwritten w outcome error _ here =>
    exact .does here (.unwritten w outcome true error) rfl (List.append_assoc _ _ _) rfl rfl
  | finalizeHeld here => exact .set here (.finalizing _ _ true false) rfl rfl rfl rfl
  | checked here =>
    unfold State.checkIdle
    split <;> exact .set here (.looked _ _) rfl rfl rfl rfl

theorem turnover_outside {s s' : State σ} (move : Outside s s') :
    Relation.ReflTransGen Turnover s s' := by
  cases move with
  | submit submission => exact .single (.begun (.inl ⟨submission, rfl⟩) rfl rfl rfl rfl)
  | drain => exact .single (.begun (.inr rfl) rfl rfl rfl rfl)
  | cancelNew here => exact .single (.set here (.withdrawn _) rfl rfl rfl rfl)
  | cancelWaiting here => exact .single (.measures here (.cancelled _ false) rfl rfl rfl rfl)
  | cancelGranted here => exact .single (.measures here (.cancelled _ true) rfl rfl rfl rfl)
  | passCreate | passFinalize | passGate =>
    refine .head ?_ (turnover_grantNext _ _)
    exact .still rfl rfl rfl rfl
  | openGates =>
    refine .head ?_ (turnover_grants _ _)
    exact .still rfl rfl rfl rfl
  | behave | setCreateMode | setFinalizeMode | setCreatePassage | setFinalizePassage | createDirectly
  | finalizeDirectly =>
    exact .single (.still rfl rfl rfl rfl)

theorem turnover_transition (plain : PlainStore σ) {s s' : State σ} (move : Transition s s') :
    Relation.ReflTransGen Turnover s s' := by
  cases move with
  | take => exact .single (.still rfl rfl rfl rfl)
  | advance first => exact .single (turnover_advance first)
  | halt last => exact .single (turnover_halt plain last)
  | outside move => exact turnover_outside move

end Moves

/-! ## Laws -/

/-- Weights for what the books hold. -/
structure Law where
  task : Task → Int
  measurement : Measurement → Int
  deed : Deed → Int
  call : Int

namespace Law

def ofBooking (law : Law) (entry : Booking) : Int :=
  (entry.added.map law.task).sum + (entry.measured.map law.measurement).sum +
    (entry.deeds.map law.deed).sum + entry.calls.length * law.call

def weight (law : Law) (s : State σ) : Int :=
  (s.tasks.map law.task).sum + (s.measured.map law.measurement).sum +
    (s.deeds.map fun entry => law.deed entry.2).sum + s.calls.length * law.call

/-- No booking changes the balance. -/
structure Neutral (law : Law) : Prop where
  booked : ∀ {old new : Task} {entry : Booking}, Booked old new entry →
    law.task new + law.ofBooking entry = law.task old
  submit : ∀ submission, law.task (.submit submission .new) = 0
  drain : law.task (.drain .new) = 0

theorem sum_set (law : Law) {tasks : List Task} {t : TaskId} {old : Task} (new : Task)
    (here : tasks[t]? = some old) :
    ((tasks.set t new).map law.task).sum + law.task old =
      (tasks.map law.task).sum + law.task new := by
  induction tasks generalizing t with
  | nil => simp at here
  | cons first rest ih =>
    cases t with
    | zero =>
      obtain rfl := Option.some.inj here
      simp only [List.set_cons_zero, List.map_cons, List.sum_cons]
      omega
    | succ t =>
      have later := ih (t := t) here
      simp only [List.set_cons_succ, List.map_cons, List.sum_cons]
      omega

variable {law : Law}

theorem weight_turnover (neutral : law.Neutral) {s s' : State σ} (h : Turnover s s') :
    law.weight s' = law.weight s := by
  cases h with
  | still tasks measured deeds calls => rw [weight, tasks, measured, deeds, calls, weight]
  | @booked t old new entry here booked tasks measured deeds calls =>
    have change := sum_set law new here
    have balance := neutral.booked booked
    have own : ((entry.deeds.map fun deed => (t, deed)).map fun e => law.deed e.2) =
        entry.deeds.map law.deed := by
      rw [List.map_map]
      rfl
    simp only [ofBooking] at balance
    simp only [weight, tasks, measured, deeds, calls, List.map_append, List.sum_append, own,
      List.length_append, Int.natCast_add, Int.add_mul]
    omega
  | @begun task fresh tasks measured deeds calls =>
    have weightless : law.task task = 0 := by
      rcases fresh with ⟨submission, rfl⟩ | rfl
      · exact neutral.submit submission
      · exact neutral.drain
    simp only [weight, tasks, measured, deeds, calls, List.map_append, List.sum_append,
      List.map_singleton, List.sum_singleton, weightless, Int.add_zero]

/-- A law whose bookings are neutral holds in every run. -/
theorem weight_of_reachable [PredictionStore σ] (neutral : law.Neutral) (plain : PlainStore σ)
    {capacity : UInt64} {table : LabelTable} {store : σ} {surroundings : Surroundings}
    {freshIds : Nat → PredictionId} {s : State σ}
    (h : Reachable (State.start capacity table store surroundings freshIds) s) :
    law.weight s = 0 := by
  refine h.invariant (P := fun r => law.weight r = 0) ?_ fun move hr => ?_
  · simp [weight, State.start]
  · have chain := turnover_transition plain move
    clear move
    induction chain with
    | refl => exact hr
    | tail _ last ih => exact (weight_turnover neutral last).trans ih

end Law

end Engine

end Predictor
