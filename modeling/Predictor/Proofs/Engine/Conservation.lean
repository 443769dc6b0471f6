import Predictor.Proofs.Engine.Accounting
import Predictor.Proofs.Engine.Aftermath
import Predictor.Proofs.Engine.Bookkeeping
import Predictor.Proofs.Engine.Filing
import Predictor.Proofs.Store.Independence
import Predictor.Proofs.Telemetry.Totals

/-!
What is measured accounts for all work: the balances of the instruments are laws of the books, and a
finalization is counted when the store has confirmed it, which the store in memory does when the record
moves (`metrics_conserve_work`).
-/

namespace Predictor.Engine

open Telemetry

variable {σ : Type}

/-! ## The laws of the engine -/

theorem sum_indicator {α : Type} (p : α → Bool) (k : Int) (list : List α) :
    (list.map fun x => if p x then k else 0).sum = list.countP p * k := by
  induction list with
  | nil => simp
  | cons x rest ih =>
    rw [List.map_cons, List.sum_cons, ih, List.countP_cons]
    split <;> simp [Int.add_mul, Int.add_comm]

theorem sum_nothing {α : Type} (list : List α) : (list.map fun _ => (0 : Int)).sum = 0 := by
  simp

/-- The call has returned, with scores or with an error of this kind. -/
def Deed.returns (fault : Option String) : Deed → Bool
  | .heard (.answers _) => fault == none
  | .heard (.fails error) => fault == some error.kind
  | _ => false

/-- The call is over, also if it has panicked. -/
def Deed.isHeard : Deed → Bool
  | .heard _ => true
  | _ => false

namespace Task

def isUnit : Task → Bool
  | .work .. => true
  | _ => false

/-- A unit of work that has called the classifier. -/
def hasCalled : Task → Bool
  | .work _ .new => false
  | .work .. => true
  | _ => false

/-- A unit of work whose classification call is over. -/
def hasHeard : Task → Bool
  | .work _ .new | .work _ (.classifying _) => false
  | .work .. => true
  | _ => false

/-- A unit of work that is over, by a panic or not. -/
def isDone (panicked : Bool) : Task → Bool
  | .work _ (.done how) => how == panicked
  | _ => false

end Task

namespace Law

/-- Submissions that have returned are counted under their result. -/
def submissions (result : SubmissionResult) : Law where
  task task := if task.verdict? == some result then 1 else 0
  measurement m := if m == .submitted result then -1 else 0
  deed _ := 0
  call := 0

theorem neutral_submissions (result : SubmissionResult) : (submissions result).Neutral where
  booked booked := by
    cases booked <;> simp [submissions, ofBooking, Task.verdict?, *]
    case refused => split <;> rfl
    case launched => split <;> rfl
    case rolledBack => split <;> rfl
  submit _ := rfl
  drain := rfl

/-- Each submission that is admitted begins a unit of work. -/
def units : Law where
  task task := if task.isUnit then 1 else 0
  measurement m := if m == .submitted .admitted then -1 else 0
  deed _ := 0
  call := 0

/-- An error is never counted as an admission. -/
theorem verdict_ne_admitted (error : Error) : error.verdict ≠ .admitted := by
  cases error <;> simp [Error.verdict]

theorem neutral_units : units.Neutral where
  booked booked := by
    cases booked <;> simp [units, ofBooking, Task.isUnit, verdict_ne_admitted]
  submit _ := rfl
  drain := rfl

/-- Each unit of work that is over and has not panicked is counted by the reply of the store. -/
def outcomes : Law where
  task task := if task.isDone false then 1 else 0
  measurement m := (if m == .finalized .completed then -1 else 0) +
    (if m == .finalized .failed then -1 else 0) + if m == .finalizeFailure then -1 else 0
  deed _ := 0
  call := 0

theorem neutral_outcomes : outcomes.Neutral where
  booked booked := by
    cases booked <;> simp [outcomes, ofBooking, Task.isDone]
    case written w outcome g => cases outcome <;> simp [Outcome.status]
  submit _ := rfl
  drain := rfl

/-- Calls that have returned are recorded under their result. -/
def returns (fault : Option String) : Law where
  task _ := 0
  measurement m := if m == .classified fault then -1 else 0
  deed deed := if deed.returns fault then 1 else 0
  call := 0

theorem neutral_returns (fault : Option String) : (returns fault).Neutral where
  booked booked := by
    cases booked <;> simp [returns, ofBooking, Deed.returns]
    case heard w g g' answer outcome =>
      cases answer with
      | ok raw => cases fault <;> simp [Answer.fault?, Answer.behaviour]
      | error error =>
        by_cases same : fault = some error.kind
        · simp [Answer.fault?, Answer.behaviour, same]
        · simp [Answer.fault?, Answer.behaviour, same, Ne.symm same]
  submit _ := rfl
  drain := rfl

/-- Each unit of work that is past its first step has called the classifier once. -/
def calls : Law where
  task task := if task.hasCalled then -1 else 0
  measurement _ := 0
  deed _ := 0
  call := 1

theorem neutral_calls : calls.Neutral where
  booked booked := by
    cases booked <;> simp [calls, ofBooking, Task.hasCalled]
  submit _ := rfl
  drain := rfl

/-- Each unit of work that is past its call has heard of it once. -/
def hearings : Law where
  task task := if task.hasHeard then -1 else 0
  measurement _ := 0
  deed deed := if deed.isHeard then 1 else 0
  call := 0

theorem neutral_hearings : hearings.Neutral where
  booked booked := by
    cases booked <;> simp [hearings, ofBooking, Task.hasHeard, Deed.isHeard]
  submit _ := rfl
  drain := rfl

end Law

/-! ## Balances -/

section Balances

variable [PredictionStore σ] (plain : PlainStore σ) {capacity : UInt64} {table : LabelTable}
  {store : σ} {surroundings : Surroundings} {freshIds : Nat → PredictionId} {s : State σ}
  (h : Reachable (State.start capacity table store surroundings freshIds) s)

include plain h

theorem count_submitted (result : SubmissionResult) :
    s.measured.count (.submitted result) =
      s.tasks.countP fun task => task.verdict? == some result := by
  have zero := Law.weight_of_reachable (Law.neutral_submissions result) plain h
  simp only [Law.weight, Law.submissions, sum_indicator, sum_nothing] at zero
  rw [List.count_eq_countP]
  omega

theorem count_admitted :
    s.measured.count (.submitted .admitted) = s.tasks.countP Task.isUnit := by
  have zero := Law.weight_of_reachable Law.neutral_units plain h
  simp only [Law.weight, Law.units, sum_indicator, sum_nothing] at zero
  rw [List.count_eq_countP]
  omega

theorem count_outcomes :
    s.measured.count (.finalized .completed) + s.measured.count (.finalized .failed) +
      s.measured.count .finalizeFailure = s.tasks.countP (Task.isDone false) := by
  have zero := Law.weight_of_reachable Law.neutral_outcomes plain h
  simp only [Law.weight, Law.outcomes, List.sum_map_add, sum_indicator, sum_nothing] at zero
  rw [List.count_eq_countP, List.count_eq_countP, List.count_eq_countP]
  omega

theorem count_classified (fault : Option String) :
    s.measured.count (.classified fault) =
      s.deeds.countP fun entry => entry.2.returns fault := by
  have zero := Law.weight_of_reachable (Law.neutral_returns fault) plain h
  simp only [Law.weight, Law.returns, sum_indicator, sum_nothing] at zero
  rw [List.count_eq_countP]
  omega

theorem length_calls : s.calls.length = s.tasks.countP Task.hasCalled := by
  have zero := Law.weight_of_reachable Law.neutral_calls plain h
  simp only [Law.weight, Law.calls, sum_indicator, sum_nothing] at zero
  omega

theorem count_heard :
    s.deeds.countP (fun entry => entry.2.isHeard) = s.tasks.countP Task.hasHeard := by
  have zero := Law.weight_of_reachable Law.neutral_hearings plain h
  simp only [Law.weight, Law.hearings, sum_indicator, sum_nothing] at zero
  omega

end Balances

/-! ## Groups of tasks and deeds -/

namespace Task

/-- A submission that has come to its end, and neither by cancellation nor by a panic. -/
def hasReturned : Task → Bool
  | .submit _ (.done (.returned _)) => true
  | _ => false

/-- A unit of work that is not over. -/
def isRunning : Task → Bool
  | .work _ (.done _) => false
  | .work .. => true
  | _ => false

/-- A unit of work that is inside its classification call. -/
def isClassifying : Task → Bool
  | .work _ (.classifying _) => true
  | _ => false

theorem hasReturned_eq (task : Task) : task.hasReturned = task.verdict?.isSome := by
  rcases task with ⟨_, _ | _ | ⟨⟨_ | _⟩ | _ | _⟩⟩ | _ | _ <;> rfl

end Task

/-- The classification call has panicked. -/
def Deed.isPanic : Deed → Bool
  | .heard .panics => true
  | _ => false

/-- What a submission can be counted under. -/
def results : List SubmissionResult := [.admitted, .capacityExceeded, .duplicate, .invalid, .error]

/-- What a classification call can be recorded under: success, or the kind of its error. -/
def faults : List (Option String) :=
  [none, some "bad_input", some "forbidden", some "not_found", some "internal"]

/-- What each element satisfies as often as one of several predicates is counted by all of them. -/
theorem countP_eq_sum {α ι : Type} (p : α → Bool) (q : ι → α → Bool) (kinds : List ι)
    (split : ∀ x, (if p x then 1 else 0) = (kinds.map fun i => if q i x then 1 else 0).sum)
    (list : List α) : list.countP p = (kinds.map fun i => list.countP (q i)).sum := by
  induction list with
  | nil => simp
  | cons x rest ih =>
    simp only [List.countP_cons, List.sum_map_add, ih, split x]

theorem countP_returned (tasks : List Task) :
    tasks.countP Task.hasReturned =
      (results.map fun result => tasks.countP fun task => task.verdict? == some result).sum := by
  refine countP_eq_sum _ (fun result (task : Task) => task.verdict? == some result) results
    (fun task => ?_) tasks
  rw [Task.hasReturned_eq]
  cases task.verdict? with
  | none => rfl
  | some result => cases result <;> rfl

theorem countP_units (tasks : List Task) :
    tasks.countP Task.isUnit = tasks.countP (Task.isDone false) + tasks.countP (Task.isDone true) +
      tasks.countP Task.isRunning := by
  have split : tasks.countP Task.isUnit = tasks.countP (Task.isDone false) +
      (tasks.countP (Task.isDone true) + (tasks.countP Task.isRunning + 0)) :=
    countP_eq_sum Task.isUnit id [Task.isDone false, Task.isDone true, Task.isRunning]
      (fun task => by rcases task with _ | ⟨_, _ | _ | _ | ⟨_ | _⟩⟩ | _ <;> rfl) tasks
  omega

theorem countP_called (tasks : List Task) :
    tasks.countP Task.hasCalled =
      tasks.countP Task.hasHeard + tasks.countP Task.isClassifying := by
  have split : tasks.countP Task.hasCalled =
      tasks.countP Task.hasHeard + (tasks.countP Task.isClassifying + 0) :=
    countP_eq_sum Task.hasCalled id [Task.hasHeard, Task.isClassifying]
      (fun task => by rcases task with _ | ⟨_, _ | _ | _ | _⟩ | _ <;> rfl) tasks
  omega

/-- A call that is over has returned under one of the labels, or it has panicked. -/
theorem countP_heard (deeds : List (TaskId × Deed)) :
    deeds.countP (fun entry => entry.2.isHeard) =
      (faults.map fun fault => deeds.countP fun entry => entry.2.returns fault).sum +
        deeds.countP fun entry => entry.2.isPanic := by
  have split := countP_eq_sum (fun entry : TaskId × Deed => entry.2.isHeard)
    (fun p (entry : TaskId × Deed) => p entry.2) (faults.map Deed.returns ++ [Deed.isPanic])
    (fun entry => ?_) deeds
  · simp only [List.map_append, List.map_map, Function.comp_def, List.sum_append, List.map_cons,
      List.map_nil, List.sum_cons, List.sum_nil] at split
    exact split
  · obtain ⟨t, deed⟩ := entry
    match deed with
    | .heard (.answers raw) => rfl
    | .heard (.fails error) => cases error <;> rfl
    | .heard .panics | .asked _ | .told _ | .broken => rfl

/-! ## Outcomes that the store has written -/

/-- The store has confirmed that it has written the outcome. -/
def Deed.isConfirmed : Deed → Bool
  | .told (.ok _) => true
  | _ => false

/-- The deeds of a unit for which the store has written an outcome of this status. -/
def wrote (status : Status) : List Deed → Bool
  | [_, .asked outcome, .told (.ok _)] => outcome.status == status
  | _ => false

/-- For how many units the store has written an outcome of this status. -/
def State.writes (s : State σ) (status : Status) : Nat :=
  s.deeds.countP fun entry => entry.2.isConfirmed && wrote status (s.deedsOf entry.1)

theorem measured_grants (through : List TaskId) (s : State σ) :
    (through.foldl State.grant s).measured = s.measured := by
  rw [grants_eq]

theorem measured_grantNext (next : Option TaskId) (s : State σ) :
    (s.grantNext next).measured = s.measured := by
  rw [grantNext_eq, measured_grants]

section Written

variable {status : Status} {s s' : State σ}

theorem writes_eq (deeds : s'.deeds = s.deeds) : s'.writes status = s.writes status := by
  simp only [State.writes, State.deedsOf, deeds]

/-- New deeds of a unit that the store has not yet answered. -/
theorem writes_append {t : TaskId} {own : List Deed}
    (deeds : s'.deeds = s.deeds ++ own.map fun deed => (t, deed))
    (quiet : ∀ deed ∈ s.deedsOf t, deed.isConfirmed = false) :
    s'.writes status = s.writes status +
      own.countP fun deed => deed.isConfirmed && wrote status (s.deedsOf t ++ own) := by
  have split (i : TaskId) :
      s'.deedsOf i = s.deedsOf i ++ deedsIn i (own.map fun deed => (t, deed)) := by
    rw [State.deedsOf, deeds, deedsIn_append, State.deedsOf]
  rw [State.writes, deeds, List.countP_append, List.countP_map]
  congr 1
  · refine List.countP_congr fun entry mem => ?_
    by_cases mine : entry.1 = t
    · have unconfirmed := quiet entry.2 (mem_deedsIn.2 (mine ▸ mem))
      simp [unconfirmed]
    · rw [split, deedsIn_other mine, List.append_nil]
  · refine List.countP_congr fun deed _ => ?_
    simp only [Function.comp_apply]
    rw [split, deedsIn_own]

/-- The finalization is counted that the store confirms. -/
theorem Turnover.count_finalized (recorded : Recorded s) (turn : Turnover s s') (status : Status) :
    s'.measured.count (.finalized status) + s.writes status =
      s.measured.count (.finalized status) + s'.writes status := by
  cases turn with
  | still tasks measured deeds calls | begun fresh tasks measured deeds calls =>
    rw [measured, writes_eq deeds]
  | @booked t old new entry here booked tasks measured deeds calls =>
    have did := recorded.did here
    have quiet {w : Work} {stage : WorkStage} (mine : old = .work w stage)
        (open_ : ∀ how, stage ≠ .done how) : ∀ deed ∈ s.deedsOf t, deed.isConfirmed = false := by
      subst mine
      generalize s.deedsOf t = earlier at did
      cases did with
      | new | classifying => simp
      | finalizing => simp [Deed.isConfirmed]
      | classifyPanicked | finalizePanicked | finalized => exact absurd rfl (open_ _)
    rw [measured, List.count_append]
    cases booked with
    | heard | classifyPanicked | unwritten | finalizePanicked =>
      rw [writes_append deeds (quiet rfl (by simp))]
      simp [Deed.isConfirmed, Nat.add_comm]
    | written w outcome g =>
      rw [writes_append deeds (quiet rfl (by simp))]
      generalize s.deedsOf t = earlier at did
      cases did
      simp [Deed.isConfirmed, wrote, List.count_cons]
      omega
    | same | occupied | refused | creating | launched | rolledBack | createPanicked | withdrawn
    | cancelled | called | classifying | finalizing | looked =>
      rw [writes_eq (deeds.trans (List.append_nil _))]
      simp

theorem Outside.count_finalized [PredictionStore σ] (move : Outside s s') :
    s'.measured.count (.finalized status) = s.measured.count (.finalized status) := by
  have released : (s.measured ++ [Measurement.inFlight false]).count (Measurement.finalized status) =
      s.measured.count (Measurement.finalized status) := by
    simp
  cases move with
  | cancelWaiting | cancelGranted => exact released
  | passCreate => exact congrArg _ (measured_grantNext _ _)
  | passFinalize => exact congrArg _ (measured_grantNext _ _)
  | passGate => exact congrArg _ (measured_grantNext _ _)
  | openGates => exact congrArg _ (measured_grants _ _)
  | submit | drain | cancelNew | behave | setCreateMode | setFinalizeMode | setCreatePassage
  | setFinalizePassage | createDirectly | finalizeDirectly => rfl

theorem count_finalized [PredictionStore σ] (plain : PlainStore σ) {capacity : UInt64}
    {table : LabelTable} {store : σ} {surroundings : Surroundings} {freshIds : Nat → PredictionId}
    (h : Reachable (State.start capacity table store surroundings freshIds) s) :
    s.measured.count (.finalized status) = s.writes status := by
  refine (h.invariant (P := fun r => Recorded r ∧ r.measured.count (.finalized status) =
    r.writes status) ⟨recorded_start .., rfl⟩ fun move hr => ⟨hr.1.transition move, ?_⟩).2
  obtain ⟨recorded, earlier⟩ := hr
  cases move with
  | take => exact earlier
  | advance first =>
    have step := (turnover_advance first).count_finalized recorded status
    omega
  | halt last =>
    have step := (turnover_halt plain last).count_finalized recorded status
    omega
  | outside move => rw [move.count_finalized, earlier, writes_eq move.deeds_eq]

end Written

/-! ## Records that background work has moved -/

/-- A run to the state in which polls have moved so many records to the status. Only units of work
finalize records in their polls; what uses the store directly is not counted. -/
inductive Moved (status : Status) (initial : State MemoryStore) : State MemoryStore → Nat → Prop
  | start : Moved status initial initial 0
  | event {s : State MemoryStore} {n : Nat} (stimulus : Stimulus) (before : Moved status initial s n) :
      Moved status initial (s.apply stimulus) n
  | poll {s s' : State MemoryStore} {n : Nat} (before : Moved status initial s n)
      (step : s.step? = some s') :
      Moved status initial s' (n + s.store.moved s'.store status)

theorem Moved.reachable {status : Status} {initial s : State MemoryStore} {n : Nat}
    (h : Moved status initial s n) : Reachable initial s := by
  induction h with
  | start => exact .start
  | event stimulus _ ih => exact ih.event stimulus
  | poll _ step ih => exact ih.poll step

section Finalized

variable {status : Status}

theorem Advance.count_finalized {t : TaskId} {s s' : State σ} (move : Advance t s s') :
    s'.measured.count (.finalized status) = s.measured.count (.finalized status) := by
  cases move with
  | unanswered =>
    rw [unanswered_eq]
    simp
  | occupy => simp [State.occupy, State.measure, State.setTask]
  | answered => simp [State.answered, State.ask, State.measure, State.note, State.setTask]
  | createPermit | call | finalizePermit => rfl

/-- What is measured goes with what is moved. -/
theorem count_of_moved {s s' : State MemoryStore} (ms : List Measurement)
    (measured : s'.measured = s.measured ++ ms)
    (moved : s.store.moved s'.store status = ms.count (.finalized status)) :
    s'.measured.count (.finalized status) =
      s.measured.count (.finalized status) + s.store.moved s'.store status := by
  rw [measured, List.count_append, moved]

/-- A poll counts the record that it moves. -/
theorem Halt.count_finalized {t : TaskId} {s s' : State MemoryStore} (move : Halt t s s')
    (sound : s.store.Sound) (unique : s'.store.Unique) :
    s'.measured.count (.finalized status) =
      s.measured.count (.finalized status) + s.store.moved s'.store status := by
  have nothing : s.measured = s.measured ++ [] := (List.append_nil _).symm
  have still {store : MemoryStore} (same : store = s.store) : s.store.moved store status = 0 :=
    same ▸ MemoryStore.moved_same sound.distinct status
  cases move with
  | launched _ created =>
    obtain ⟨-, rfl⟩ := create_memory created
    exact count_of_moved [.submitted .admitted] rfl
      (MemoryStore.moved_create sound _ _ unique status)
  | @written w outcome store _ stored =>
    refine count_of_moved [.finalized outcome.status, .inFlight false] (List.append_assoc _ _ _) ?_
    refine (MemoryStore.moved_finalize sound.distinct stored status).trans ?_
    simp [List.count_cons]
  | rolledBack _ refused =>
    exact count_of_moved [.inFlight false, .submitted .error] (List.append_assoc _ _ _)
      (still refused.store_eq)
  | unwritten _ refused =>
    exact count_of_moved [.finalizeFailure, .inFlight false] (List.append_assoc _ _ _)
      (still refused.store_eq)
  | unnamed | full | duplicate => exact count_of_moved [.submitted _] rfl (still rfl)
  | createPanicked | classifyPanicked | finalizePanicked =>
    exact count_of_moved [.inFlight false] rfl (still rfl)
  | asleep | createHeld | gateHeld | finalizeHeld => exact count_of_moved [] nothing (still rfl)
  | checked =>
    unfold State.checkIdle
    split <;> exact count_of_moved [] nothing (still rfl)

theorem Polled.count_finalized {t : TaskId} {s s' : State MemoryStore} (poll : Polled t s s')
    (sound : s.store.Sound) (unique : s'.store.Unique) (status : Status) :
    s'.measured.count (.finalized status) =
      s.measured.count (.finalized status) + s.store.moved s'.store status := by
  induction poll with
  | halt last => exact last.count_finalized sound unique
  | advance first _ ih =>
    have later := ih (first.store_eq ▸ sound) unique
    rwa [first.count_finalized, first.store_eq] at later

theorem Moved.count_eq {capacity : UInt64} {table : LabelTable} {supplies : Supplies}
    {surroundings : Surroundings} {freshIds : Nat → PredictionId} {s : State MemoryStore} {n : Nat}
    (h : Moved status (.start capacity table (.empty supplies) surroundings freshIds) s n)
    (unique : s.store.Unique) : s.measured.count (.finalized status) = n := by
  induction h with
  | start => rfl
  | @event r n stimulus before ih =>
    have earlier := ih ((Reachable.start.event stimulus).unique unique)
    have chain := outside_apply r stimulus
    generalize r.apply stimulus = s' at chain
    induction chain with
    | refl => exact earlier
    | tail _ last ih => exact last.count_finalized.trans ih
  | @poll r s' n before step ih =>
    have unique_before := (Reachable.start.poll step).unique unique
    have sound := (filed_of_reachable before.reachable unique_before).sound
    obtain ⟨t, rest, -, rfl⟩ := State.poll_of_step? step
    have polled := (polled_poll { r with ready := rest } t).count_finalized sound unique status
    rw [polled, ih unique_before]

end Finalized

/-! ## The balance of the instruments -/

/-- The instruments agree with what has happened. -/
structure State.Balanced (s : State σ) : Prop where
  inFlight : total s.measured (Measurement.inFlight true).instrument = s.admission.inFlight.toNat
  /-- Each result counts the submissions that have returned with it. -/
  submitted : ∀ result, total s.measured (Measurement.submitted result).instrument =
    s.tasks.countP fun task => task.verdict? == some result
  /-- All results together count the submissions that were neither cancelled nor have panicked. -/
  submissions : (results.map fun result =>
    total s.measured (Measurement.submitted result).instrument).sum =
      s.tasks.countP Task.hasReturned
  /-- Each status counts the units for which the store has written it. -/
  finalized : ∀ status,
    total s.measured (Measurement.finalized status).instrument = s.writes status
  /-- An admission has been finalized, or could not be, or has panicked, or still runs. -/
  admitted : total s.measured (Measurement.submitted .admitted).instrument =
    total s.measured (Measurement.finalized .completed).instrument +
      total s.measured (Measurement.finalized .failed).instrument +
      total s.measured Measurement.finalizeFailure.instrument +
      s.tasks.countP (Task.isDone true) + s.tasks.countP Task.isRunning
  /-- Calls that have returned are recorded as successful or under the kind of their error. -/
  returned : ∀ fault ∈ faults, total s.measured (Measurement.classified fault).instrument =
    s.deeds.countP fun entry => entry.2.returns fault
  /-- All recordings together are the calls that neither wait nor have panicked. -/
  recordings : (faults.map fun fault =>
    total s.measured (Measurement.classified fault).instrument).sum =
      s.calls.length - s.tasks.countP Task.isClassifying - s.deeds.countP fun entry => entry.2.isPanic

section Balanced

variable [PredictionStore σ] {capacity : UInt64} {table : LabelTable} {store : σ}
  {surroundings : Surroundings} {freshIds : Nat → PredictionId} {s : State σ}

/-- No error is recorded under the name of success. -/
theorem unnamed_ok (plain : PlainStore σ)
    (h : Reachable (State.start capacity table store surroundings freshIds) s) :
    Measurement.classified (some "ok") ∉ s.measured := by
  rw [← List.count_eq_zero, count_classified plain h, List.countP_eq_zero]
  rintro ⟨t, deed⟩ -
  match deed with
  | .heard (.answers raw) => simp [Deed.returns]
  | .heard (.fails error) => cases error <;> simp [Deed.returns, ClassifyError.kind]
  | .heard .panics | .asked _ | .told _ | .broken => simp [Deed.returns]

theorem balanced_of_reachable (plain : PlainStore σ)
    (h : Reachable (State.start capacity table store surroundings freshIds) s) : s.Balanced := by
  have accounted := accounted_of_reachable h
  have submitted (result : SubmissionResult) :
      total s.measured (Measurement.submitted result).instrument =
        s.tasks.countP fun task => task.verdict? == some result := by
    rw [total_counter rfl, count_submitted plain h]
  have returned : ∀ fault ∈ faults, total s.measured (Measurement.classified fault).instrument =
      s.deeds.countP fun entry => entry.2.returns fault := by
    intro fault mem
    have named : fault ≠ some "ok" := by
      rintro rfl
      simp [faults] at mem
    rw [total_classified named (unnamed_ok plain h), count_classified plain h]
  refine ⟨?_, submitted, ?_, fun status => ?_, ?_, returned, ?_⟩
  · have turns := accounted.turns
    have counted := accounted.sound.counted
    rw [total_inFlight]
    simp only [State.turns] at turns
    omega
  · simp only [submitted]
    rw [countP_returned]
    simp only [results, List.map_cons, List.map_nil, List.sum_cons, List.sum_nil]
    omega
  · rw [total_counter rfl, count_finalized plain h]
  · have outcomes := count_outcomes plain h
    have units := count_admitted plain h
    rw [countP_units] at units
    rw [total_counter rfl, total_counter rfl, total_counter rfl, total_counter rfl]
    omega
  · have called := length_calls plain h
    have heard := count_heard plain h
    rw [countP_called] at called
    rw [countP_heard] at heard
    rw [List.map_congr_left returned]
    simp only [faults, List.map_cons, List.map_nil, List.sum_cons, List.sum_nil] at heard ⊢
    omega

/-- In every state of every run the instruments agree with what has happened; and over the store in
memory, as long as no id is handed out twice, the finalizations counted under a status are the records
that polls have moved to it. -/
theorem metrics_conserve_work :
    (∀ {σ : Type} [PredictionStore σ], PlainStore σ →
      ∀ {capacity : UInt64} {table : LabelTable} {store : σ} {surroundings : Surroundings}
        {freshIds : Nat → PredictionId} {s : State σ},
        Reachable (State.start capacity table store surroundings freshIds) s → s.Balanced) ∧
      ∀ {capacity : UInt64} {table : LabelTable} {supplies : Supplies} {surroundings : Surroundings}
        {freshIds : Nat → PredictionId} {s : State MemoryStore} {status : Status} {n : Nat},
        Moved status (.start capacity table (.empty supplies) surroundings freshIds) s n →
          s.store.Unique → total s.measured (Measurement.finalized status).instrument = n := by
  constructor
  · intro σ _ plain capacity table store surroundings freshIds s h
    exact balanced_of_reachable plain h
  · intro capacity table supplies surroundings freshIds s status n moved unique
    rw [total_counter rfl, moved.count_eq unique]

/-- Two submissions of one resource, before the first poll. -/
def Sample.submitted : State MemoryStore :=
  (start true).apply (.submitAll [submission, submission])

/-- One record is moved by the last of three polls; of the two submissions one was refused. -/
theorem metrics_conserve_work_sample : (Sample.run true).Balanced ∧ (Sample.run true).store.Unique ∧
    Moved .completed (Sample.start true) (Sample.run true) 1 ∧
    total (Sample.run true).measured (Measurement.finalized .completed).instrument = 1 ∧
    total (Sample.run true).measured (Measurement.submitted .duplicate).instrument = 1 := by
  have balanced := metrics_conserve_work.1 plainStore_memory (Sample.reachable_run true)
  have unique : (Sample.run true).store.Unique := by decide
  have first : Moved .completed (Sample.start true) (Sample.submitted.polls 1) 0 :=
    (Moved.start.event (.submitAll [Sample.submission, Sample.submission])).poll rfl
  have second : Moved .completed (Sample.start true) (Sample.submitted.polls 2) 0 := first.poll rfl
  have moved : Moved .completed (Sample.start true) (Sample.run true) 1 := second.poll rfl
  exact ⟨balanced, unique, moved, metrics_conserve_work.2 moved unique,
    (balanced.submitted .duplicate).trans rfl⟩

end Balanced

end Predictor.Engine
