import Mathlib.Data.List.Forall2
import Mathlib.Data.List.Nodup
import Predictor.Proofs.Engine.Deeds

/-!
Accepted submissions, the records created for them and the units of work that serve them. Each move
leaves all three as they are, ends a task that brings none of them, or adds one of each (`Course`); so
the three lists always agree, in the order in which they grew (`Intake`).
-/

namespace Predictor.Engine

variable {σ : Type}

/-! ## Tasks that are finished -/

/-- How a task that is reported as finished has ended: with a record, or without one. -/
def Task.ending? : Task → Option (Option (Submission × Prediction))
  | .submit submission (.done (.returned (.ok record))) => some (some (submission, record))
  | .submit _ (.done _) | .drain .done => some none
  | _ => none

def Task.unit? : Task → Option Work
  | .work w _ => some w
  | _ => none

theorem Task.ending?_grant (task : Task) : task.grant.ending? = task.ending? := by
  rcases task with ⟨_, _ | _ | _⟩ | ⟨_, _ | _ | _ | _⟩ | _ <;> rfl

theorem Task.unit?_grant (task : Task) : task.grant.unit? = task.unit? := by
  rcases task with ⟨_, _ | _ | _⟩ | ⟨_, _ | _ | _ | _⟩ | _ <;> rfl

/-- A submission that returned a record. -/
structure Acceptance where
  task : TaskId
  submission : Submission
  record : Prediction

namespace State

def ending? (s : State σ) (t : TaskId) : Option (Option (Submission × Prediction)) :=
  s.tasks[t]?.bind Task.ending?

/-- The units of work, in the order in which they began. -/
def spawned (s : State σ) : List Work := s.tasks.filterMap Task.unit?

def acceptance? (s : State σ) (t : TaskId) : Option Acceptance :=
  match s.ending? t with
  | some (some (submission, record)) => some ⟨t, submission, record⟩
  | _ => none

/-- The submissions that returned a record, in the order in which they finished. -/
def accepted (s : State σ) : List Acceptance := s.finished.filterMap s.acceptance?

end State

section Views

variable {s s' : State σ} {t : TaskId} {old new : Task}

theorem ending?_of_some (here : s.tasks[t]? = some old) : s.ending? t = old.ending? := by
  rw [State.ending?, here, Option.bind_some]

theorem ending?_set_ne (tasks : s'.tasks = s.tasks.set t new) {i : TaskId} (hi : i ≠ t) :
    s'.ending? i = s.ending? i := by
  rw [State.ending?, getElem?_of_set_ne tasks hi, State.ending?]

theorem ending?_append {added : Task} (tasks : s'.tasks = s.tasks ++ [added])
    (running : added.ending? = none) (i : TaskId) : s'.ending? i = s.ending? i := by
  rw [State.ending?, State.ending?, tasks, List.getElem?_append]
  split
  · rfl
  · rename_i hle
    rw [List.getElem?_eq_none (Nat.le_of_not_lt hle), Option.bind_none, Option.bind_eq_none_iff]
    intro task htask
    rw [List.mem_singleton.1 (List.mem_of_getElem? htask)]
    exact running

theorem filterMap_set {α β : Type} {f : α → Option β} {list : List α} {i : Nat} {before after : α}
    (here : list[i]? = some before) (same : f after = f before) :
    (list.set i after).filterMap f = list.filterMap f := by
  induction list generalizing i with
  | nil => rfl
  | cons first rest ih =>
    cases i with
    | zero =>
      obtain rfl := Option.some.inj here
      rw [List.set_cons_zero, List.filterMap_cons, List.filterMap_cons, same]
    | succ i => rw [List.set_cons_succ, List.filterMap_cons, List.filterMap_cons, ih here]

theorem spawned_set (here : s.tasks[t]? = some old) (tasks : s'.tasks = s.tasks.set t new)
    (unit : new.unit? = old.unit?) : s'.spawned = s.spawned := by
  rw [State.spawned, tasks, filterMap_set here unit, State.spawned]

theorem spawned_append {added : Task} (tasks : s'.tasks = s.tasks ++ [added]) :
    s'.spawned = s.spawned ++ added.unit?.toList := by
  rw [State.spawned, tasks, List.filterMap_append, State.spawned]
  cases unit : added.unit? <;> simp [unit]

theorem ending?_grants (through : List TaskId) (s : State σ) (i : TaskId) :
    (through.foldl State.grant s).ending? i = s.ending? i :=
  view_grants (f := (Option.bind · Task.ending?)) Task.ending?_grant through s i

theorem spawned_grants (through : List TaskId) (s : State σ) :
    (through.foldl State.grant s).spawned = s.spawned := by
  induction through generalizing s with
  | nil => rfl
  | cons t rest ih =>
    rw [List.foldl_cons, ih]
    cases here : s.tasks[t]? with
    | none => rw [State.spawned, State.grant, List.modify_eq_self (List.getElem?_eq_none_iff.1 here),
        State.spawned]
    | some task => exact spawned_set here (tasks_grant here) task.unit?_grant

end Views

/-! ## What a move does to the accepted submissions -/

/-- The unit of work that serves a submission whose record has been created. -/
def State.unitFor (s : State σ) (submission : Submission) (record : Prediction) : Work :=
  ⟨submission.resource,
    Correlation.ofContext (s.freshIds s.freshUsed) submission.context record.id⟩

section Courses

variable [PredictionStore σ]

inductive Course : State σ → State σ → Prop
  | on {s s' : State σ} (endings : ∀ i, s'.ending? i = s.ending? i)
      (units : s'.spawned = s.spawned) (finished : s'.finished = s.finished)
      (created : s'.created = s.created) (used : s'.freshUsed = s.freshUsed)
      (ids : s'.freshIds = s.freshIds) : Course s s'
  | ends {s s' : State σ} {t : TaskId} (running : s.ending? t = none)
      (ended : s'.ending? t = some none) (others : ∀ i, i ≠ t → s'.ending? i = s.ending? i)
      (units : s'.spawned = s.spawned) (finished : s'.finished = s.finished ++ [t])
      (created : s'.created = s.created) (used : s'.freshUsed = s.freshUsed)
      (ids : s'.freshIds = s.freshIds) : Course s s'
  | accepts {s s' : State σ} {t : TaskId} {submission : Submission} {record : Prediction}
      (running : s.ending? t = none) (ended : s'.ending? t = some (some (submission, record)))
      (others : ∀ i, i ≠ t → s'.ending? i = s.ending? i)
      (units : s'.spawned = s.spawned ++ [s.unitFor submission record])
      (finished : s'.finished = s.finished ++ [t]) (created : s'.created = s.created ++ [record.id])
      (used : s'.freshUsed =
        s.freshUsed + if Correlation.needsFresh submission.context then 1 else 0)
      (ids : s'.freshIds = s.freshIds)
      (store : PredictionStore.create s.store submission.owner submission.resource =
        (.ok record, s'.store)) : Course s s'

section Changes

variable {s s' : State σ} {t : TaskId} {old new : Task}

/-- A running task changes and runs on. -/
theorem Course.set_on (here : s.tasks[t]? = some old) (tasks : s'.tasks = s.tasks.set t new)
    (running : old.ending? = none) (still : new.ending? = none) (unit : new.unit? = old.unit?)
    (finished : s'.finished = s.finished) (created : s'.created = s.created)
    (used : s'.freshUsed = s.freshUsed) (ids : s'.freshIds = s.freshIds) : Course s s' := by
  refine .on (fun i => ?_) (spawned_set here tasks unit) finished created used ids
  by_cases hi : i = t
  · subst hi
    rw [ending?_of_some (getElem?_of_set_self tasks here), still, ending?_of_some here, running]
  · exact ending?_set_ne tasks hi

/-- A running task ends without a record. -/
theorem Course.set_ends (here : s.tasks[t]? = some old) (tasks : s'.tasks = s.tasks.set t new)
    (running : old.ending? = none) (ended : new.ending? = some none)
    (unit : new.unit? = old.unit?) (finished : s'.finished = s.finished ++ [t])
    (created : s'.created = s.created) (used : s'.freshUsed = s.freshUsed)
    (ids : s'.freshIds = s.freshIds) : Course s s' :=
  .ends ((ending?_of_some here).trans running)
    ((ending?_of_some (getElem?_of_set_self tasks here)).trans ended)
    (fun _ hi => ending?_set_ne tasks hi) (spawned_set here tasks unit) finished created used ids

/-- Nothing changes that matters here. -/
theorem Course.of_eq (tasks : s'.tasks = s.tasks) (finished : s'.finished = s.finished)
    (created : s'.created = s.created) (used : s'.freshUsed = s.freshUsed)
    (ids : s'.freshIds = s.freshIds) : Course s s' :=
  .on (fun i => by rw [State.ending?, tasks, State.ending?])
    (by rw [State.spawned, tasks, State.spawned]) finished created used ids

/-- A task is added that is no unit of work. -/
theorem Course.of_append {added : Task} (tasks : s'.tasks = s.tasks ++ [added])
    (running : added.ending? = none) (unit : added.unit? = none)
    (finished : s'.finished = s.finished) (created : s'.created = s.created)
    (used : s'.freshUsed = s.freshUsed) (ids : s'.freshIds = s.freshIds) : Course s s' := by
  refine .on (ending?_append tasks running) ?_ finished created used ids
  rw [spawned_append tasks, unit, Option.toList_none, List.append_nil]

/-- A grant moves nobody to an end. -/
theorem course_grants (through : List TaskId) {r : State σ} (tasks : r.tasks = s.tasks)
    (finished : r.finished = s.finished) (created : r.created = s.created)
    (used : r.freshUsed = s.freshUsed) (ids : r.freshIds = s.freshIds) :
    Course s (through.foldl State.grant r) := by
  have kept := grants_eq through r
  refine .on (fun i => ?_) ?_ ((congrArg State.finished kept).trans finished)
    ((congrArg State.created kept).trans created) ((congrArg State.freshUsed kept).trans used)
    ((congrArg State.freshIds kept).trans ids)
  · rw [ending?_grants, State.ending?, tasks, State.ending?]
  · rw [spawned_grants, State.spawned, tasks, State.spawned]

theorem course_grantNext (next : Option TaskId) {r : State σ} (tasks : r.tasks = s.tasks)
    (finished : r.finished = s.finished) (created : r.created = s.created)
    (used : r.freshUsed = s.freshUsed) (ids : r.freshIds = s.freshIds) :
    Course s (r.grantNext next) := by
  rw [grantNext_eq]
  exact course_grants next.toList tasks finished created used ids

end Changes

theorem course_advance {t : TaskId} {s s' : State σ} (move : Advance t s s') : Course s s' := by
  cases move with
  | occupy here | call here | answered here => exact .set_on here rfl rfl rfl rfl rfl rfl rfl rfl
  | unanswered here =>
    rw [unanswered_eq]
    exact .set_on here rfl rfl rfl rfl rfl rfl rfl rfl
  | createPermit | finalizePermit => exact .of_eq rfl rfl rfl rfl rfl

theorem course_launched {s : State σ} {t : TaskId} {submission : Submission} {record : Prediction}
    {store : σ} (here : s.tasks[t]? = some (.submit submission (.creating true)))
    (created : PredictionStore.create s.store submission.owner submission.resource =
      (.ok record, store)) : Course s ({ s with store }.launch t submission record) := by
  let ended : State σ := { s with store }.endSubmit t submission (.returned (.ok record))
  have after : ({ s with store }.launch t submission record).tasks =
      ended.tasks ++ [.work (s.unitFor submission record) .new] := rfl
  have hself : ended.tasks[t]? = some (.submit submission (.done (.returned (.ok record)))) :=
    getElem?_of_set_self rfl here
  have endings := ending?_append after rfl
  refine .accepts (ending?_of_some here) ?_ (fun i hi => ?_) ?_ rfl rfl rfl rfl created
  · rw [endings, ending?_of_some hself]
    rfl
  · rw [endings, ending?_set_ne rfl hi]
    rfl
  · have before : ended.spawned = s.spawned := spawned_set here rfl rfl
    rw [spawned_append after, before]
    rfl

theorem course_halt {t : TaskId} {s s' : State σ} (move : Halt t s s') : Course s s' := by
  cases move with
  | asleep => exact .of_eq rfl rfl rfl rfl rfl
  | unnamed here | full here | duplicate here | rolledBack here | createPanicked here =>
    exact .set_ends here rfl rfl rfl rfl rfl rfl rfl rfl
  | launched here created => exact course_launched here created
  | createHeld here | gateHeld here | classifyPanicked here | finalizePanicked here | written here
  | unwritten here | finalizeHeld here => exact .set_on here rfl rfl rfl rfl rfl rfl rfl rfl
  | @checked stage here running =>
    have before : (Task.drain stage).ending? = none := by
      cases stage with
      | new | waiting => rfl
      | done => exact absurd rfl running
    unfold State.checkIdle
    split
    · exact .set_ends here rfl before rfl rfl rfl rfl rfl rfl
    · exact .set_on here rfl before rfl rfl rfl rfl rfl rfl

theorem course_outside {s s' : State σ} (move : Outside s s') : Course s s' := by
  cases move with
  | submit | drain => exact .of_append rfl rfl rfl rfl rfl rfl rfl
  | cancelNew here | cancelWaiting here | cancelGranted here =>
    exact .set_ends here rfl rfl rfl rfl rfl rfl rfl rfl
  | passCreate | passFinalize | passGate => exact course_grantNext _ rfl rfl rfl rfl rfl
  | openGates => exact course_grants _ rfl rfl rfl rfl rfl
  | behave | setCreateMode | setFinalizeMode | setCreatePassage | setFinalizePassage | createDirectly
  | finalizeDirectly =>
    exact .of_eq rfl rfl rfl rfl rfl

theorem course_transition {s s' : State σ} (move : Transition s s') : Course s s' := by
  cases move with
  | take => exact .of_eq rfl rfl rfl rfl rfl
  | advance first => exact course_advance first
  | halt last => exact course_halt last
  | outside move => exact course_outside move

theorem Course.freshIds_eq {s s' : State σ} (course : Course s s') : s'.freshIds = s.freshIds := by
  cases course with
  | on _ _ _ _ _ ids | ends _ _ _ _ _ _ _ ids => exact ids
  | accepts _ _ _ _ _ _ _ ids => exact ids

end Courses

/-! ## Finished tasks are reported once -/

structure Reported (s : State σ) : Prop where
  once : s.finished.Nodup
  ended : ∀ t, t ∈ s.finished ↔ (s.ending? t).isSome

theorem reported_start (capacity : UInt64) (table : LabelTable) (store : σ)
    (surroundings : Surroundings) (freshIds : Nat → PredictionId) :
    Reported (State.start capacity table store surroundings freshIds) where
  once := List.nodup_nil
  ended := by simp [State.start, State.ending?]

/-- One more task is finished. -/
theorem Reported.add {s s' : State σ} {t : TaskId} (h : Reported s) (running : s.ending? t = none)
    (ended : (s'.ending? t).isSome) (others : ∀ i, i ≠ t → s'.ending? i = s.ending? i)
    (finished : s'.finished = s.finished ++ [t]) : Reported s' := by
  have absent : t ∉ s.finished := by simp [h.ended, running]
  refine ⟨?_, fun i => ?_⟩
  · rw [finished]
    exact List.nodup_append.2 ⟨h.once, List.nodup_singleton t, by grind⟩
  · rw [finished, List.mem_append, List.mem_singleton]
    by_cases hi : i = t
    · simp [hi, ended]
    · simp [hi, h.ended, others i hi]

theorem accepted_of_finished {s s' : State σ} (same : ∀ t ∈ s.finished, s'.ending? t = s.ending? t) :
    s.finished.filterMap s'.acceptance? = s.accepted := by
  refine List.filterMap_congr fun t ht => ?_
  rw [State.acceptance?, same t ht, State.acceptance?]

/-- Those who finished before another one are accepted as before. -/
theorem Reported.accepted_add {s s' : State σ} {t : TaskId} (h : Reported s)
    (running : s.ending? t = none) (others : ∀ i, i ≠ t → s'.ending? i = s.ending? i)
    (finished : s'.finished = s.finished ++ [t]) :
    s'.accepted = s.accepted ++ (s'.acceptance? t).toList := by
  have before : s.finished.filterMap s'.acceptance? = s.accepted := by
    refine accepted_of_finished fun i hi => others i ?_
    rintro rfl
    simp [h.ended, running] at hi
  rw [State.accepted, finished, List.filterMap_append, before]
  cases own : s'.acceptance? t <;> simp [own]

theorem Task.ending?_eq_accepted {task : Task} {submission : Submission} {record : Prediction} :
    task.ending? = some (some (submission, record)) ↔
      task = .submit submission (.done (.returned (.ok record))) := by
  rcases task with ⟨_, _ | _ | ⟨⟨_ | _⟩ | _ | _⟩⟩ | _ | ⟨_ | _ | _⟩ <;> simp [ending?]

/-- Accepted are the submissions that have returned a record. -/
theorem Reported.mem_accepted {s : State σ} (h : Reported s) {a : Acceptance} :
    a ∈ s.accepted ↔
      s.tasks[a.task]? = some (.submit a.submission (.done (.returned (.ok a.record)))) := by
  have ended : s.ending? a.task = some (some (a.submission, a.record)) ↔
      s.tasks[a.task]? = some (.submit a.submission (.done (.returned (.ok a.record)))) := by
    rw [State.ending?, Option.bind_eq_some_iff]
    simp only [Task.ending?_eq_accepted, exists_eq_right]
  rw [← ended, State.accepted, List.mem_filterMap]
  constructor
  · rintro ⟨t, -, ht⟩
    unfold State.acceptance? at ht
    split at ht
    · rename_i ending
      obtain rfl := Option.some.inj ht
      exact ending
    · simp at ht
  · intro ending
    refine ⟨a.task, (h.ended a.task).2 (by simp [ending]), ?_⟩
    rw [State.acceptance?, ending]

section Runs

variable [PredictionStore σ]

theorem Course.reported {s s' : State σ} (course : Course s s') (h : Reported s) : Reported s' := by
  cases course with
  | on endings _ finished => exact ⟨finished ▸ h.once, fun t => by rw [finished, endings, h.ended]⟩
  | ends running ended others _ finished => exact h.add running (by simp [ended]) others finished
  | accepts running ended others _ finished =>
    exact h.add running (by simp [ended]) others finished

/-- A move accepts nobody, or it accepts one submission, for which it brings a record and a unit of
work. -/
theorem Course.accepted_cases {s s' : State σ} (course : Course s s') (h : Reported s) :
    (s'.accepted = s.accepted ∧ s'.spawned = s.spawned ∧ s'.created = s.created ∧
        s'.freshUsed = s.freshUsed) ∨
      ∃ a : Acceptance, s'.accepted = s.accepted ++ [a] ∧
        s'.spawned = s.spawned ++ [s.unitFor a.submission a.record] ∧
        s'.created = s.created ++ [a.record.id] ∧
        s'.freshUsed =
          s.freshUsed + (if Correlation.needsFresh a.submission.context then 1 else 0) ∧
        PredictionStore.create s.store a.submission.owner a.submission.resource =
          (.ok a.record, s'.store) := by
  cases course with
  | on endings units finished created used =>
    refine .inl ⟨?_, units, created, used⟩
    rw [State.accepted, finished]
    exact accepted_of_finished fun t _ => endings t
  | ends running ended others units finished created used =>
    refine .inl ⟨?_, units, created, used⟩
    rw [h.accepted_add running others finished, State.acceptance?, ended]
    exact List.append_nil _
  | @accepts t submission record running ended others units finished created used _ store =>
    refine .inr ⟨⟨t, submission, record⟩, ?_, units, created, used, store⟩
    rw [h.accepted_add running others finished, State.acceptance?, ended]
    rfl

end Runs

/-! ## Records and units of work -/

/-- A unit of work carries the ids, the resource and the headers of the submission that it serves. -/
structure Serves (a : Acceptance) (w : Work) : Prop where
  resource : w.resource = a.submission.resource
  id : w.id = a.record.id
  headers : w.correlation.headers = a.submission.context.forwarded
  requestId : ∀ given, a.submission.context.requestId = some given → given ≠ "" →
    w.correlation.requestId = given

/-- The request ids of the units whose submissions brought none. -/
def State.supplied (s : State σ) : List String :=
  (s.accepted.zip s.spawned).filterMap fun pair =>
    if Correlation.needsFresh pair.1.submission.context then some pair.2.correlation.requestId
    else none

structure Intake (s : State σ) : Prop extends Reported s where
  created : s.created = s.accepted.map fun a => a.record.id
  units : List.Forall₂ Serves s.accepted s.spawned
  /-- A fresh id is used once. -/
  fresh : s.supplied = (List.range s.freshUsed).map fun n => (s.freshIds n).text

/-- The units of work bear the ids of the records, in order. -/
theorem Intake.ids {s : State σ} (h : Intake s) : s.spawned.map Work.id = s.created := by
  rw [h.created]
  have units := h.units
  generalize s.accepted = accepted at units ⊢
  generalize s.spawned = spawned at units ⊢
  induction units with
  | nil => rfl
  | cons serves _ ih => rw [List.map_cons, List.map_cons, serves.id, ih]

theorem mem_spawned {s : State σ} {w : Work} :
    w ∈ s.spawned ↔ ∃ (t : TaskId) (stage : WorkStage), s.tasks[t]? = some (.work w stage) := by
  rw [State.spawned, List.mem_filterMap]
  constructor
  · rintro ⟨task, hmem, hunit⟩
    obtain ⟨t, here⟩ := List.mem_iff_getElem?.1 hmem
    cases task with
    | work unit stage =>
      obtain rfl := Option.some.inj hunit
      exact ⟨t, stage, here⟩
    | submit | drain => simp [Task.unit?] at hunit
  · rintro ⟨t, stage, here⟩
    exact ⟨_, List.mem_of_getElem? here, rfl⟩

/-- When no id occurs twice, a unit of work is known by its id. -/
theorem unit_unique {s : State σ} (distinct : (s.spawned.map Work.id).Nodup) {i j : TaskId}
    {w w' : Work} {stage stage' : WorkStage} (hi : s.tasks[i]? = some (.work w stage))
    (hj : s.tasks[j]? = some (.work w' stage')) (same : w.id = w'.id) : i = j := by
  rw [State.spawned, List.map_filterMap, List.Nodup, List.pairwise_filterMap,
    List.pairwise_iff_getElem] at distinct
  obtain ⟨lti, hi⟩ := List.getElem?_eq_some_iff.1 hi
  obtain ⟨ltj, hj⟩ := List.getElem?_eq_some_iff.1 hj
  rcases Nat.lt_trichotomy i j with hlt | heq | hlt
  · have := distinct i j lti ltj hlt w.id (by rw [hi]; rfl) w'.id (by rw [hj]; rfl)
    exact absurd same this
  · exact heq
  · have := distinct j i ltj lti hlt w'.id (by rw [hj]; rfl) w.id (by rw [hi]; rfl)
    exact absurd same.symm this

theorem serves_unitFor (s : State σ) (a : Acceptance) :
    Serves a (s.unitFor a.submission a.record) where
  resource := rfl
  id := rfl
  headers := rfl
  requestId given hgiven nonempty := by
    simp [State.unitFor, Correlation.ofContext, hgiven, nonempty]

theorem requestId_unitFor (s : State σ) (submission : Submission) (record : Prediction)
    (needs : Correlation.needsFresh submission.context = true) :
    (s.unitFor submission record).correlation.requestId = (s.freshIds s.freshUsed).text := by
  unfold Correlation.needsFresh at needs
  simp only [State.unitFor, Correlation.ofContext]
  split at needs <;> simp_all

theorem intake_start (capacity : UInt64) (table : LabelTable) (store : σ)
    (surroundings : Surroundings) (freshIds : Nat → PredictionId) :
    Intake (State.start capacity table store surroundings freshIds) where
  toReported := reported_start ..
  created := rfl
  units := .nil
  fresh := rfl

theorem forall₂_concat {α β : Type} {R : α → β → Prop} {as : List α} {bs : List β} {a : α} {b : β}
    (h : List.Forall₂ R as bs) (hab : R a b) : List.Forall₂ R (as ++ [a]) (bs ++ [b]) :=
  List.rel_append h (.cons hab .nil)

theorem Course.intake [PredictionStore σ] {s s' : State σ} (course : Course s s') (h : Intake s) :
    Intake s' := by
  have reported := course.reported h.toReported
  have ids := course.freshIds_eq
  rcases course.accepted_cases h.toReported with
    ⟨accepted, units, created, used⟩ | ⟨a, accepted, units, created, used, -⟩
  · refine ⟨reported, ?_, ?_, ?_⟩
    · rw [created, accepted, h.created]
    · rw [accepted, units]
      exact h.units
    · rw [State.supplied, accepted, units, used, ids]
      exact h.fresh
  · refine ⟨reported, ?_, ?_, ?_⟩
    · rw [created, accepted, h.created, List.map_append, List.map_singleton]
    · rw [accepted, units]
      exact forall₂_concat h.units (serves_unitFor s a)
    · have same : s.accepted.length = s.spawned.length := h.units.length_eq
      rw [State.supplied, accepted, units, List.zip_append same, List.filterMap_append, used, ids]
      have old := h.fresh
      rw [State.supplied] at old
      rw [old]
      by_cases needs : Correlation.needsFresh a.submission.context = true
      · simp [needs, List.range_succ, requestId_unitFor s a.submission a.record needs]
      · simp [needs]

theorem intake_of_reachable [PredictionStore σ] {capacity : UInt64} {table : LabelTable} {store : σ}
    {surroundings : Surroundings} {freshIds : Nat → PredictionId} {s : State σ}
    (h : Reachable (State.start capacity table store surroundings freshIds) s) : Intake s :=
  h.invariant (intake_start ..) fun move hr => (course_transition move).intake hr

end Predictor.Engine
