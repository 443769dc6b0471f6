import Predictor.CommandLine.Submission
import Predictor.Proofs.Engine.Drain
import Predictor.Proofs.Engine.Remainder

/-!
What becomes of the predictions that a submission from the command line has reported as accepted. When
the run passes through its drain, all of them have been carried out before it ends. An error that is
no refusal ends the run without a drain, and then they are left as they are.
-/

namespace Predictor.CommandLine

open Engine

/-! ## What is printed -/

/-- A line on the submission of one resource. -/
inductive Verdict
  | accepted (id : PredictionId) (resource : String)
  | rejected (resource : String) (error : Error)

namespace Verdict

def text : Verdict → String
  | accepted id resource => acceptedLine id resource
  | rejected resource error => rejectedLine resource error

def id? : Verdict → Option PredictionId
  | accepted id _ => some id
  | rejected .. => none

end Verdict

namespace SubmitRun

variable {σ : Type}

/-- The output is one line for each resource that has been decided, and then other lines. The
accepted predictions are those whose lines say so. -/
def Reports (r : SubmitRun σ) (others : List String) : Prop :=
  ∃ verdicts : List Verdict, r.output = verdicts.map Verdict.text ++ others ∧
    r.accepted = verdicts.filterMap Verdict.id?

/-- A line that is printed once the drain is over. -/
def IsResult (line : String) : Prop := line = "" ∨ ∃ record, line = resultLine record

/-! ## What is over -/

/-- The unit of work of a prediction is over: the classifier has panicked, or it has answered and
then the store has answered the finalization. -/
def Answered (engine : State σ) (id : PredictionId) : Prop :=
  ∃ (t : TaskId) (w : Work) (panicked : Bool),
    engine.tasks[t]? = some (.work w (.done panicked)) ∧ w.id = id ∧
      (engine.deedsOf t = [.heard .panics] ∨ ∃ (answer : Engine.Answer) (result : Except Error Unit),
        engine.deedsOf t =
          [.heard answer.behaviour, .asked (answer.outcome engine.table), .told result])

/-- All admissions have been given back, and all accepted predictions are answered. -/
structure CarriedOut (r : SubmitRun σ) : Prop where
  past : r.engine.Over
  idle : r.engine.admission.inFlight = 0
  unclaimed : r.engine.admission.claimed = []
  released : r.engine.live = []
  answered : ∀ id ∈ r.accepted, Answered r.engine id

/-- A submission has returned an error that is no refusal, and the run ends with it. -/
def FailsWith (r : SubmitRun σ) (result : Except Error Unit) : Prop :=
  ∃ (t : TaskId) (submission : Submission) (error : Error),
    r.engine.tasks[t]? = some (.submit submission (.done (.returned (.error error)))) ∧
      error.isRejection = false ∧ result = .error error

variable [PredictionStore σ] {initial : State σ} {r : SubmitRun σ} {t : TaskId}

/-- Resources are handed over, or the drain is waited for, in task `t`. -/
structure Busy (initial : State σ) (r : SubmitRun σ) (t : TaskId) : Prop where
  reached : Reachable initial r.engine
  alone : r.engine.Alone t
  unbroken : r.engine.Unbroken
  accepted : ∀ id ∈ r.accepted, ∃ (i : TaskId) (submission : Submission) (record : Prediction),
    r.engine.tasks[i]? = some (.submit submission (.done (.returned (.ok record)))) ∧ record.id = id
  reports : r.Reports []

/-- What holds in each phase of a run. -/
def InCourse (initial : State σ) (r : SubmitRun σ) : Prop :=
  match r.phase with
  | .submitting t _ _ => r.Busy initial t ∧
      ∃ submission stage, r.engine.tasks[t]? = some (.submit submission stage)
  | .draining t => r.Busy initial t ∧
      ∃ stage, r.engine.tasks[t]? = some (.drain stage) ∧
        (stage = .done → r.engine.Over ∧ r.engine.admission.inFlight = 0)
  | .reading _ => r.CarriedOut ∧ ∃ others, r.Reports others ∧ ∀ line ∈ others, IsResult line
  | .ended result => (r.CarriedOut ∨ r.FailsWith result) ∧
      ∃ others, r.Reports others ∧ ∀ line ∈ others, IsResult line

/-! ## The service is heard from -/

/-- Some who waited are let through, and of all else no more than the surroundings changes. -/
structure Hears (s s' : State σ) : Prop where
  event : ∃ stimulus, s' = s.apply stimulus
  tasks : ∃ (through : List TaskId) (base : State σ),
    s' = through.foldl State.grant base ∧ base.tasks = s.tasks
  takes : s.TakesFinalize → s'.TakesFinalize
  store : s'.store = s.store
  deeds : s'.deeds = s.deeds
  admission : s'.admission = s.admission
  table : s'.table = s.table

/-- The surroundings change, and then some of those who waited are let through. -/
theorem hears_grants {s : State σ} {stimulus : Stimulus} (through : List TaskId)
    (surroundings : Surroundings) (passed : s.apply stimulus =
      through.foldl State.grant { s with surroundings })
    (takes : s.TakesFinalize → State.TakesFinalize { s with surroundings }) :
    Hears s (s.apply stimulus) where
  event := ⟨stimulus, rfl⟩
  tasks := ⟨through, _, passed, rfl⟩
  takes := by
    rw [passed, State.TakesFinalize, State.TakesFinalize, surroundings_grants]
    exact takes
  store := by rw [passed, grants_eq]
  deeds := by rw [passed, deeds_grants]
  admission := by rw [passed, grants_eq]
  table := by rw [passed, table_grants]

theorem Heard.hears {stimulus : Stimulus} (heard : Heard stimulus) (s : State σ) :
    Hears s (s.apply stimulus) := by
  cases heard with
  | passGate resource => exact hears_grants _ _ (grantNext_eq ..) id
  | behave resource behaviour => exact hears_grants [] _ rfl id
  | createMode takes => exact hears_grants [] _ rfl id
  | finalizeMode takes => exact hears_grants [] _ rfl fun before => ⟨takes, before.2⟩
  | passCreate => exact hears_grants _ _ (grantNext_eq ..) id
  | passFinalize => exact hears_grants _ _ (grantNext_eq ..) id

section Hearing

variable {s s' : State σ}

theorem Hears.over_task (h : Hears s s') {i : TaskId} {task : Task} (here : s.tasks[i]? = some task)
    (past : task.isOver = true) : s'.tasks[i]? = some task := by
  obtain ⟨through, base, rfl, tasks⟩ := h.tasks
  exact over_grants through (tasks ▸ here) past

theorem Hears.tasks_eq (h : Hears s s') (past : s.Over) : s'.tasks = s.tasks := by
  obtain ⟨through, base, rfl, tasks⟩ := h.tasks
  have base_over : base.Over := by rwa [State.Over, tasks]
  rw [base_over.grants, tasks]

theorem Hears.alone (h : Hears s s') (alone : s.Alone t) : s'.Alone t := by
  obtain ⟨through, base, rfl, tasks⟩ := h.tasks
  have base_alone : base.Alone t := by rwa [State.Alone, tasks]
  exact base_alone.grants through

end Hearing

/-! ## Predictions that have been carried out -/

omit [PredictionStore σ] in
/-- Nothing changes that matters to what has been carried out. -/
theorem CarriedOut.of_eq {r' : SubmitRun σ} (h : r.CarriedOut)
    (tasks : r'.engine.tasks = r.engine.tasks) (admission : r'.engine.admission = r.engine.admission)
    (deeds : r'.engine.deeds = r.engine.deeds) (table : r'.engine.table = r.engine.table)
    (accepted : r'.accepted = r.accepted) : r'.CarriedOut where
  past := by rw [State.Over, tasks]; exact h.past
  idle := by rw [admission]; exact h.idle
  unclaimed := by rw [admission]; exact h.unclaimed
  released := by rw [State.live, tasks]; exact h.released
  answered := by
    rw [accepted]
    simp only [Answered, State.deedsOf, tasks, deeds, table]
    exact h.answered

/-- The unit of work of an accepted prediction, once it is over. -/
theorem Busy.answered {capacity : UInt64} {table : LabelTable} {store : σ}
    {surroundings : Surroundings} {freshIds : Nat → PredictionId}
    (h : r.Busy (.start capacity table store surroundings freshIds) t) (past : r.engine.Over) :
    ∀ id ∈ r.accepted, Answered r.engine id := by
  intro id mem
  obtain ⟨i, submission, record, here, rfl⟩ := h.accepted id mem
  have intake := intake_of_reachable h.reached
  have accepted : (⟨i, submission, record⟩ : Acceptance) ∈ r.engine.accepted :=
    intake.mem_accepted.2 here
  have served : record.id ∈ r.engine.spawned.map Work.id := by
    rw [intake.ids, intake.created]
    exact List.mem_map_of_mem (f := fun a => a.record.id) accepted
  obtain ⟨w, spawned, same⟩ := List.mem_map.1 served
  obtain ⟨t', stage, unit⟩ := mem_spawned.1 spawned
  obtain ⟨panicked, rfl⟩ : ∃ panicked, stage = .done panicked := by
    have done := past t' _ unit
    cases stage with
    | done panicked => exact ⟨panicked, rfl⟩
    | new | classifying | finalizing => cases done
  refine ⟨t', w, panicked, unit, same, ?_⟩
  obtain ⟨fate, deeds⟩ := ((recorded_of_reachable h.reached).did unit).fate
  cases fate with
  | classifyPanicked => exact .inl deeds
  | written answer => exact .inr ⟨answer, .ok (), deeds⟩
  | unwritten answer error => exact .inr ⟨answer, .error error, deeds⟩
  | finalizePanicked answer =>
    have broken : (t', Deed.broken) ∈ r.engine.deeds :=
      mem_deedsIn.1 (by rw [← State.deedsOf, deeds]; simp [Fate.deeds])
    exact absurd rfl (h.unbroken.unbroken _ broken)

/-! ## Polls -/

section Runs

variable {capacity : UInt64} {table : LabelTable} {store : σ} {surroundings : Surroundings}
  {freshIds : Nat → PredictionId} {engine : State σ}

theorem Busy.poll (h : r.Busy initial t) (step : r.engine.step? = some engine) :
    Busy initial { r with engine } t where
  reached := h.reached.poll step
  alone := h.alone.step step
  unbroken := h.unbroken.step step
  accepted id mem := by
    obtain ⟨i, submission, record, here, same⟩ := h.accepted id mem
    exact ⟨i, submission, record, step?_asleep step here rfl, same⟩
  reports := h.reports

theorem Busy.hear (h : r.Busy initial t) (hears : Hears r.engine engine) :
    Busy initial { r with engine } t where
  reached := by
    obtain ⟨stimulus, rfl⟩ := hears.event
    exact h.reached.event stimulus
  alone := hears.alone h.alone
  unbroken := ⟨hears.takes h.unbroken.takes, hears.deeds ▸ h.unbroken.unbroken⟩
  accepted id mem := by
    obtain ⟨i, submission, record, here, same⟩ := h.accepted id mem
    exact ⟨i, submission, record, hears.over_task here rfl, same⟩
  reports := h.reports

omit [PredictionStore σ] in
/-- A task that grows out of a submission is a submission. -/
theorem submit_grows {s s' : State σ} {submission : Submission} {stage : SubmitStage}
    (grows : Grows s s') (here : s.tasks[t]? = some (.submit submission stage)) :
    ∃ submission stage, s'.tasks[t]? = some (.submit submission stage) := by
  have origin := grows.origin_eq here
  have lt := lt_of_origin origin
  have now := List.getElem?_eq_getElem lt
  rw [origins_of_some now] at origin
  rw [now]
  cases task : s'.tasks[t] with
  | submit submission stage => exact ⟨submission, stage, rfl⟩
  | work | drain => simp [task, Task.origin] at origin

omit [PredictionStore σ] in
theorem drain_grows {s s' : State σ} {stage : DrainStage} (grows : Grows s s')
    (here : s.tasks[t]? = some (.drain stage)) : ∃ stage, s'.tasks[t]? = some (.drain stage) := by
  have origin := grows.origin_eq here
  have lt := lt_of_origin origin
  have now := List.getElem?_eq_getElem lt
  rw [origins_of_some now] at origin
  rw [now]
  cases task : s'.tasks[t] with
  | drain stage => exact ⟨stage, rfl⟩
  | submit | work => simp [task, Task.origin] at origin

omit [PredictionStore σ] in
/-- When the drain is over and no admission is held, everything is over. -/
theorem over_of_released {s : State σ} (alone : s.Alone t)
    (drained : s.tasks[t]? = some (.drain .done)) (released : s.live = []) : s.Over := by
  intro i task here
  by_cases own : i = t
  · subst own
    rw [Option.some.inj (here.symm.trans drained)]
    rfl
  · rcases alone i task here own with past | unit
    · exact past
    · refine Task.isOver_of_unit unit ?_
      have none_held := List.filterMap_eq_nil_iff.1 released
      exact none_held task (List.mem_of_getElem? here)

theorem InCourse.poll (h : r.InCourse (.start capacity table store surroundings freshIds))
    (step : r.engine.step? = some engine) :
    InCourse (.start capacity table store surroundings freshIds) { r with engine } := by
  have grows : Grows r.engine engine := (Reachable.start.poll step).grows
  have carried (done : r.CarriedOut) : CarriedOut { r with engine } := by
    obtain ⟨rest, rfl⟩ := done.past.step step
    exact done.of_eq rfl rfl rfl rfl rfl
  obtain ⟨before, context, owner, phase, accepted, output⟩ := r
  cases phase with
  | submitting t resource others =>
    obtain ⟨busy, submission, stage, here⟩ := h
    exact ⟨busy.poll step, submit_grows grows here⟩
  | draining t =>
    obtain ⟨busy, first, here, done⟩ := h
    obtain ⟨last, now⟩ := drain_grows grows here
    refine ⟨busy.poll step, last, now, ?_⟩
    rintro rfl
    by_cases ended : first = .done
    · obtain ⟨past, idle⟩ := done ended
      obtain ⟨rest, rfl⟩ := past.step step
      exact ⟨past, idle⟩
    · obtain ⟨-, -, idle⟩ := (Follows.poll step).drain_over here ended now
      have accounted := accounted_of_reachable (busy.reached.poll step)
      obtain ⟨-, released, -⟩ := accounted.released_of_idle idle
      exact ⟨over_of_released (busy.alone.step step) now released, idle⟩
  | reading ids => exact ⟨carried h.1, h.2⟩
  | ended result =>
    refine ⟨h.1.imp carried ?_, h.2⟩
    rintro ⟨t, submission, error, here, failed⟩
    exact ⟨t, submission, error, step?_asleep step here rfl, failed⟩

theorem InCourse.hear (h : r.InCourse (.start capacity table store surroundings freshIds))
    (hears : Hears r.engine engine) :
    InCourse (.start capacity table store surroundings freshIds) { r with engine } := by
  have grows : Grows r.engine engine := by
    obtain ⟨stimulus, rfl⟩ := hears.event
    exact (Reachable.start.event stimulus).grows
  have carried (done : r.CarriedOut) : CarriedOut { r with engine } :=
    done.of_eq (hears.tasks_eq done.past) hears.admission hears.deeds hears.table rfl
  obtain ⟨before, context, owner, phase, accepted, output⟩ := r
  cases phase with
  | submitting t resource others =>
    obtain ⟨busy, submission, stage, here⟩ := h
    exact ⟨busy.hear hears, submit_grows grows here⟩
  | draining t =>
    obtain ⟨busy, stage, here, done⟩ := h
    refine ⟨busy.hear hears, stage, ?_, fun ended => ?_⟩
    · obtain ⟨stimulus, rfl⟩ := hears.event
      exact drain_apply stimulus here
    · obtain ⟨past, idle⟩ := done ended
      exact ⟨fun i task here => past i task (hears.tasks_eq past ▸ here), hears.admission ▸ idle⟩
  | reading ids => exact ⟨carried h.1, h.2⟩
  | ended result =>
    refine ⟨h.1.imp carried ?_, h.2⟩
    rintro ⟨t, submission, error, here, failed⟩
    exact ⟨t, submission, error, hears.over_task here rfl, failed⟩

/-! ## The run goes on -/

/-- The next resource is handed over, or the drain begins, when the task before is over. -/
theorem inCourse_proceed (reached : Reachable initial r.engine)
    (settled : ∀ (i : TaskId) (task : Task), r.engine.tasks[i]? = some task →
      task.isOver = true ∨ task.unit?.isSome)
    (unbroken : r.engine.Unbroken)
    (accepted : ∀ id ∈ r.accepted, ∃ (i : TaskId) (submission : Submission) (record : Prediction),
      r.engine.tasks[i]? = some (.submit submission (.done (.returned (.ok record)))) ∧
        record.id = id)
    (reports : r.Reports []) (others : List String) : (r.proceed others).InCourse initial := by
  have spawned : ∀ (stimulus : Stimulus) (added : Task),
      r.engine.apply stimulus = r.engine.spawn added →
        ∀ phase, Busy initial { r with engine := r.engine.spawn added, phase }
          r.engine.tasks.length := by
    intro stimulus added same phase
    refine ⟨same ▸ reached.event stimulus, fun i task here other => ?_,
      ⟨unbroken.takes, unbroken.unbroken⟩, fun id mem => ?_, reports⟩
    · rcases cases_of_append rfl here with ⟨last, -⟩ | old
      · exact absurd last other
      · exact settled i task old
    · obtain ⟨i, submission, record, here, same⟩ := accepted id mem
      exact ⟨i, submission, record, getElem?_of_append rfl here, same⟩
  cases others with
  | nil =>
    exact ⟨spawned .drain _ rfl _, .new, getElem?_of_append_length rfl, nofun⟩
  | cons resource others =>
    exact ⟨spawned (.submit ⟨r.context, r.owner, resource⟩) _ rfl _, _, _,
      getElem?_of_append_length rfl⟩

/-- All tasks are over or units of work once the submission under way is over. -/
theorem Busy.settled (h : r.Busy initial t) {ended : Task} (here : r.engine.tasks[t]? = some ended)
    (past : ended.isOver = true) (i : TaskId) (task : Task)
    (hi : r.engine.tasks[i]? = some task) : task.isOver = true ∨ task.unit?.isSome := by
  by_cases own : i = t
  · subst own
    exact .inl (Option.some.inj (hi.symm.trans here) ▸ past)
  · exact h.alone i task hi own

theorem Busy.returned (h : r.Busy initial t) {submission : Submission}
    {result : Except Error Prediction}
    (here : r.engine.tasks[t]? = some (.submit submission (.done (.returned result))))
    (resource : String) (others : List String) :
    (r.returned resource others result).InCourse initial := by
  obtain ⟨verdicts, output, ids⟩ := h.reports
  cases result with
  | ok record =>
    refine inCourse_proceed (r := { r.print (acceptedLine record.id resource) with
      accepted := r.accepted ++ [record.id] }) h.reached (h.settled here rfl) h.unbroken
      (fun id mem => ?_) ?_ others
    · rcases List.mem_append.1 mem with mem | mem
      · exact h.accepted id mem
      · exact ⟨t, submission, record, here, (List.mem_singleton.1 mem).symm⟩
    · refine ⟨verdicts ++ [.accepted record.id resource], ?_, ?_⟩
      · simp [SubmitRun.print, output, Verdict.text]
      · simp [ids, Verdict.id?]
  | error error =>
    by_cases rejected : error.isRejection = true
    · rw [SubmitRun.returned, if_pos rejected]
      refine inCourse_proceed (r := r.print (rejectedLine resource error)) h.reached
        (h.settled here rfl) h.unbroken h.accepted ?_ others
      refine ⟨verdicts ++ [.rejected resource error], ?_, ?_⟩
      · simp [SubmitRun.print, output, Verdict.text]
      · simp [SubmitRun.print, ids, Verdict.id?]
    · rw [SubmitRun.returned, if_neg rejected]
      exact ⟨.inr ⟨t, submission, error, here, Bool.eq_false_iff.2 rejected, rfl⟩, [],
        h.reports, by simp⟩

/-- The drain is over: what has been accepted has been carried out, and is read back next. -/
theorem Busy.drained (h : r.Busy (.start capacity table store surroundings freshIds) t)
    (past : r.engine.Over) (idle : r.engine.admission.inFlight = 0) :
    r.drained.InCourse (.start capacity table store surroundings freshIds) := by
  obtain ⟨unclaimed, released, -⟩ := (accounted_of_reachable h.reached).released_of_idle idle
  obtain ⟨verdicts, output, ids⟩ := h.reports
  refine ⟨⟨past, idle, unclaimed, released, h.answered past⟩,
    if r.accepted.isEmpty then [] else [""], ⟨verdicts, ?_, ids⟩, fun line mem => ?_⟩
  · simp [SubmitRun.drained, output]
  · split at mem
    · cases mem
    · exact .inl (List.mem_singleton.1 mem)

/-- Reading a record back changes nothing about the work that has been carried out. -/
theorem inCourse_readBack (carried : r.CarriedOut) {others : List String}
    (reports : r.Reports others) (results : ∀ line ∈ others, IsResult line) (id : PredictionId)
    (rest : List PredictionId) : (r.readBack id rest).InCourse initial := by
  obtain ⟨verdicts, output, ids⟩ := reports
  unfold SubmitRun.readBack
  cases PredictionStore.get r.engine.store id with
  | mk result store =>
    cases result with
    | ok record =>
      refine ⟨carried.of_eq rfl rfl rfl rfl rfl, others ++ [resultLine record],
        ⟨verdicts, ?_, ids⟩, fun line mem => ?_⟩
      · simp [SubmitRun.print, output]
      · rcases List.mem_append.1 mem with mem | mem
        · exact results line mem
        · exact .inr ⟨record, List.mem_singleton.1 mem⟩
    | error error =>
      exact ⟨.inl (carried.of_eq rfl rfl rfl rfl rfl), others, ⟨verdicts, output, ids⟩, results⟩

theorem InCourse.advance (h : r.InCourse (.start capacity table store surroundings freshIds)) :
    r.advance.InCourse (.start capacity table store surroundings freshIds) := by
  have same := h
  unfold SubmitRun.advance
  obtain ⟨engine, context, owner, phase, accepted, output⟩ := r
  cases phase with
  | submitting t resource others =>
    obtain ⟨busy, -⟩ := h
    dsimp only
    split
    · exact busy.returned ‹_› resource others
    · exact same
  | draining t =>
    obtain ⟨busy, stage, here, done⟩ := h
    dsimp only
    split
    · rename_i ended
      obtain ⟨past, idle⟩ := done (by simpa using here.symm.trans ended)
      exact busy.drained past idle
    · exact same
  | reading ids =>
    obtain ⟨carried, others, reports, results⟩ := h
    cases ids with
    | nil => exact ⟨.inl (carried.of_eq rfl rfl rfl rfl rfl), others, reports, results⟩
    | cons id rest => exact inCourse_readBack carried reports results id rest
  | ended result => exact same

/-! ## The whole run -/

theorem inCourse_start (usual : Behaviour) (isOpen : Bool) (context : RequestContext)
    (owner : String) (resources : List String) :
    (start (State.start capacity table store (.start usual isOpen) freshIds) context owner
      resources).InCourse (.start capacity table store (.start usual isOpen) freshIds) :=
  inCourse_proceed .start (by simp [State.start]) ⟨⟨.inl rfl, rfl⟩, by simp [State.start]⟩ (by simp)
    ⟨[], rfl, rfl⟩ resources

theorem InCourse.next {r' : SubmitRun σ}
    (h : r.InCourse (.start capacity table store surroundings freshIds)) (next : Next r r') :
    r'.InCourse (.start capacity table store surroundings freshIds) := by
  cases next with
  | poll step => exact h.poll step
  | hear heard => exact h.hear (heard.hears _)
  | advance => exact h.advance

/-! ## Running takes steps -/

/-- However a run goes on: when it ends, a submission has returned an error that is no refusal, or
every prediction that was reported as accepted has been carried out and nothing is in flight. -/
theorem ended_carriedOut_or_fails {usual : Behaviour} {isOpen : Bool} {context : RequestContext}
    {owner : String} {resources : List String}
    (steps : Relation.ReflTransGen Next (start (State.start capacity table store
      (.start usual isOpen) freshIds) context owner resources) r)
    {result : Except Error Unit} (ended : r.phase = .ended result) :
    (r.CarriedOut ∨ r.FailsWith result) ∧
      ∃ others, r.Reports others ∧ ∀ line ∈ others, IsResult line := by
  have course : r.InCourse (.start capacity table store (.start usual isOpen) freshIds) := by
    clear ended
    induction steps with
    | refl => exact inCourse_start usual isOpen context owner resources
    | tail _ next ih => exact ih.next next
  unfold InCourse at course
  rw [ended] at course
  exact course

/-- The owner submits resources to an engine with two slots. -/
def Sample.start (isOpen : Bool) (resources : List String) : SubmitRun MemoryStore :=
  .start (Engine.Sample.start isOpen) ⟨some "request", []⟩ "owner" resources

/-- One resource is classified, and its record is read back. -/
theorem Sample.carriedOut_run : ∃ r, Relation.ReflTransGen Next (Sample.start true ["scan.png"]) r ∧
    r.phase = .ended (.ok ()) ∧ r.accepted = [⟨0⟩] :=
  ⟨_, .head (.poll rfl) <| .head .advance <| .head (.poll rfl) <| .head (.poll rfl) <|
    .head .advance <| .head .advance <| .head .advance .refl, rfl, rfl⟩

theorem ended_carriedOut_or_fails_sample :
    ∃ r, Relation.ReflTransGen Next (Sample.start true ["scan.png"]) r ∧
      r.phase = .ended (.ok ()) ∧ r.accepted = [⟨0⟩] ∧ r.engine.live = [] ∧
        Answered r.engine ⟨0⟩ := by
  obtain ⟨r, steps, ended, accepted⟩ := Sample.carriedOut_run
  rcases (ended_carriedOut_or_fails steps ended).1 with carried | ⟨t, submission, error, -, -, failed⟩
  · exact ⟨r, steps, ended, accepted, carried.released, carried.answered ⟨0⟩ (by simp [accepted])⟩
  · nomatch failed

/-- After an accepted resource an empty one ends the run at once. The drain is passed over: the first
prediction still holds its admission, and its record is left as it was created. -/
theorem left_behind :
    ∃ r, Relation.ReflTransGen Next (Sample.start false ["scan.png", ""]) r ∧
      r.phase = .ended (.error (.invalidResource "resource must not be empty")) ∧
      r.accepted = [⟨0⟩] ∧ r.output = [acceptedLine ⟨0⟩ "scan.png"] ∧
      r.engine.live = ["scan.png"] ∧ r.engine.admission.inFlight = 1 ∧
      (r.engine.store.find? ⟨0⟩).map Prediction.status = some .processing ∧
      ¬ Answered r.engine ⟨0⟩ := by
  refine ⟨_, .head (.poll rfl) <| .head .advance <| .head (.poll rfl) <| .head (.poll rfl) <|
    .head .advance .refl, rfl, rfl, rfl, rfl, rfl, rfl, ?_⟩
  rintro ⟨t, w, panicked, here, -⟩
  match t, here with
  | 0, here | 1, here | 2, here => cases here
  | t + 3, here => cases here

end Runs

end SubmitRun

end Predictor.CommandLine
