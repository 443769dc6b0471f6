import Predictor.Proofs.CommandLine.Accepted
import Predictor.Proofs.Engine.OverDatabase

/-!
What a submission from the command line prints, and when it reads records back. The lines come in the
order of the resources. Until the drain is over no select is sent, and then every accepted prediction
has been concluded (`Concluded`), so the reads come last; the records are printed up to the first one
that cannot be read (`ReadBack`).
-/

namespace Predictor.CommandLine

open Engine Database

def Verdict.resource : Verdict → String
  | .accepted _ resource | .rejected resource _ => resource

namespace SubmitRun

section Told

variable {σ : Type}

/-- The resources that have been decided, and those that are still to be. -/
structure Tells (resources : List String) (accepted : List PredictionId) (verdicts : List Verdict)
    (pending : List String) : Prop where
  named : verdicts.map Verdict.resource ++ pending = resources
  accepted : accepted = verdicts.filterMap Verdict.id?
  refusals : ∀ {resource : String} {error : Error}, .rejected resource error ∈ verdicts →
    error.isRejection = true

/-- The update of a prediction is among the statements, and the store has answered it. -/
def Updated (front : List Statement) (engine : State σ) (id : PredictionId) : Prop :=
  ∃ (t : TaskId) (w : Work) (answer : Engine.Answer) (reply : Except Error Unit),
    engine.tasks[t]? = some (.work w (.done false)) ∧ w.id = id ∧
      engine.deedsOf t =
        [.heard answer.behaviour, .asked (answer.outcome engine.table), .told reply] ∧
      .update (.ofOutcome (answer.outcome engine.table)) id ∈ front

/-- No classification call has panicked. -/
def Calm (r : SubmitRun σ) : Prop := ∀ entry ∈ r.engine.deeds, entry.2 ≠ .heard .panics

/-- The prediction has been carried out, unless its classification call has panicked. -/
def Concluded (front : List Statement) (engine : State σ) (id : PredictionId) : Prop :=
  (∃ t, (t, .heard .panics) ∈ engine.deeds) ∨ Updated front engine id

theorem Concluded.of_eq {front : List Statement} {engine engine' : State σ} {id : PredictionId}
    (h : Concluded front engine id) (tasks : engine'.tasks = engine.tasks)
    (deeds : engine'.deeds = engine.deeds) (table : engine'.table = engine.table) :
    Concluded front engine' id := by
  simp only [Concluded, Updated, State.deedsOf, tasks, deeds, table]
  exact h

/-- A prediction whose unit of work is over. -/
theorem Concluded.of_answered {δ : Type} {before front : List Statement}
    {engine : State (Connection δ)} (sends : Sends before front engine) (recorded : Recorded engine)
    {id : PredictionId} (h : Answered engine id) : Concluded front engine id := by
  obtain ⟨t, w, panicked, here, rfl, deeds⟩ := h
  rcases deeds with panic | ⟨answer, reply, deeds⟩
  · exact .inl ⟨t, mem_deedsIn.1 (by rw [← State.deedsOf, panic]; simp)⟩
  · have told : (t, .told reply) ∈ engine.deeds :=
      mem_deedsIn.1 (by rw [← State.deedsOf, deeds]; simp)
    obtain ⟨v, outcome, origin, asked, sent⟩ := sends.updated told
    rw [origins_of_some here] at origin
    obtain rfl : w = v := (Task.work.inj (Option.some.inj origin)).1
    have asked : .asked outcome ∈ engine.deedsOf t := mem_deedsIn.2 asked
    rw [deeds] at asked
    obtain rfl : outcome = answer.outcome engine.table := by simpa using asked
    have did := recorded.did here
    rw [deeds] at did
    generalize state : [Deed.heard answer.behaviour, .asked (answer.outcome engine.table),
      .told reply] = done at did
    obtain rfl : panicked = false := by
      cases did with
      | finalized => rfl
      | classifyPanicked | finalizePanicked => simp at state
    exact .inr ⟨t, w, answer, reply, here, rfl, deeds, sent⟩

end Told

/-! ## The course of a run -/

variable {δ : Type} {before front : List Statement} {resources pending : List String}
  {r : SubmitRun (Connection δ)} {t : TaskId}

/-- As long as resources are handed over, or the drain is waited for, no record is read back. -/
def Decides (before : List Statement) (resources : List String) (r : SubmitRun (Connection δ))
    (pending : List String) : Prop :=
  ∃ verdicts front, Tells resources r.accepted verdicts pending ∧ r.output = verdicts.map Verdict.text ∧
    Sends before front r.engine

variable [Server δ]

/-- What has been read back so far, when reading the rest comes to `rest`. -/
structure ReadBack (before front : List Statement) (r : SubmitRun (Connection δ))
    (verdicts : List Verdict) (records : List Prediction)
    (rest : List Prediction × Except Error Unit × Connection δ) : Prop where
  output : r.output = verdicts.map Verdict.text ++ (if r.accepted.isEmpty then [] else [""]) ++
    records.map resultLine
  unread : ∀ statement ∈ front, statement.isSelect = false
  concluded : ∀ id ∈ r.accepted, Concluded front r.engine id
  reading : ∃ drained : Connection δ, drained.sent = before ++ front ∧
    drained.readAll r.accepted = (records ++ rest.1, rest.2)

/-- What holds in each phase of a run. -/
def Course (before : List Statement) (resources : List String) (r : SubmitRun (Connection δ)) :
    Prop :=
  match r.phase with
  | .submitting _ resource others => r.Decides before resources (resource :: others)
  | .draining _ => r.Decides before resources []
  | .reading ids => ∃ verdicts front reads records, Tells resources r.accepted verdicts [] ∧
      r.ReadBack before front verdicts records (r.engine.store.readAll ids) ∧
      r.accepted = reads ++ ids ∧
      r.engine.store.sent = before ++ front ++ reads.map .select
  | .ended result => r.FailsWith result ∨ ∃ verdicts front records, Tells resources r.accepted verdicts [] ∧
      r.ReadBack before front verdicts records ([], result, r.engine.store)

variable {capacity : UInt64} {table : LabelTable} {connection : Connection δ}
  {surroundings : Surroundings} {freshIds : Nat → PredictionId} {engine : State (Connection δ)}
  {verdicts : List Verdict} {records : List Prediction}
  {rest : List Prediction × Except Error Unit × Connection δ}

/-- Nothing changes that matters to what has been read back. -/
theorem ReadBack.of_eq {r' : SubmitRun (Connection δ)}
    (h : r.ReadBack before front verdicts records rest)
    (tasks : r'.engine.tasks = r.engine.tasks) (deeds : r'.engine.deeds = r.engine.deeds)
    (table : r'.engine.table = r.engine.table) (accepted : r'.accepted = r.accepted)
    (output : r'.output = r.output) : r'.ReadBack before front verdicts records rest where
  output := by rw [output, accepted, h.output]
  unread := h.unread
  concluded id mem := (h.concluded id (accepted ▸ mem)).of_eq tasks deeds table
  reading := accepted ▸ h.reading

theorem Course.poll (h : r.Course before resources)
    (course : r.InCourse (.start capacity table connection surroundings freshIds))
    (step : r.engine.step? = some engine) : Course before resources { r with engine } := by
  have goes_on {pending : List String} {t : TaskId}
      (busy : r.Busy (.start capacity table connection surroundings freshIds) t)
      (decides : r.Decides before resources pending) :
      Decides before resources { r with engine } pending := by
    obtain ⟨verdicts, front, tells, output, sends⟩ := decides
    obtain ⟨more, next⟩ := sends.step (recorded_of_reachable busy.reached) busy.unbroken step
    exact ⟨verdicts, front ++ more, tells, output, next⟩
  obtain ⟨before_engine, context, owner, phase, accepted, output⟩ := r
  cases phase with
  | submitting => exact goes_on course.1 h
  | draining => exact goes_on course.1 h
  | reading ids =>
    obtain ⟨verdicts, front, reads, records, tells, readBack, named, sent⟩ := h
    obtain ⟨rest, rfl⟩ := course.1.past.step step
    exact ⟨verdicts, front, reads, records, tells,
      readBack.of_eq rfl rfl rfl rfl rfl, named, sent⟩
  | ended result =>
    rcases h with ⟨t, submission, error, here, failed⟩ | ⟨verdicts, front, records, tells, readBack⟩
    · exact .inl ⟨t, submission, error, step?_asleep step here rfl, failed⟩
    · rcases course.1 with carried | ⟨t, submission, error, here, failed⟩
      · obtain ⟨rest, rfl⟩ := carried.past.step step
        exact .inr ⟨verdicts, front, records, tells,
          readBack.of_eq rfl rfl rfl rfl rfl⟩
      · exact .inl ⟨t, submission, error, step?_asleep step here rfl, failed⟩

/-- The service is heard from; the store is left alone. -/
theorem Course.hear (h : r.Course before resources)
    (course : r.InCourse (.start capacity table connection surroundings freshIds))
    (hears : Hears r.engine engine) : Course before resources { r with engine } := by
  have goes_on {pending : List String} {t : TaskId}
      (busy : r.Busy (.start capacity table connection surroundings freshIds) t)
      (decides : r.Decides before resources pending) :
      Decides before resources { r with engine } pending := by
    obtain ⟨verdicts, front, tells, output, sends⟩ := decides
    have grows : Grows r.engine engine := by
      obtain ⟨stimulus, rfl⟩ := hears.event
      exact (Reachable.start.event stimulus).grows
    exact ⟨verdicts, front, tells, output, sends.idle (recorded_of_reachable busy.reached) grows
      hears.store fun mem => hears.deeds ▸ mem⟩
  obtain ⟨before_engine, context, owner, phase, accepted, output⟩ := r
  cases phase with
  | submitting => exact goes_on course.1 h
  | draining => exact goes_on course.1 h
  | reading ids =>
    obtain ⟨verdicts, front, reads, records, tells, readBack, named, sent⟩ := h
    refine ⟨verdicts, front, reads, records, tells, ?_, named, hears.store ▸ sent⟩
    exact hears.store ▸ readBack.of_eq (hears.tasks_eq course.1.past) hears.deeds hears.table rfl rfl
  | ended result =>
    rcases h with ⟨t, submission, error, here, failed⟩ | ⟨verdicts, front, records, tells, readBack⟩
    · exact .inl ⟨t, submission, error, hears.over_task here rfl, failed⟩
    · rcases course.1 with carried | ⟨t, submission, error, here, failed⟩
      · refine .inr ⟨verdicts, front, records, tells, ?_⟩
        exact hears.store ▸ readBack.of_eq (hears.tasks_eq carried.past) hears.deeds hears.table rfl rfl
      · exact .inl ⟨t, submission, error, hears.over_task here rfl, failed⟩

/-- The next resource is handed over, or the drain begins. -/
theorem course_proceed (recorded : Recorded r.engine) (decides : r.Decides before resources pending) :
    (r.proceed pending).Course before resources := by
  obtain ⟨verdicts, front, tells, output, sends⟩ := decides
  have begins (added : Task) : Sends before front (r.engine.spawn added) :=
    sends.idle recorded (.of_append rfl rfl rfl) rfl id
  cases pending with
  | nil => exact ⟨verdicts, front, tells, output, begins _⟩
  | cons resource others => exact ⟨verdicts, front, tells, output, begins _⟩

/-- A resource has been decided: its line is printed. -/
theorem Decides.returned {resource : String} {others : List String} {submission : Submission}
    (h : r.Decides before resources (resource :: others)) (recorded : Recorded r.engine)
    {result : Except Error Prediction}
    (here : r.engine.tasks[t]? = some (.submit submission (.done (.returned result)))) :
    (r.returned resource others result).Course before resources := by
  obtain ⟨verdicts, front, tells, output, sends⟩ := h
  cases result with
  | ok record =>
    refine course_proceed (r := { r.print (acceptedLine record.id resource) with
      accepted := r.accepted ++ [record.id] }) recorded
      ⟨verdicts ++ [.accepted record.id resource], front, ⟨?_, ?_, ?_⟩, ?_, sends⟩
    · simpa [Verdict.resource] using tells.named
    · simp [tells.accepted, Verdict.id?]
    · intro name problem mem
      exact tells.refusals (by simpa using mem)
    · simp [SubmitRun.print, output, Verdict.text]
  | error error =>
    by_cases rejected : error.isRejection = true
    · rw [SubmitRun.returned, if_pos rejected]
      refine course_proceed (r := r.print (rejectedLine resource error)) recorded
        ⟨verdicts ++ [.rejected resource error], front, ⟨?_, ?_, ?_⟩, ?_, sends⟩
      · simpa [Verdict.resource] using tells.named
      · simp [SubmitRun.print, tells.accepted, Verdict.id?]
      · intro name problem mem
        rcases List.mem_append.1 mem with mem | mem
        · exact tells.refusals mem
        · obtain ⟨-, rfl⟩ : name = resource ∧ problem = error := by simpa using mem
          exact rejected
      · simp [SubmitRun.print, output, Verdict.text]
    · rw [SubmitRun.returned, if_neg rejected]
      exact .inl ⟨t, submission, error, here, Bool.eq_false_iff.2 rejected, rfl⟩

/-- The drain is over, and reading begins. -/
theorem Decides.drained (h : r.Decides before resources [])
    (concluded : ∀ front, Sends before front r.engine →
      ∀ id ∈ r.accepted, Concluded front r.engine id) :
    r.drained.Course before resources := by
  obtain ⟨verdicts, front, tells, output, sends⟩ := h
  refine ⟨verdicts, front, [], [], tells, ⟨?_, sends.unread, concluded front sends, ?_⟩, rfl, ?_⟩
  · simp [SubmitRun.drained, output]
  · exact ⟨r.engine.store, sends.sent, rfl⟩
  · simp [SubmitRun.drained, sends.sent]

/-- The next record is read back. -/
theorem ReadBack.next {id : PredictionId} {ids reads : List PredictionId}
    (tells : Tells resources r.accepted verdicts [])
    (h : r.ReadBack before front verdicts records (r.engine.store.readAll (id :: ids)))
    (named : r.accepted = reads ++ id :: ids)
    (sent : r.engine.store.sent = before ++ front ++ reads.map .select) :
    (r.readBack id ids).Course before resources := by
  have asked := r.engine.store.sent_get id
  obtain ⟨drained, sent_before, reading⟩ := h.reading
  unfold SubmitRun.readBack
  have reply : PredictionStore.get r.engine.store id = r.engine.store.get id := rfl
  rcases got : r.engine.store.get id with ⟨error | record, after⟩
  · rw [reply, got]
    rw [Connection.readAll_unread got] at reading
    exact .inr ⟨verdicts, front, records, tells, h.output, h.unread, h.concluded, drained,
      sent_before, reading⟩
  · rw [reply, got]
    rw [got] at asked
    rw [Connection.readAll_read got] at reading
    refine ⟨verdicts, front, reads ++ [id], records ++ [record], tells,
      ⟨?_, h.unread, h.concluded, drained, sent_before, ?_⟩, ?_, ?_⟩
    · simp [SubmitRun.print, h.output]
    · rw [List.append_assoc]
      exact reading
    · rw [List.append_assoc]
      exact named
    · refine asked.trans ?_
      rw [sent]
      simp

theorem Course.advance (h : r.Course before resources)
    (course : r.InCourse (.start capacity table connection surroundings freshIds)) :
    r.advance.Course before resources := by
  have same := h
  unfold SubmitRun.advance
  obtain ⟨engine, context, owner, phase, accepted, output⟩ := r
  cases phase with
  | submitting t resource others =>
    have recorded := recorded_of_reachable course.1.reached
    dsimp only
    split
    · exact Decides.returned h recorded ‹_›
    · exact same
  | draining t =>
    obtain ⟨busy, stage, here, done⟩ := course
    dsimp only
    split
    · rename_i ended
      obtain ⟨past, -⟩ := done (by simpa using here.symm.trans ended)
      refine Decides.drained h fun front sends id mem => ?_
      exact .of_answered sends (recorded_of_reachable busy.reached) (busy.answered past id mem)
    · exact same
  | reading ids =>
    obtain ⟨verdicts, front, reads, records, tells, readBack, named, sent⟩ := h
    cases ids with
    | nil => exact .inr ⟨verdicts, front, records, tells, readBack.of_eq rfl rfl rfl rfl rfl⟩
    | cons id rest => exact readBack.next tells named sent
  | ended result => exact same

/-- No submission has returned an error that is no refusal. -/
def Decided (r : SubmitRun (Connection δ)) : Prop :=
  ∀ (t : TaskId) (submission : Submission) (error : Error),
    r.engine.tasks[t]? = some (.submit submission (.done (.returned (.error error)))) →
      error.isRejection = true

/-- What a run comes to that has ended with the result: its lines, and its statements since `before`. -/
structure Accounts (before : List Statement) (resources : List String) (r : SubmitRun (Connection δ))
    (result : Except Error Unit) (verdicts : List Verdict) (front : List Statement)
    (records : List Prediction) : Prop where
  /-- One line for each resource, in order. -/
  named : verdicts.map Verdict.resource = resources
  refusals : ∀ {resource : String} {error : Error}, .rejected resource error ∈ verdicts →
    error.isRejection = true
  accepted : r.accepted = verdicts.filterMap Verdict.id?
  output : r.output = verdicts.map Verdict.text ++ (if r.accepted.isEmpty then [] else [""]) ++
    records.map resultLine
  /-- One select for each accepted prediction, up to the first that cannot be read. -/
  sent : r.engine.store.sent =
    before ++ front ++ (r.accepted.take (records.length + 1)).map .select
  unread : ∀ statement ∈ front, statement.isSelect = false
  updated : ∀ id ∈ r.accepted, Updated front r.engine id
  /-- The records are those that the server has returned for these selects. -/
  read : ∃ drained : Connection δ, drained.sent = before ++ front ∧
    drained.readAll r.accepted = (records, result, r.engine.store)
  whole : result = .ok () ↔ records.length = r.accepted.length

omit [Server δ] in
theorem Concluded.updated {id : PredictionId} (h : Concluded front r.engine id) (calm : r.Calm) :
    Updated front r.engine id := by
  rcases h with ⟨t, panic⟩ | updated
  · exact absurd rfl (calm _ panic)
  · exact updated

theorem Course.accounts {result : Except Error Unit} (h : r.Course before resources)
    (ended : r.phase = .ended result) (decided : r.Decided) (calm : r.Calm) :
    ∃ verdicts front records, r.Accounts before resources result verdicts front records := by
  unfold Course at h
  rw [ended] at h
  rcases h with ⟨t, submission, error, here, failed, -⟩ | ⟨verdicts, front, records, tells, readBack⟩
  · rw [decided t submission error here] at failed
    cases failed
  · obtain ⟨drained, sent, reading⟩ := readBack.reading
    rw [List.append_nil] at reading
    refine ⟨verdicts, front, records, ?_⟩
    exact {
      named := by simpa using tells.named
      refusals := tells.refusals
      accepted := tells.accepted
      output := readBack.output
      sent := sent ▸ Connection.sent_readAll reading
      unread := readBack.unread
      updated := fun id mem => (readBack.concluded id mem).updated calm
      read := ⟨drained, sent, reading⟩
      whole := (Connection.length_readAll reading).2 }

end SubmitRun

end Predictor.CommandLine
