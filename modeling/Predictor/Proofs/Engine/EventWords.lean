import Predictor.Proofs.Engine.Accounting

/-!
What the log says about one resource: a row of complete words, one for each admission that was given
back, and then the beginning of the word of the admission that is still held, if one is. The words
of a resource do not overlap because no two tasks hold its admission at a time. Who has a word is known
from the tasks and from the submissions that have passed admission (`GaveBack`).
-/

namespace Predictor.Engine

open Telemetry

variable {σ : Type}

/-- An event concerns a resource that it names, itself or by the span it is in. -/
def concerns (resource : String) (event : Event) : Bool :=
  event.happening.fields.lookup "resource" == some resource ||
    event.span.any fun span => span.fields.lookup "prediction.resource" == some resource

/-! ## Who has given an admission back -/

/-- Task `t` had an admission and has given it back: it is a unit of work that is over, or a submission
that had passed admission and is over without a record. -/
inductive GaveBack (s : State σ) (t : TaskId) : Task → Prop
  | unit (w : Work) (panicked : Bool) : GaveBack s t (.work w (.done panicked))
  | submission (submission : Submission) (ending : SubmitEnding) (entrant : t ∈ s.entrants)
      (failed : ∀ record, ending ≠ .returned (.ok record)) :
      GaveBack s t (.submit submission (.done ending))

theorem GaveBack.isFinished {s : State σ} {t : TaskId} {task : Task} (h : GaveBack s t task) :
    task.isFinished = true := by
  cases h <;> rfl

theorem GaveBack.congr {s s' : State σ} {t : TaskId} (same : t ∈ s'.entrants ↔ t ∈ s.entrants)
    (task : Task) : GaveBack s' t task ↔ GaveBack s t task := by
  constructor
  · rintro (⟨w, panicked⟩ | ⟨submission, ending, entrant, failed⟩)
    · exact .unit w panicked
    · exact .submission submission ending (same.1 entrant) failed
  · rintro (⟨w, panicked⟩ | ⟨submission, ending, entrant, failed⟩)
    · exact .unit w panicked
    · exact .submission submission ending (same.2 entrant) failed

/-- Submissions that have passed admission hold it or are over, and all that are inside their creation
calls have passed it. -/
structure Entrants (s : State σ) : Prop where
  begun : ∀ t ∈ s.entrants, ∃ task, s.tasks[t]? = some task ∧ (task.held?.isSome ∨ task.isFinished)
  creating : ∀ (t : TaskId) (submission : Submission) (granted : Bool),
    s.tasks[t]? = some (.submit submission (.creating granted)) → t ∈ s.entrants

/-- Task `t` comes to a new stage. The other tasks are as they were, but units of work may begin, and
which of them have passed admission is as before. -/
structure Advanced (s s' : State σ) (t : TaskId) (after : Task) : Prop where
  own : s'.tasks[t]? = some after
  kept : ∀ (i : TaskId) (task : Task), i ≠ t → s.tasks[i]? = some task → s'.tasks[i]? = some task
  old : ∀ (i : TaskId) (task : Task), i ≠ t → s'.tasks[i]? = some task →
    s.tasks[i]? = some task ∨ ∃ w, task = .work w .new
  entrants : ∀ i, i ≠ t → (i ∈ s'.entrants ↔ i ∈ s.entrants)

section Changes

variable {s s' : State σ} {t : TaskId} {before after : Task}

theorem advanced_of_set (here : s.tasks[t]? = some before) (tasks : s'.tasks = s.tasks.set t after)
    (entrants : ∀ i, i ≠ t → (i ∈ s'.entrants ↔ i ∈ s.entrants)) : Advanced s s' t after where
  own := getElem?_of_set_self tasks here
  kept _ _ other there := (getElem?_of_set_ne tasks other).trans there
  old _ _ other there := .inl ((getElem?_of_set_ne tasks other).symm.trans there)
  entrants := entrants

theorem advanced_of_launch {w : Work} (here : s.tasks[t]? = some before)
    (tasks : s'.tasks = s.tasks.set t after ++ [.work w .new]) (entrants : s'.entrants = s.entrants) :
    Advanced s s' t after where
  own := getElem?_of_append tasks (getElem?_of_set_self rfl here)
  kept i task other there := by
    refine getElem?_of_append tasks ?_
    rwa [getElem?_of_set_ne rfl other]
  old i task other there := by
    rcases cases_of_append tasks there with ⟨-, rfl⟩ | old
    · exact .inr ⟨w, rfl⟩
    · exact .inl ((getElem?_of_set_ne rfl other).symm.trans old)
  entrants i _ := by rw [entrants]

theorem Entrants.advanced (h : Entrants s) (advanced : Advanced s s' t after)
    (later : after.held?.isSome ∨ after.isFinished)
    (entrant : ∀ submission granted, after = .submit submission (.creating granted) →
      t ∈ s'.entrants) : Entrants s' where
  begun := by
    intro i mem
    by_cases hit : i = t
    · subst hit
      exact ⟨after, advanced.own, later⟩
    · obtain ⟨task, there, begun⟩ := h.begun i ((advanced.entrants i hit).1 mem)
      exact ⟨task, advanced.kept i task hit there, begun⟩
  creating := by
    intro i submission granted there
    by_cases hit : i = t
    · subst hit
      exact entrant submission granted (Option.some.inj (advanced.own.symm.trans there))
    · rcases advanced.old i _ hit there with old | ⟨w, clash⟩
      · exact (advanced.entrants i hit).2 (h.creating i submission granted old)
      · cases clash

end Changes

theorem Carries.held {old new : Task} {es : List Event} (h : Carries old new es) :
    ∃ resource, old.held? = some resource := by
  cases h <;> exact ⟨_, rfl⟩

theorem Carries.was_creating {old new : Task} {es : List Event} (h : Carries old new es)
    {submission : Submission} {granted : Bool} (after : new = .submit submission (.creating granted)) :
    ∃ g, old = .submit submission (.creating g) := by
  cases h <;> cases after
  exact ⟨_, rfl⟩

theorem Finishes.isFinished {old new : Task} {es : List Event} (h : Finishes old new es) :
    new.isFinished = true := by
  cases h <;> rfl

/-- Who gives an admission back has passed admission, if it is a submission. -/
theorem Finishes.gaveBack {s s' : State σ} {t : TaskId} {old new : Task} {es : List Event}
    (h : Finishes old new es) (here : s.tasks[t]? = some old) (entered : Entrants s)
    (entrants : s'.entrants = s.entrants) : GaveBack s' t new := by
  cases h with
  | rolledBack submission g | createPanicked submission g | cancelled submission g =>
    exact .submission submission _ (entrants ▸ entered.creating t submission g here) (by simp)
  | classifyPanicked w | finalizePanicked w | written w | unwritten w => exact .unit w _

/-- If a move touches no admission, nobody gives one back by it. -/
theorem Entrants.gaveBack_before {s s' : State σ} (h : Entrants s)
    (kept : ∀ (t : TaskId) (task : Task), s.tasks[t]? = some task →
      task.held?.isSome ∨ task.isFinished → s'.tasks[t]? = some task)
    (old : ∀ (t : TaskId) (task : Task), s'.tasks[t]? = some task →
      task.held?.isSome ∨ task.isFinishedWork → s.tasks[t]? = some task)
    {t : TaskId} {task : Task} (there : s'.tasks[t]? = some task) (back : GaveBack s t task) :
    s.tasks[t]? = some task := by
  cases back with
  | unit w panicked => exact old t _ there (.inr rfl)
  | submission submission ending entrant =>
    obtain ⟨task, here, begun⟩ := h.begun t entrant
    rw [← kept t task here begun, there] at here
    exact here

theorem Entrants.effect {s s' : State σ} (e : Effect s s') (h : Entrants s) : Entrants s' := by
  cases e with
  | inert _ entrants _ _ kept old =>
    refine ⟨fun t mem => ?_, fun t submission granted there => ?_⟩
    · obtain ⟨task, here, begun⟩ := h.begun t (entrants ▸ mem)
      exact ⟨task, kept t task here begun, begun⟩
    · rw [entrants]
      exact h.creating t submission granted (old t _ there (.inl rfl))
  | @occupy t submission here _ _ tasks entrants =>
    refine h.advanced (advanced_of_set here tasks fun i hit => ?_) (.inl rfl) fun _ _ _ => ?_
    · simp [entrants, hit]
    · simp [entrants]
  | @carry t _ _ _ here carries _ tasks entrants =>
    refine h.advanced (advanced_of_set here tasks fun i _ => by rw [entrants]) (.inl ?_)
      fun submission granted after => ?_
    · obtain ⟨resource, held⟩ := carries.held
      rw [carries.held_eq, held]
      rfl
    · obtain ⟨g, rfl⟩ := carries.was_creating after
      rw [entrants]
      exact h.creating t submission g here
  | launch here _ _ tasks entrants =>
    exact h.advanced (advanced_of_launch here tasks entrants) (.inr rfl) fun _ _ clash => by cases clash
  | finish here finishes _ _ tasks entrants =>
    have finished := finishes.isFinished
    refine h.advanced (advanced_of_set here tasks fun i _ => by rw [entrants]) (.inr finished)
      fun submission granted after => ?_
    rw [after] at finished
    cases finished

/-! ## Words -/

/-- How a unit of work ends: its outcome is written, or not, or something panicked. -/
inductive Ending
  | written (status : Status)
  | unwritten (error : Error)
  | panicked

def Ending.isPanic : Ending → Bool
  | .panicked => true
  | _ => false

namespace Work

/-- What is logged of a unit of work up to the end of its classification call. -/
def opening (w : Work) (owner : String) (fault : Option ClassifyError) : List Event :=
  ⟨.admitted w.id w.resource owner, none⟩ ::
    (fault.map fun error => ⟨.classificationFailed error, some (w.span none)⟩).toList

/-- What a unit of work logs at its end; the span carries a status once one is recorded. -/
def closing (w : Work) : Ending → List Event
  | .written status =>
    [⟨.statusTransition status, some (w.span (some status))⟩,
      ⟨.released w.resource, some (w.span (some status))⟩]
  | .unwritten error =>
    [⟨.finalizationFailed w.id w.resource error, some (w.span none)⟩,
      ⟨.released w.resource, some (w.span none)⟩]
  | .panicked => [⟨.released w.resource, some (w.span none)⟩]

end Work

/-- The complete words of a resource, each with the task that is over when it ends. -/
inductive CompleteWord (resource : String) : Task → List Event → Prop
  | rolledBack (submission : Submission) (error : Error)
      (about : submission.resource = resource) :
      CompleteWord resource (.submit submission (.done (.returned (.error error))))
        [⟨.released resource, none⟩, ⟨.creationFailed resource error, none⟩]
  | createPanicked (submission : Submission) (about : submission.resource = resource) :
      CompleteWord resource (.submit submission (.done .panicked)) [⟨.released resource, none⟩]
  | cancelled (submission : Submission) (about : submission.resource = resource) :
      CompleteWord resource (.submit submission (.done .cancelled)) [⟨.released resource, none⟩]
  | unit (w : Work) (owner : String) (fault : Option ClassifyError) (ending : Ending)
      (about : w.resource = resource) :
      CompleteWord resource (.work w (.done ending.isPanic))
        (w.opening owner fault ++ w.closing ending)

/-- What has been logged so far of the admission that a task holds. -/
inductive BegunWord : Task → List Event → Prop
  | creating (submission : Submission) (g : Bool) :
      BegunWord (.submit submission (.creating g)) []
  | new (w : Work) (owner : String) : BegunWord (.work w .new) (w.opening owner none)
  | classifying (w : Work) (owner : String) (g : Bool) :
      BegunWord (.work w (.classifying g)) (w.opening owner none)
  | finalizing (w : Work) (owner : String) (fault : Option ClassifyError) (outcome : Outcome)
      (g : Bool) : BegunWord (.work w (.finalizing outcome g)) (w.opening owner fault)

/-- The log of a resource, in words. -/
structure Told (s : State σ) (resource : String) (words : List (TaskId × List Event))
    (cut : List Event) : Prop where
  split : s.events.filter (concerns resource) = words.flatMap Prod.snd ++ cut
  /-- No task has two words. -/
  distinct : (words.map Prod.fst).Nodup
  complete : ∀ entry ∈ words,
    ∃ task, s.tasks[entry.1]? = some task ∧ CompleteWord resource task entry.2
  /-- All tasks that have given an admission for the resource back have their words, and no others. -/
  covered : ∀ t : TaskId, t ∈ words.map Prod.fst ↔
    ∃ task, s.tasks[t]? = some task ∧ task.resource? = some resource ∧ GaveBack s t task
  begun : ∀ (t : TaskId) (task : Task), s.tasks[t]? = some task →
    task.held? = some resource → BegunWord task cut
  idle : (∀ t, ¬ s.Holds t resource) → cut = []

/-! ## Which events concern which resource -/

/-- The resource that an event names itself. -/
def namedResource? : Happening → Option String
  | .admitted _ resource _ | .creationFailed resource _ => resource
  | .finalizationFailed _ resource _ => resource
  | .released resource | .serviceRejected _ resource => resource
  | .classificationFailed _ | .statusTransition _ | .headerDropped _ => none

theorem concerns_eq (resource : String) (event : Event) :
    concerns resource event = (namedResource? event.happening == some resource ||
      event.span.any fun span => span.resource == resource) := by
  obtain ⟨happening, span⟩ := event
  have hnamed : happening.fields.lookup "resource" = namedResource? happening := by
    cases happening <;> simp [Happening.fields, namedResource?, List.lookup_cons]
  have hspan : ∀ sp : Span, sp.fields.lookup "prediction.resource" = some sp.resource := by
    intro sp
    simp [Span.fields, List.lookup_cons]
  simp [concerns, hnamed, hspan]

/-- All these events are about one resource. -/
def About (resource : String) (events : List Event) : Prop :=
  ∀ event ∈ events, ∀ r, concerns r event = (resource == r)

theorem About.filter_self {resource : String} {events : List Event} (h : About resource events) :
    events.filter (concerns resource) = events :=
  List.filter_eq_self.2 fun event hmem => by simp [h event hmem]

theorem About.filter_other {resource r : String} {events : List Event} (h : About resource events)
    (other : resource ≠ r) : events.filter (concerns r) = [] :=
  List.filter_eq_nil_iff.2 fun event hmem => by simp [h event hmem, other]

theorem about_admitted (w : Work) (owner : String) :
    About w.resource [⟨.admitted w.id w.resource owner, none⟩] := by
  simp [About, concerns_eq, namedResource?]

theorem Carries.about {old new : Task} {es : List Event} {resource : String}
    (h : Carries old new es) (held : old.held? = some resource) : About resource es := by
  cases h with
  | unanswered w g g' error =>
    obtain rfl := Option.some.inj held
    simp [About, concerns_eq, namedResource?, Work.span]
  | _ => simp [About]

theorem Finishes.about {old new : Task} {es : List Event} {resource : String}
    (h : Finishes old new es) (held : old.held? = some resource) : About resource es := by
  cases h <;> obtain rfl := Option.some.inj held <;>
    simp [About, concerns_eq, namedResource?, Work.span]

theorem Finishes.resource?_eq {old new : Task} {es : List Event} (h : Finishes old new es) :
    new.resource? = old.resource? := by
  cases h <;> rfl

/-! ## What a move adds to the word of its task -/

theorem BegunWord.carry {old new : Task} {es cut : List Event} (h : BegunWord old cut)
    (carries : Carries old new es) : BegunWord new (cut ++ es) := by
  cases carries with
  | creating submission g g' =>
    cases h
    exact .creating submission g'
  | called w g =>
    cases h with
    | new _ owner => exact (List.append_nil _).symm ▸ .classifying w owner g
  | classifying w g g' =>
    cases h with
    | classifying _ owner _ => exact (List.append_nil _).symm ▸ .classifying w owner g'
  | answered w g g' label =>
    cases h with
    | classifying _ owner _ => exact (List.append_nil _).symm ▸ .finalizing w owner none _ g'
  | unanswered w g g' error =>
    cases h with
    | classifying _ owner _ => exact .finalizing w owner (some error) _ g'
  | finalizing w outcome g g' =>
    cases h with
    | finalizing _ owner fault _ _ =>
      exact (List.append_nil _).symm ▸ .finalizing w owner fault _ g'

theorem BegunWord.finish {old new : Task} {es cut : List Event} {resource : String}
    (h : BegunWord old cut) (finishes : Finishes old new es) (held : old.held? = some resource) :
    CompleteWord resource new (cut ++ es) := by
  cases finishes <;> obtain rfl := Option.some.inj held
  case rolledBack submission g error =>
    cases h
    exact .rolledBack submission error rfl
  case createPanicked submission g =>
    cases h
    exact .createPanicked submission rfl
  case cancelled submission g =>
    cases h
    exact .cancelled submission rfl
  case classifyPanicked w g =>
    cases h with
    | classifying _ owner _ => exact .unit w owner none .panicked rfl
  case finalizePanicked w outcome g =>
    cases h with
    | finalizing _ owner fault _ _ => exact .unit w owner fault .panicked rfl
  case written w outcome g =>
    cases h with
    | finalizing _ owner fault _ _ => exact .unit w owner fault (.written outcome.status) rfl
  case unwritten w outcome g error =>
    cases h with
    | finalizing _ owner fault _ _ => exact .unit w owner fault (.unwritten error) rfl

theorem CompleteWord.resource?_eq {resource : String} {task : Task} {word : List Event}
    (h : CompleteWord resource task word) : task.resource? = some resource := by
  cases h with
  | unit _ _ _ _ about => exact congrArg some about
  | rolledBack _ _ about => exact congrArg some about
  | createPanicked _ about => exact congrArg some about
  | cancelled _ about => exact congrArg some about

theorem CompleteWord.isFinished {resource : String} {task : Task} {word : List Event}
    (h : CompleteWord resource task word) : task.isFinished = true := by
  cases h <;> rfl

/-! ## The log under each effect -/

theorem Task.resource?_of_held {task : Task} {resource : String}
    (held : task.held? = some resource) : task.resource? = some resource := by
  unfold Task.held? at held
  split at held <;> simp_all [Task.resource?]

section

variable {s s' : State σ} {resource : String} {words : List (TaskId × List Event)}
  {cut : List Event}

/-- A task with a word is over. -/
theorem Told.not_mem (h : Told s resource words cut) {t : TaskId} {task : Task}
    (here : s.tasks[t]? = some task) (running : task.isFinished = false) :
    t ∉ words.map Prod.fst := by
  intro hmem
  obtain ⟨entry, hentry, rfl⟩ := List.mem_map.1 hmem
  obtain ⟨finished, hfinished, hword⟩ := h.complete entry hentry
  obtain rfl := Option.some.inj (here.symm.trans hfinished)
  simp [hword.isFinished] at running

/-- What does not touch the tasks and events of a resource leaves its words as they are. -/
theorem Told.frame (h : Told s resource words cut)
    (events : s'.events.filter (concerns resource) = s.events.filter (concerns resource))
    (kept : ∀ (t : TaskId) (task : Task), s.tasks[t]? = some task →
      task.resource? = some resource → task.held?.isSome ∨ task.isFinished →
      s'.tasks[t]? = some task)
    (old : ∀ (t : TaskId) (task : Task), s'.tasks[t]? = some task →
      task.resource? = some resource → task.held?.isSome ∨ GaveBack s' t task →
      s.tasks[t]? = some task)
    (gave : ∀ (t : TaskId) (task : Task), s.tasks[t]? = some task →
      task.resource? = some resource → (GaveBack s' t task ↔ GaveBack s t task)) :
    Told s' resource words cut where
  split := events.trans h.split
  distinct := h.distinct
  complete entry hentry := by
    obtain ⟨task, htask, hword⟩ := h.complete entry hentry
    exact ⟨task, kept _ task htask hword.resource?_eq (.inr hword.isFinished), hword⟩
  covered t := by
    rw [h.covered]
    constructor
    · rintro ⟨task, here, about, back⟩
      exact ⟨task, kept t task here about (.inr back.isFinished), about,
        (gave t task here about).2 back⟩
    · rintro ⟨task, there, about, back⟩
      have here := old t task there about (.inr back)
      exact ⟨task, here, about, (gave t task here about).1 back⟩
  begun t task ht held :=
    h.begun t task (old t task ht (Task.resource?_of_held held) (.inl (by simp [held]))) held
  idle free := h.idle fun t ⟨task, ht, held⟩ => free t
    ⟨task, kept t task ht (Task.resource?_of_held held) (.inl (by simp [held])), held⟩

/-- A task about another resource is replaced by one about that resource. -/
theorem Told.other (h : Told s resource words cut) {t : TaskId} {before after : Task}
    {r : String} {es : List Event} (here : s.tasks[t]? = some before)
    (tasks : s'.tasks = s.tasks.set t after) (hbefore : before.resource? = some r)
    (hafter : after.resource? = some r) (advanced : Advanced s s' t after)
    (events : s'.events = s.events ++ es)
    (about : About r es) (different : r ≠ resource) : Told s' resource words cut := by
  refine h.frame ?_ (fun i task hi habout _ => ?_) (fun i task hi habout _ => ?_)
    fun i task hi habout => GaveBack.congr (advanced.entrants i ?_) task
  · rw [events, List.filter_append, about.filter_other different, List.append_nil]
  · rw [getElem?_of_set_ne tasks, hi]
    rintro rfl
    obtain rfl := Option.some.inj (here.symm.trans hi)
    exact different (Option.some.inj (hbefore.symm.trans habout))
  · rcases cases_of_set tasks hi with ⟨-, rfl⟩ | ⟨-, hold⟩
    · exact absurd (Option.some.inj (hafter.symm.trans habout)) different
    · exact hold
  · rintro rfl
    obtain rfl := Option.some.inj (here.symm.trans hi)
    exact different (Option.some.inj (hbefore.symm.trans habout))

/-- Words stay when only a running task changes. -/
theorem Told.complete_of_advanced (h : Told s resource words cut) {t : TaskId} {before after : Task}
    (here : s.tasks[t]? = some before) (running : before.isFinished = false)
    (advanced : Advanced s s' t after) :
    ∀ entry ∈ words,
      ∃ task, s'.tasks[entry.1]? = some task ∧ CompleteWord resource task entry.2 := by
  intro entry hentry
  obtain ⟨task, htask, hword⟩ := h.complete entry hentry
  refine ⟨task, advanced.kept _ task ?_ htask, hword⟩
  intro heq
  exact h.not_mem here running (heq ▸ List.mem_map_of_mem hentry)

/-- When one task changes, the others have words as before. -/
theorem Told.covered_of_ne (h : Told s resource words cut) {t i : TaskId} {after : Task}
    (advanced : Advanced s s' t after) (other : i ≠ t) : i ∈ words.map Prod.fst ↔
      ∃ task, s'.tasks[i]? = some task ∧ task.resource? = some resource ∧ GaveBack s' i task := by
  have same := GaveBack.congr (advanced.entrants i other)
  rw [h.covered]
  constructor
  · rintro ⟨task, here, about, back⟩
    exact ⟨task, advanced.kept i task other here, about, (same task).2 back⟩
  · rintro ⟨task, there, about, back⟩
    rcases advanced.old i task other there with here | ⟨w, rfl⟩
    · exact ⟨task, here, about, (same task).1 back⟩
    · cases back

/-- When a running task changes and has not given its admission back, words are as before. -/
theorem Told.covered_of_advanced (h : Told s resource words cut) {t : TaskId} {before after : Task}
    (here : s.tasks[t]? = some before) (running : before.isFinished = false)
    (advanced : Advanced s s' t after) (keeps : ¬GaveBack s' t after) (i : TaskId) :
    i ∈ words.map Prod.fst ↔
      ∃ task, s'.tasks[i]? = some task ∧ task.resource? = some resource ∧ GaveBack s' i task := by
  by_cases own : i = t
  · subst own
    refine iff_of_false (h.not_mem here running) ?_
    rintro ⟨task, there, -, back⟩
    obtain rfl := Option.some.inj (advanced.own.symm.trans there)
    exact keeps back
  · exact h.covered_of_ne advanced own

theorem isFinished_of_held {task : Task} {r : String} (held : task.held? = some r) :
    task.isFinished = false := by
  unfold Task.held? at held
  split at held <;> simp_all [Task.isFinished]

/-- The task that holds the admission moves on: its word is continued. -/
theorem Told.carried (h : Told s resource words cut) (acc : Accounted s) {t : TaskId}
    {before after : Task} {es : List Event} (here : s.tasks[t]? = some before)
    (held : before.held? = some resource) (carries : Carries before after es)
    (tasks : s'.tasks = s.tasks.set t after) (advanced : Advanced s s' t after)
    (events : s'.events = s.events ++ es) : Told s' resource words (cut ++ es) := by
  have hself := holds_set_self here tasks resource
  have hafter : after.held? = some resource := carries.held_eq.trans held
  have others : ∀ i, i ≠ t → ¬ s.Holds i resource := fun i hi hold =>
    hi (acc.single hold (Holds.here here held))
  refine ⟨?_, h.distinct, ?_, ?_, fun i task hi hheld => ?_, ?_⟩
  · rw [events, List.filter_append, (carries.about held).filter_self, h.split, List.append_assoc]
  · exact h.complete_of_advanced here (isFinished_of_held held) advanced
  · refine h.covered_of_advanced here (isFinished_of_held held) advanced fun back => ?_
    exact absurd back.isFinished (by simp [isFinished_of_held hafter])
  · by_cases hit : i = t
    · subst hit
      obtain rfl := Option.some.inj (hi.symm.trans advanced.own)
      exact (h.begun i before here held).carry carries
    · exact absurd ⟨task, (getElem?_of_set_ne tasks hit).symm.trans hi, hheld⟩ (others i hit)
  · exact fun free => absurd (hself.2 hafter) (free t)

/-- The task that holds the admission ends: its word is complete. -/
theorem Told.finished (h : Told s resource words cut) (acc : Accounted s) {t : TaskId}
    {before after : Task} {es : List Event} (here : s.tasks[t]? = some before)
    (held : before.held? = some resource) (finishes : Finishes before after es)
    (tasks : s'.tasks = s.tasks.set t after) (advanced : Advanced s s' t after)
    (back : GaveBack s' t after) (events : s'.events = s.events ++ es) :
    Told s' resource (words ++ [(t, cut ++ es)]) [] := by
  refine ⟨?_, ?_, ?_, fun i => ?_, fun i task hi hheld => ?_, fun _ => rfl⟩
  · rw [events, List.filter_append, (finishes.about held).filter_self, h.split]
    simp
  · rw [List.map_append]
    refine List.Nodup.append h.distinct (List.nodup_singleton _) (List.disjoint_singleton.2 ?_)
    exact h.not_mem here (isFinished_of_held held)
  · intro entry hentry
    rcases List.mem_append.1 hentry with hold | hnew
    · exact h.complete_of_advanced here (isFinished_of_held held) advanced entry hold
    · obtain rfl := List.mem_singleton.1 hnew
      exact ⟨after, advanced.own, (h.begun t before here held).finish finishes held⟩
  · by_cases hit : i = t
    · subst hit
      refine iff_of_true (List.mem_map.2 ⟨_, List.mem_append_right _ (List.mem_singleton_self _), rfl⟩)
        ⟨after, advanced.own, finishes.resource?_eq.trans (Task.resource?_of_held held), back⟩
    · rw [List.map_append, List.mem_append, List.map_singleton, List.mem_singleton, or_iff_left hit]
      exact h.covered_of_ne advanced hit
  · obtain ⟨hit, hold⟩ := (holds_finish here finishes.held_eq_none tasks i resource).1
      ⟨task, hi, hheld⟩
    exact absurd (acc.single hold (Holds.here here held)) hit

/-- An admission begins: nothing is cut short then, and nothing is logged. -/
theorem Told.occupied (h : Told s resource words cut) (acc : Accounted s) {t : TaskId}
    {submission : Submission} (here : s.tasks[t]? = some (.submit submission .new))
    (new : resource ∉ s.admission.claimed)
    (tasks : s'.tasks = s.tasks.set t (.submit submission (.creating true)))
    (advanced : Advanced s s' t (.submit submission (.creating true)))
    (events : s'.events = s.events) : Told s' resource words cut := by
  have free : ∀ i, ¬ s.Holds i resource := fun i hi => new ((acc.claims _).2 ⟨i, hi⟩)
  obtain rfl := h.idle free
  refine ⟨events ▸ h.split, h.distinct, ?_, ?_, fun i task hi hheld => ?_, fun _ => rfl⟩
  · exact h.complete_of_advanced here rfl advanced
  · exact h.covered_of_advanced here rfl advanced nofun
  · by_cases hit : i = t
    · subst hit
      obtain rfl := Option.some.inj (advanced.own.symm.trans hi)
      exact .creating submission true
    · exact absurd ⟨task, (getElem?_of_set_ne tasks hit).symm.trans hi, hheld⟩ (free i)

/-- The unit of work begins, and its word with it. -/
theorem Told.launched (h : Told s resource words cut) (acc : Accounted s) {t : TaskId}
    {submission : Submission} {record : Prediction} {w : Work}
    (here : s.tasks[t]? = some (.submit submission (.creating true)))
    (about : w.resource = submission.resource) (own : submission.resource = resource)
    (tasks : s'.tasks =
      s.tasks.set t (.submit submission (.done (.returned (.ok record)))) ++ [.work w .new])
    (advanced : Advanced s s' t (.submit submission (.done (.returned (.ok record)))))
    (events : s'.events = s.events ++ [⟨.admitted w.id w.resource submission.owner, none⟩]) :
    Told s' resource words (w.opening submission.owner none) := by
  have held : (Task.submit submission (.creating true)).held? = some resource := congrArg some own
  have hcut : cut = [] := by
    cases h.begun t _ here held
    rfl
  subst hcut
  have launched : (Task.work w .new).held? = some resource := congrArg some (about.trans own)
  have habout : About resource [⟨.admitted w.id w.resource submission.owner, none⟩] :=
    about.trans own ▸ about_admitted w submission.owner
  have hlength := getElem?_launch_length tasks
  refine ⟨?_, h.distinct, ?_, ?_, fun i task hi hheld => ?_, ?_⟩
  · rw [events, List.filter_append, habout.filter_self, h.split, List.append_nil]
    rfl
  · exact h.complete_of_advanced here rfl advanced
  · refine h.covered_of_advanced here rfl advanced ?_
    rintro (_ | ⟨_, _, _, failed⟩)
    exact failed record rfl
  · rcases (holds_launch here rfl launched tasks i resource).1
      ⟨task, hi, hheld⟩ with ⟨hit, hold⟩ | ⟨rfl, -⟩
    · exact absurd (acc.single hold (Holds.here here held)) hit
    · obtain rfl := Option.some.inj (hlength.symm.trans hi)
      exact .new w submission.owner
  · exact fun free => absurd ⟨_, hlength, launched⟩ (free s.tasks.length)

/-- A launch about another resource. -/
theorem Told.launched_other (h : Told s resource words cut) {t : TaskId}
    {submission : Submission} {record : Prediction} {w : Work}
    (here : s.tasks[t]? = some (.submit submission (.creating true)))
    (about : w.resource = submission.resource) (other : submission.resource ≠ resource)
    (tasks : s'.tasks =
      s.tasks.set t (.submit submission (.done (.returned (.ok record)))) ++ [.work w .new])
    (entrants : s'.entrants = s.entrants)
    (events : s'.events = s.events ++ [⟨.admitted w.id w.resource submission.owner, none⟩]) :
    Told s' resource words cut := by
  have other' : w.resource ≠ resource := about ▸ other
  have hself : s'.tasks[t]? = some (.submit submission (.done (.returned (.ok record)))) := by
    have hlt := (List.getElem?_eq_some_iff.1 here).1
    rw [getElem?_launch_ne tasks (Nat.ne_of_lt hlt), List.getElem?_set_self hlt]
  refine h.frame ?_ (fun i task hi hr _ => ?_) (fun i task hi hr _ => ?_)
    fun i task _ _ => GaveBack.congr (by rw [entrants]) task
  · rw [events, List.filter_append, (about_admitted w _).filter_other other', List.append_nil]
  · rw [getElem?_launch_other tasks ?_ (Nat.ne_of_lt (List.getElem?_eq_some_iff.1 hi).1), hi]
    rintro rfl
    obtain rfl := Option.some.inj (here.symm.trans hi)
    exact other (Option.some.inj hr)
  · rw [← getElem?_launch_other tasks ?_ ?_, hi]
    · rintro rfl
      obtain rfl := Option.some.inj (hself.symm.trans hi)
      exact other (Option.some.inj hr)
    · rintro rfl
      obtain rfl := Option.some.inj ((getElem?_launch_length tasks).symm.trans hi)
      exact other' (Option.some.inj hr)

theorem Told.effect (e : Effect s s') (acc : Accounted s) (entered : Entrants s)
    (h : ∃ words cut, Told s resource words cut) : ∃ words cut, Told s' resource words cut := by
  obtain ⟨words, cut, h⟩ := h
  cases e with
  | inert _ entrants _ events kept old =>
    have same : ∀ t task, GaveBack s' t task ↔ GaveBack s t task :=
      fun t task => GaveBack.congr (by rw [entrants]) task
    refine ⟨words, cut, h.frame (by rw [events]) (fun t task ht _ => kept t task ht)
      (fun t task ht _ held => ?_) fun t task _ _ => same t task⟩
    rcases held with held | back
    · exact old t task ht (.inl held)
    · exact entered.gaveBack_before kept old ht ((same t task).1 back)
  | @occupy t submission here _ claims tasks entrants _ _ events =>
    have new := (Admission.claim?_reserve claims).1
    have advanced : Advanced s s' t (.submit submission (.creating true)) :=
      advanced_of_set here tasks fun i hit => by simp [entrants, hit]
    by_cases hr : submission.resource = resource
    · exact ⟨words, cut, h.occupied acc here (hr ▸ new) tasks advanced events⟩
    · exact ⟨words, cut, h.other here tasks rfl rfl advanced
        (events.trans (List.append_nil _).symm) (by simp [About]) hr⟩
  | @carry t old new es here carries _ tasks entrants _ events =>
    have advanced : Advanced s s' t new := advanced_of_set here tasks fun i _ => by rw [entrants]
    obtain ⟨r, held⟩ := carries.held
    by_cases hr : r = resource
    · exact ⟨words, cut ++ es, h.carried acc here (hr ▸ held) carries tasks advanced events⟩
    · exact ⟨words, cut, h.other here tasks (Task.resource?_of_held held)
        (Task.resource?_of_held (carries.held_eq.trans held)) advanced events (carries.about held) hr⟩
  | @launch _ submission record w here about _ tasks entrants _ events =>
    by_cases hr : submission.resource = resource
    · exact ⟨words, _, h.launched acc here about hr tasks
        (advanced_of_launch here tasks entrants) events⟩
    · exact ⟨words, cut, h.launched_other here about hr tasks entrants events⟩
  | @finish t old new r es here finishes held _ tasks entrants _ _ events =>
    have advanced : Advanced s s' t new := advanced_of_set here tasks fun i _ => by rw [entrants]
    by_cases hr : r = resource
    · exact ⟨_, [], h.finished acc here (hr ▸ held) finishes tasks advanced
        (finishes.gaveBack here entered entrants) events⟩
    · exact ⟨words, cut, h.other here tasks (Task.resource?_of_held held)
        (finishes.resource?_eq.trans (Task.resource?_of_held held)) advanced events
        (finishes.about held) hr⟩

end

/-! ## Every run -/

variable [PredictionStore σ] {capacity : UInt64} {table : LabelTable} {store : σ}
  {surroundings : Surroundings} {freshIds : Nat → PredictionId} {s : State σ}

end Predictor.Engine
