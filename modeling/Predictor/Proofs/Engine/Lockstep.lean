import Predictor.Proofs.Engine.Aftermath
import Predictor.Proofs.Engine.Alike

/-!
Two runs that differ at most in what the classifier answers for one resource, poll by poll. A unit of
work for that resource gives its admission back at the same point in both, whatever it hears, and what
else it does does not show (`State.Alike.hear_own`). So polls and events keep the states alike.
-/

namespace Predictor.Engine

open Telemetry

/-! ## Units of work for other resources -/

/-- What two states that are alike need in order to stay so in the course of a unit of work: it writes
to a record of its own resource, its task is marked if that is the one resource, and finalization
calls are not held back. -/
structure State.Tidy (resource : String) (mine : TaskId → Bool) (s : State MemoryStore)
    (t : TaskId) (w : Work) : Prop where
  distinct : s.store.ids.Nodup
  filed : ∀ record, s.store.find? w.id = some record → record.resource = w.resource
  marked : w.resource = resource → mine t = true
  prompt : s.surroundings.finalizeMode ≠ .hold

namespace State.Tidy

variable {resource : String} {mine : TaskId → Bool} {s s' : State MemoryStore} {t : TaskId}
  {w : Work}

theorem of_eq (h : s.Tidy resource mine t w) (store : s'.store = s.store)
    (surroundings : s'.surroundings.finalizeMode = s.surroundings.finalizeMode) :
    s'.Tidy resource mine t w :=
  ⟨store ▸ h.distinct, store ▸ h.filed, h.marked, surroundings ▸ h.prompt⟩

theorem answered (h : s.Tidy resource mine t w) (raw : RawResult) :
    (s.answered t w raw).Tidy resource mine t w :=
  h.of_eq rfl rfl

theorem unanswered (h : s.Tidy resource mine t w) (error : ClassifyError) :
    (s.unanswered t w error).Tidy resource mine t w :=
  h.of_eq rfl rfl

end State.Tidy

namespace State.Alike

variable {resource : String} {mine : TaskId → Bool} {s s' : State MemoryStore} {t : TaskId}
  {w : Work}

theorem endWork (h : s.Alike resource mine s') (t : TaskId) (w : Work) (status : Option Status)
    (panicked : Bool) :
    (s.endWork t w status panicked).Alike resource mine (s'.endWork t w status panicked) :=
  (h.release _ _).setTask rfl t

theorem finalized (h : s.Alike resource mine s') (t : TaskId) (w : Work) (status : Status)
    (result : Except Error Unit) :
    (s.finalized t w status result).Alike resource mine (s'.finalized t w status result) := by
  cases result with
  | ok _ => exact (((h.note t _).emit _ _).measure _).endWork t w _ _
  | error _ => exact (((h.note t _).measure _).emit _ _).endWork t w _ _

theorem finalize_other (h : s.Alike resource mine s') (tidy : s.Tidy resource mine t w)
    (other : w.resource ≠ resource) (outcome : Outcome) :
    (s.finalize t w outcome).Alike resource mine (s'.finalize t w outcome) := by
  have stored : State.Alike resource mine
      { s with store := (s.store.finalize w.id outcome).2 }
      { s' with store := (s'.store.finalize w.id outcome).2 } :=
    { h with
      store := h.store.finalize tidy.distinct _ _ }
  have result := h.store.finalize_result w.id outcome fun record found =>
    (tidy.filed record found).trans_ne other
  show State.Alike resource mine (State.finalized _ t w outcome.status (s.store.finalize _ _).1)
    (State.finalized _ t w outcome.status (s'.store.finalize _ _).1)
  rw [result]
  exact stored.finalized t w _ _

theorem endFinalize_other (h : s.Alike resource mine s') (tidy : s.Tidy resource mine t w)
    (other : w.resource ≠ resource) (outcome : Outcome) (passage : Passage) :
    (s.endFinalize t w outcome passage).Alike resource mine (s'.endFinalize t w outcome passage) := by
  cases passage with
  | proceeds => exact h.finalize_other tidy other outcome
  | fails => exact h.finalized t w outcome.status (.error State.finalizeUnavailable)
  | panics => exact (h.note t _).endWork t w _ _

theorem callFinalize_other (h : s.Alike resource mine s') (tidy : s.Tidy resource mine t w)
    (other : w.resource ≠ resource) (outcome : Outcome) :
    (s.callFinalize t w outcome).Alike resource mine (s'.callFinalize t w outcome) := by
  unfold State.callFinalize
  rw [h.surroundings.finalizeMode]
  split
  · exact h.endFinalize_other tidy other outcome _
  · exact h.endFinalize_other tidy other outcome _
  · exact h.endFinalize_other tidy other outcome _
  · exact absurd (h.surroundings.finalizeMode.trans ‹_›) tidy.prompt

theorem ask (h : s.Alike resource mine s') (t : TaskId) (w : Work) (outcome : Outcome) :
    (s.ask t w outcome).Alike resource mine (s'.ask t w outcome) :=
  (h.note t _).setTask rfl t

theorem hear_other (h : s.Alike resource mine s') (tidy : s.Tidy resource mine t w)
    (other : w.resource ≠ resource) : (s.hear t w).Alike resource mine (s'.hear t w) := by
  unfold State.hear
  rw [h.surroundings.answers w.resource other, h.table]
  split
  · rename_i raw _
    have answered : (s.answered t w raw).Alike resource mine (s'.answered t w raw) := by
      unfold State.answered
      rw [h.table]
      exact ((h.note t _).measure _).ask t w _
    exact answered.callFinalize_other (tidy.answered raw) other _
  · rename_i error _
    have unanswered : (s.unanswered t w error).Alike resource mine (s'.unanswered t w error) :=
      (((h.note t _).measure _).emit _ _).ask t w _
    exact unanswered.callFinalize_other (tidy.unanswered error) other _
  · exact (h.note t _).endWork t w _ _

/-! ## Units of work for the resource

What such a unit does does not show but for its end, so each of its polls that ends it looks like
its end alone. -/

theorem note_own (own : mine t = true) (deed : Deed) :
    (s.note t deed).Alike resource mine s :=
  { refl resource mine s with
    deeds := by simp [State.note, List.filter_append, own] }

theorem emit_own (own : w.resource = resource) (happening : Happening) (status : Option Status) :
    (s.emit happening (some (w.span status))).Alike resource mine s :=
  { refl resource mine s with
    events := by simp [State.emit, List.filter_append, isApart_span own] }

theorem measure_own {m : Measurement} (own : m.ofAdmission = false) :
    (s.measure m).Alike resource mine s :=
  { refl resource mine s with
    measured := by simp [State.measure, List.filter_append, own] }

theorem release_own (h : s.Alike resource mine s') (own : w.resource = resource)
    (status status' : Option Status) :
    (s.release w.resource (some (w.span status))).Alike resource mine
      (s'.release w.resource (some (w.span status'))) := by
  have released (x : State MemoryStore) (status : Option Status) :
      (x.release w.resource (some (w.span status))).Alike resource mine
        (x.release w.resource (some (w.span none))) :=
    (emit_own own _ status).trans (emit_own own _ none).symm
  exact ((released s status).trans (h.release _ _)).trans (released s' status').symm

end State.Alike

/-- The state with a task taken out of its place. -/
def State.without {σ : Type} (s : State σ) (t : TaskId) : State σ := s.setTask t (.drain .done)

theorem setTask_without {σ : Type} (s : State σ) (t : TaskId) (task : Task) :
    (s.without t).setTask t task = s.setTask t task := by
  simp only [State.without, State.setTask, List.set_set]

theorem without_setTask {σ : Type} (s : State σ) (t : TaskId) (task : Task) :
    (s.setTask t task).without t = s.without t := by
  simp only [State.without, State.setTask, List.set_set]

namespace State.Alike

variable {resource : String} {mine : TaskId → Bool} {s x : State MemoryStore} {t : TaskId}
  {w : Work}

/-- Ends of a unit of work for the resource look the same, whatever the task was before. -/
theorem endWork_own (h : (x.without t).Alike resource mine (s.without t))
    (own : w.resource = resource) (status status' : Option Status) (panicked panicked' : Bool) :
    (x.endWork t w status panicked).Alike resource mine (s.endWork t w status' panicked') := by
  have same : (Task.work w (.done panicked)).veiled resource =
      (Task.work w (.done panicked')).veiled resource := by
    simp only [Task.veiled, if_pos own]
  have ended := (h.release_own own status status').setTask same t
  unfold State.endWork
  rw [← setTask_without (x.release _ _), ← setTask_without (s.release _ _)]
  exact ended

theorem finalized_own (h : (x.without t).Alike resource mine (s.without t))
    (own : w.resource = resource) (noted : mine t = true) (status : Status)
    (result : Except Error Unit) :
    (x.finalized t w status result).Alike resource mine (s.endWork t w none false) := by
  have unseen (m : Measurement) (happening : Happening) (span : Option Status)
      (hm : m.ofAdmission = false) :
      ((((x.note t (.told result)).emit happening (some (w.span span))).measure m).without t).Alike
        resource mine (s.without t) :=
    (measure_own hm).trans ((emit_own own _ _).trans ((note_own noted _).trans h))
  cases result with
  | ok _ => exact endWork_own (unseen (.finalized status) _ _ rfl) own _ _ _ _
  | error _ => exact endWork_own (unseen .finalizeFailure _ _ rfl) own _ _ _ _

theorem finalize_own (h : (x.without t).Alike resource mine (s.without t))
    (tidy : x.Tidy resource mine t w) (own : w.resource = resource) (outcome : Outcome) :
    (x.finalize t w outcome).Alike resource mine (s.endWork t w none false) := by
  have stored : State.Alike resource mine
      (State.without { x with store := (x.store.finalize w.id outcome).2 } t) (s.without t) :=
    { h with
      store := (MemoryStore.Alike.finalize_own tidy.distinct w.id outcome
        fun record found => (tidy.filed record found).trans own).trans h.store }
  exact finalized_own stored own (tidy.marked own) _ _

theorem endFinalize_own (h : (x.without t).Alike resource mine (s.without t))
    (tidy : x.Tidy resource mine t w) (own : w.resource = resource) (outcome : Outcome)
    (passage : Passage) :
    (x.endFinalize t w outcome passage).Alike resource mine (s.endWork t w none false) := by
  have noted := tidy.marked own
  cases passage with
  | proceeds => exact finalize_own h tidy own outcome
  | fails => exact finalized_own h own noted outcome.status (.error State.finalizeUnavailable)
  | panics => exact endWork_own ((note_own noted _).trans h) own _ _ _ _

theorem callFinalize_own (h : (x.without t).Alike resource mine (s.without t))
    (tidy : x.Tidy resource mine t w) (own : w.resource = resource) (outcome : Outcome) :
    (x.callFinalize t w outcome).Alike resource mine (s.endWork t w none false) := by
  unfold State.callFinalize
  split
  · exact endFinalize_own h tidy own outcome _
  · exact endFinalize_own h tidy own outcome _
  · exact endFinalize_own h tidy own outcome _
  · exact absurd ‹_› tidy.prompt

theorem ask_own (h : (x.without t).Alike resource mine (s.without t)) (noted : mine t = true)
    (w : Work) (outcome : Outcome) :
    ((x.ask t w outcome).without t).Alike resource mine (s.without t) := by
  rw [State.ask, without_setTask]
  exact (note_own noted _).trans h

theorem heard_own (noted : mine t = true) (answer : Behaviour) (fault : Option String) :
    (((s.note t (.heard answer)).measure (.classified fault)).without t).Alike resource mine
      (s.without t) :=
  (measure_own rfl).trans (note_own (s := s.without t) noted (.heard answer))

theorem answered_own (noted : mine t = true) (w : Work) (raw : RawResult) :
    ((s.answered t w raw).without t).Alike resource mine (s.without t) :=
  ask_own (heard_own noted (.answers raw) none) noted w _

theorem unanswered_own (own : w.resource = resource) (noted : mine t = true)
    (error : ClassifyError) :
    ((s.unanswered t w error).without t).Alike resource mine (s.without t) := by
  refine ask_own ?_ noted w _
  exact (emit_own own _ none).trans (heard_own noted (.fails error) (some error.kind))

/-- Whatever a unit of work for the resource hears, it looks like its end. -/
theorem hear_own (tidy : s.Tidy resource mine t w) (own : w.resource = resource) :
    (s.hear t w).Alike resource mine (s.endWork t w none false) := by
  have noted := tidy.marked own
  unfold State.hear
  split
  · exact callFinalize_own (answered_own noted w _) (tidy.answered _) own _
  · exact callFinalize_own (unanswered_own own noted _) (tidy.unanswered _) own _
  · exact endWork_own (note_own (s := s.without t) noted _) own _ _ _ _

end State.Alike

/-! ## Polls -/

namespace State.Alike

variable {resource : String} {mine : TaskId → Bool} {s s' : State MemoryStore} {t : TaskId}
  {w : Work}

theorem tidy (h : s.Alike resource mine s') (tidy : s.Tidy resource mine t w) :
    s'.Tidy resource mine t w where
  distinct := h.store.ids ▸ tidy.distinct
  filed record found := by
    obtain ⟨record', found', same⟩ := h.store.symm.find? found
    rw [Prediction.resource_of_veiled same]
    exact tidy.filed record' found'
  marked := tidy.marked
  prompt := h.surroundings.finalizeMode ▸ tidy.prompt

theorem hear (h : s.Alike resource mine s') (tidy : s.Tidy resource mine t w) :
    (s.hear t w).Alike resource mine (s'.hear t w) := by
  by_cases own : w.resource = resource
  · exact ((hear_own tidy own).trans (h.endWork t w none false)).trans
      (hear_own (h.tidy tidy) own).symm
  · exact h.hear_other tidy own

theorem called (h : s.Alike resource mine s') (t : TaskId) (w : Work) (through : Bool)
    (gates : Gates) :
    (s.called t w through gates).Alike resource mine (s'.called t w through gates) := by
  refine State.Alike.setTask (State.Alike.withGates ?_ gates) rfl t
  exact { h with
    calls := congrArg (· ++ [w]) h.calls }

theorem callClassify (h : s.Alike resource mine s') (tidy : s.Tidy resource mine t w) :
    (s.callClassify t w).Alike resource mine (s'.callClassify t w) := by
  unfold State.callClassify
  rw [h.surroundings.gates]
  dsimp only
  have called := h.called t w (s'.surroundings.gates.enter w.resource t).1
    (s'.surroundings.gates.enter w.resource t).2
  split
  · exact called.hear (tidy.of_eq rfl rfl)
  · exact called

theorem endFinalize (h : s.Alike resource mine s') (tidy : s.Tidy resource mine t w)
    (outcome : Outcome) (passage : Passage) :
    (s.endFinalize t w outcome passage).Alike resource mine (s'.endFinalize t w outcome passage) := by
  by_cases own : w.resource = resource
  · exact ((endFinalize_own (refl ..) tidy own outcome passage).trans
      (h.endWork t w none false)).trans
        (endFinalize_own (refl ..) (h.tidy tidy) own outcome passage).symm
  · exact h.endFinalize_other tidy own outcome passage

theorem poll (h : s.Alike resource mine s')
    (tidy : ∀ w stage, s.tasks[t]? = some (.work w stage) → s.Tidy resource mine t w) :
    (s.poll t).Alike resource mine (s'.poll t) := by
  rcases h.cases_task t with ⟨past, past'⟩ | ⟨task, here, here'⟩
  · rwa [past.poll, past'.poll]
  · rw [State.poll, State.poll, here, here']
    cases task with
    | submit submission stage =>
      rcases stage with _ | ⟨_ | _⟩ | _
      · exact h.requestAdmission t submission
      · exact h
      · dsimp only
        rw [h.surroundings.createPassage]
        exact h.endCreate t submission _
      · exact h
    | work w stage =>
      have unit := tidy w stage here
      rcases stage with _ | ⟨_ | _⟩ | ⟨outcome, _ | _⟩ | _
      · exact h.callClassify unit
      · exact h
      · exact h.hear unit
      · exact h
      · dsimp only
        rw [h.surroundings.finalizePassage]
        exact h.endFinalize unit outcome _
      · exact h
    | drain stage =>
      rcases stage with _ | _ | _
      · exact h.checkIdle t
      · exact h.checkIdle t
      · exact h

theorem step?_eq_none (h : s.Alike resource mine s') (halted : s.step? = none) :
    s'.step? = none := by
  unfold State.step? at halted ⊢
  rw [← h.ready]
  split at halted
  · rfl
  · cases halted

/-- Both states poll the same task next. -/
theorem step?_eq_some {next : State MemoryStore} (h : s.Alike resource mine s')
    (tidy : ∀ t w stage, s.tasks[t]? = some (.work w stage) → s.Tidy resource mine t w)
    (step : s.step? = some next) :
    ∃ next', s'.step? = some next' ∧ next.Alike resource mine next' := by
  obtain ⟨t, rest, ready, rfl⟩ := State.poll_of_step? step
  have taken : State.Alike resource mine { s with ready := rest } { s' with ready := rest } :=
    { h with
      ready := rfl }
  refine ⟨{ s' with ready := rest }.poll t, ?_,
    taken.poll fun w stage here => (tidy t w stage here).of_eq rfl rfl⟩
  rw [State.step?, ← h.ready, ready]

end State.Alike

/-! ## Events -/

/-- The same event, or two answers of the classifier for the resource. -/
inductive Stimulus.Alike (resource : String) : Stimulus → Stimulus → Prop
  | same (stimulus : Stimulus) : Alike resource stimulus stimulus
  | answer (behaviour behaviour' : Behaviour) :
      Alike resource (.behave resource behaviour) (.behave resource behaviour')

namespace Surroundings.Alike

variable {resource : String} {w w' : Surroundings}

theorem behave (h : w.Alike resource w') {name : String} {behaviour behaviour' : Behaviour}
    (same : name ≠ resource → behaviour = behaviour') :
    Alike resource { w with behaviours := (name, behaviour) :: w.behaviours }
      { w' with behaviours := (name, behaviour') :: w'.behaviours } :=
  { h with
    answers other ne := by
      have before := h.answers other ne
      unfold behaviourOf at before ⊢
      by_cases hit : other = name
      · subst hit
        simp [same ne]
      · simpa [List.lookup_cons, beq_eq_false_iff_ne.2 hit] using before }

end Surroundings.Alike

namespace State.Alike

variable {resource : String} {mine : TaskId → Bool} {s s' : State MemoryStore}

theorem passCreate (h : s.Alike resource mine s') :
    s.passCreate.Alike resource mine s'.passCreate := by
  unfold State.passCreate
  rw [h.surroundings.createPermits]
  exact (h.withCreatePermits _).grantNext _

theorem passFinalize (h : s.Alike resource mine s') :
    s.passFinalize.Alike resource mine s'.passFinalize := by
  unfold State.passFinalize
  rw [h.surroundings.finalizePermits]
  exact (h.withFinalizePermits _).grantNext _

theorem cancel (h : s.Alike resource mine s') (t : TaskId) :
    (s.cancel t).Alike resource mine (s'.cancel t) := by
  rcases h.cases_task t with ⟨past, past'⟩ | ⟨task, here, here'⟩
  · rwa [past.cancel, past'.cancel]
  · rw [State.cancel, State.cancel, here, here']
    match task with
    | .submit submission .new => exact h.endSubmit submission rfl t
    | .submit submission (.creating true) =>
      exact (h.passCreate.release _ _).endSubmit submission rfl t
    | .submit submission (.creating false) =>
      dsimp only
      rw [h.surroundings.createPermits]
      exact ((h.withCreatePermits _).release _ _).endSubmit submission rfl t
    | .submit _ (.done _) | .work _ _ | .drain _ => exact h

theorem beginAll (h : s.Alike resource mine s') (submissions : List Submission) :
    (submissions.foldl State.beginSubmit s).Alike resource mine
      (submissions.foldl State.beginSubmit s') := by
  induction submissions generalizing s s' with
  | nil => exact h
  | cons submission rest ih => exact ih (h.spawn _)

theorem apply (h : s.Alike resource mine s') (distinct : s.store.ids.Nodup)
    {stimulus stimulus' : Stimulus} (alike : stimulus.Alike resource stimulus') :
    (s.apply stimulus).Alike resource mine (s'.apply stimulus') := by
  cases alike with
  | answer behaviour behaviour' =>
    exact { h with
      surroundings := h.surroundings.behave fun other => absurd rfl other }
  | same =>
    cases stimulus with
    | submit submission => exact h.spawn _
    | submitAll submissions => exact h.beginAll submissions
    | cancel t => exact h.cancel t
    | drain => exact h.spawn _
    | passGate name =>
      show State.Alike resource mine
        ((s.withGates (s.surroundings.gates.admitOne name).2).grantNext _)
        ((s'.withGates (s'.surroundings.gates.admitOne name).2).grantNext _)
      rw [h.surroundings.gates]
      exact (h.withGates _).grantNext _
    | openGates =>
      show State.Alike resource mine
        (s.surroundings.gates.openAll.1.foldl State.grant (s.withGates _))
        (s'.surroundings.gates.openAll.1.foldl State.grant (s'.withGates _))
      rw [h.surroundings.gates]
      exact (h.withGates _).grants _
    | behave name behaviour =>
      exact { h with
        surroundings := h.surroundings.behave fun _ => rfl }
    | setCreateMode mode =>
      exact { h with
        surroundings := { h.surroundings with createMode := rfl } }
    | setFinalizeMode mode =>
      exact { h with
        surroundings := { h.surroundings with finalizeMode := rfl } }
    | setCreatePassage passage =>
      exact { h with
        surroundings := { h.surroundings with createPassage := rfl } }
    | setFinalizePassage passage =>
      exact { h with
        surroundings := { h.surroundings with finalizePassage := rfl } }
    | passCreate => exact h.passCreate
    | passFinalize => exact h.passFinalize
    | createDirectly owner name =>
      exact { h with
        store := h.store.create owner name }
    | finalizeDirectly id outcome =>
      exact { h with
        store := h.store.finalize distinct id outcome }

/-! ## Until rest -/

/-- Polled until they are at rest, the states are alike again. -/
theorem settle (h : s.Alike resource mine s')
    (tidy : ∀ n t w stage, (s.polls n).tasks[t]? = some (.work w stage) →
      (s.polls n).Tidy resource mine t w) :
    s.settle.Alike resource mine s'.settle := by
  fun_induction State.settle s generalizing s' with
  | case1 s halted =>
    rw [settle_of_halted (h.step?_eq_none halted)]
    exact h
  | case2 s next step ih =>
    obtain ⟨next', step', alike⟩ := h.step?_eq_some (tidy 0) step
    rw [settle_of_step? step']
    refine ih alike fun n => ?_
    have later := tidy (n + 1)
    rwa [State.polls, step] at later

end State.Alike

end Predictor.Engine
