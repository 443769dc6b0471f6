import Predictor.Proofs.Engine.Accounting
import Predictor.Proofs.Engine.Filing
import Predictor.Proofs.Engine.Order

/-!
Accepted submissions, records, units of work and classification calls agree one by one when the
engine is at rest over the store in memory: the ready queue is empty then, so every unit of work has
made its call. The spans of the log are those of the units, and a poll adds to the store only the
records of submissions that it accepts.
-/

namespace Predictor.Engine

variable {σ : Type}

/-! ## Spans -/

/-- The spans of these events are spans of such units of work. -/
def SpansOf (unit : Work → Prop) (es : List Telemetry.Event) : Prop :=
  ∀ event ∈ es, ∀ span, event.span = some span → ∃ w, unit w ∧ ∃ status, span = w.span status

theorem spansOf_nil (unit : Work → Prop) : SpansOf unit [] := by
  simp [SpansOf]

theorem SpansOf.append {unit : Work → Prop} {front back : List Telemetry.Event}
    (hfront : SpansOf unit front) (hback : SpansOf unit back) : SpansOf unit (front ++ back) :=
  fun event hevent => (List.mem_append.1 hevent).elim (hfront event) (hback event)

theorem SpansOf.imp {unit unit' : Work → Prop} {es : List Telemetry.Event} (h : SpansOf unit es)
    (sub : ∀ w, unit w → unit' w) : SpansOf unit' es := by
  intro event hevent span hspan
  obtain ⟨w, hw, status⟩ := h event hevent span hspan
  exact ⟨w, sub w hw, status⟩

theorem Carries.spans {old new : Task} {es : List Telemetry.Event} (h : Carries old new es) :
    SpansOf (fun w => old.unit? = some w) es := by
  cases h with
  | unanswered => simp [SpansOf, Task.unit?]
  | creating | called | classifying | answered | finalizing => exact spansOf_nil _

theorem Finishes.spans {old new : Task} {es : List Telemetry.Event} (h : Finishes old new es) :
    SpansOf (fun w => old.unit? = some w) es := by
  cases h with
  | rolledBack | createPanicked | cancelled => simp [SpansOf]
  | classifyPanicked | finalizePanicked | written | unwritten => simp [SpansOf, Task.unit?]

/-- Every span in the log is that of a unit of work. -/
def Spanned (s : State σ) : Prop := SpansOf (· ∈ s.spawned) s.events

/-- A unit of work stays one. -/
theorem Effect.spawned {s s' : State σ} (e : Effect s s') {w : Work} (hw : w ∈ s.spawned) :
    w ∈ s'.spawned := by
  cases e with
  | inert _ _ _ _ kept =>
    obtain ⟨t, stage, here⟩ := mem_spawned.1 hw
    refine mem_spawned.2 ⟨t, stage, kept t _ here ?_⟩
    cases stage with
    | done => exact .inr rfl
    | new | classifying | finalizing => exact .inl rfl
  | occupy here _ _ tasks => exact spawned_set here tasks rfl ▸ hw
  | carry here carries _ tasks =>
    refine spawned_set here tasks ?_ ▸ hw
    cases carries <;> rfl
  | @launch t submission record unit here _ _ tasks =>
    obtain ⟨i, stage, hi⟩ := mem_spawned.1 hw
    refine mem_spawned.2 ⟨i, stage, ?_⟩
    rw [getElem?_launch_other tasks ?_ (Nat.ne_of_lt (List.getElem?_eq_some_iff.1 hi).1), hi]
    rintro rfl
    simp [here] at hi
  | finish here finishes _ _ tasks =>
    refine spawned_set here tasks ?_ ▸ hw
    cases finishes <;> rfl

theorem Spanned.add {s s' : State σ} (h : Spanned s) (kept : ∀ w ∈ s.spawned, w ∈ s'.spawned)
    {es : List Telemetry.Event} (events : s'.events = s.events ++ es)
    (new : SpansOf (· ∈ s.spawned) es) : Spanned s' := by
  rw [Spanned, events]
  exact (SpansOf.append h new).imp kept

theorem Spanned.effect {s s' : State σ} (h : Spanned s) (e : Effect s s') : Spanned s' := by
  have kept := fun w (hw : w ∈ s.spawned) => e.spawned hw
  have own : ∀ {t : TaskId} {old : Task}, s.tasks[t]? = some old →
      ∀ w, old.unit? = some w → w ∈ s.spawned := fun here w unit =>
    List.mem_filterMap.2 ⟨_, List.mem_of_getElem? here, unit⟩
  cases e with
  | inert _ _ _ events | occupy _ _ _ _ _ _ _ events =>
    exact h.add kept (events.trans (List.append_nil _).symm) (spansOf_nil _)
  | carry here carries _ _ _ _ events => exact h.add kept events (carries.spans.imp (own here))
  | launch _ _ _ _ _ _ events => exact h.add kept events (by simp [SpansOf])
  | finish here finishes _ _ _ _ _ _ events => exact h.add kept events (finishes.spans.imp (own here))

/-! ## Records -/

/-- A poll creates in the store the records that it reports as created, and no others. -/
def Files (s s' : State MemoryStore) : Prop :=
  ∃ new, s'.created = s.created ++ new ∧ s'.store.ids = s.store.ids ++ new

theorem files_none {s s' : State MemoryStore} (created : s'.created = s.created)
    (ids : s'.store.ids = s.store.ids) : Files s s' :=
  ⟨[], created.trans (List.append_nil _).symm, ids.trans (List.append_nil _).symm⟩

theorem Advance.created_eq {t : TaskId} {s s' : State σ} (move : Advance t s s') :
    s'.created = s.created := by
  cases move with
  | unanswered => rw [unanswered_eq]
  | occupy | createPermit | call | answered | finalizePermit => rfl

section Memory

variable {t : TaskId} {s s' : State MemoryStore}

theorem Halt.files (move : Halt t s s') (sound : s.store.Sound) (unique : s'.store.Unique) :
    Files s s' := by
  cases move with
  | @launched submission record store here created =>
    obtain ⟨rfl, rfl⟩ := create_memory created
    exact ⟨[s.store.nextId], rfl,
      MemoryStore.ids_create _ _ (sound.find?_nextId _ _ unique)⟩
  | rolledBack _ refused => exact files_none rfl (congrArg MemoryStore.ids refused.store_eq)
  | @written w outcome store _ stored =>
    have after : (s.store.finalize w.id outcome).2 = store := congrArg Prod.snd stored
    exact files_none rfl (after ▸ s.store.ids_finalize w.id outcome)
  | unwritten _ refused => exact files_none rfl (congrArg MemoryStore.ids refused.store_eq)
  | checked =>
    unfold State.checkIdle
    split <;> exact files_none rfl rfl
  | asleep | unnamed | full | duplicate | createPanicked | createHeld | gateHeld
  | classifyPanicked | finalizePanicked | finalizeHeld => exact files_none rfl rfl

theorem Polled.files (poll : Polled t s s') (sound : s.store.Sound) (unique : s'.store.Unique) :
    Files s s' := by
  induction poll with
  | halt last => exact last.files sound unique
  | advance first _ ih =>
    obtain ⟨new, created, ids⟩ := ih (first.store_eq ▸ sound) unique
    exact ⟨new, first.created_eq ▸ created, first.store_eq ▸ ids⟩

/-- The record that a submission returned is about the resource that was submitted. -/
def Named (s : State MemoryStore) : Prop :=
  ∀ a ∈ s.accepted,
    a.record.owner = a.submission.owner ∧ a.record.resource = a.submission.resource

theorem Named.transition (h : Named s) (move : Transition s s') (reported : Reported s) :
    Named s' := by
  rcases (course_transition move).accepted_cases reported with
    ⟨accepted, -⟩ | ⟨a, accepted, -, -, -, created⟩
  · rw [Named, accepted]
    exact h
  · intro b hb
    rw [accepted] at hb
    rcases List.mem_append.1 hb with hold | hnew
    · exact h b hold
    · obtain rfl := List.mem_singleton.1 hnew
      rw [(create_memory created).1]
      exact ⟨rfl, rfl⟩

end Memory

/-! ## Every run -/

theorem task_sublist_finished (s : State σ) :
    (s.accepted.map Acceptance.task).Sublist s.finished := by
  rw [State.accepted]
  induction s.finished with
  | nil => exact .slnil
  | cons t rest ih =>
    cases own : s.acceptance? t with
    | none =>
      rw [List.filterMap_cons_none own]
      exact ih.cons t
    | some a =>
      have same : a.task = t := by
        unfold State.acceptance? at own
        split at own
        · exact (Option.some.inj own) ▸ rfl
        · simp at own
      rw [List.filterMap_cons_some own, List.map_cons, same]
      exact ih.cons_cons t

/-- The n-th of those accepted has the n-th record, unit of work and call. -/
theorem Intake.nth {s : State σ} (h : Intake s) (called : s.spawned = s.calls) {n : Nat}
    {a : Acceptance} (here : s.accepted[n]? = some a) :
    ∃ w, s.created[n]? = some a.record.id ∧ s.spawned[n]? = some w ∧ s.calls[n]? = some w ∧
      Serves a w := by
  obtain ⟨lt, heq⟩ := List.getElem?_eq_some_iff.1 here
  have lt' : n < s.spawned.length := h.units.length_eq ▸ lt
  have unit : s.spawned[n]? = some s.spawned[n] := List.getElem?_eq_getElem lt'
  have serves : Serves s.accepted[n] s.spawned[n] := h.units.get lt lt'
  refine ⟨s.spawned[n], ?_, unit, ?_, heq ▸ serves⟩
  · rw [h.created, List.getElem?_map, here, Option.map_some]
  · rw [← called, unit]

variable {capacity : UInt64} {table : LabelTable} {supplies : Supplies} {usual : Behaviour}
  {isOpen : Bool} {freshIds : Nat → PredictionId} {s : State MemoryStore}

/-- At rest the submissions that returned a record, in the order in which they finished, agree one by
one with the records created for submissions, the units of work and the classification calls: a call
carries what its submission and its record say, and the request ids that were missing are fresh ones,
each used once. No other spans are in the log, nothing else comes from a submission, and as long as
no id is handed out twice, a poll adds to the store what it reports as created. -/
theorem accepted_agree
    (h : Reachable (.start capacity table (.empty supplies) (.start usual isOpen) freshIds) s)
    (rest : s.AtRest) :
    (s.created.length = s.accepted.length ∧ s.spawned.length = s.accepted.length ∧
      s.calls.length = s.accepted.length) ∧
    (∀ (n : Nat) (a : Acceptance), s.accepted[n]? = some a → ∃ w : Work,
      s.created[n]? = some a.record.id ∧ s.spawned[n]? = some w ∧ s.calls[n]? = some w ∧
      Serves a w ∧ w.resource = a.record.resource ∧ ∀ status, w.span status =
        ⟨a.record.id, a.record.resource, w.correlation.requestId, status⟩) ∧
    s.supplied = (List.range s.freshUsed).map (fun n => (freshIds n).text) ∧
    (∀ event ∈ s.events, ∀ span, event.span = some span →
      ∃ w ∈ s.calls, ∃ status, span = w.span status) ∧
    (∀ a, a ∈ s.accepted ↔
      s.tasks[a.task]? = some (.submit a.submission (.done (.returned (.ok a.record))))) ∧
    (s.accepted.map Acceptance.task).Sublist s.finished ∧ s.finished.Nodup ∧
    (s.store.Unique → s.created.Nodup ∧ ∀ r r',
      Reachable (.start capacity table (.empty supplies) (.start usual isOpen) freshIds) r →
        r.step? = some r' → Reachable r' s → Files r r') := by
  have intake := intake_of_reachable h
  have order := inOrder_of_reachable (lined_start ..) (inOrder_start ..) h
  have called : s.spawned = s.calls := by
    have queued := order.order
    rw [rest] at queued
    rw [queued, List.filterMap_nil, List.append_nil]
  have ids : s.freshIds = freshIds := h.invariant (P := fun r => r.freshIds = freshIds) rfl
    fun move hr => (course_transition move).freshIds_eq.trans hr
  have named : Named s := by
    refine (h.invariant (P := fun r => Reported r ∧ Named r) ⟨reported_start .., ?_⟩ ?_).2
    · simp [Named, State.accepted, State.start]
    · intro r r' move hr
      obtain ⟨reported, named⟩ := hr
      exact ⟨(course_transition move).reported reported, named.transition move reported⟩
  have spanned : Spanned s := by
    refine h.of_effects (P := Spanned) ?_ fun e hr => hr.effect e
    exact spansOf_nil _
  have served := intake.units.length_eq
  refine ⟨⟨?_, served.symm, called ▸ served.symm⟩, fun n a here => ?_, ids ▸ intake.fresh, ?_,
    fun a => intake.mem_accepted, task_sublist_finished s, intake.once, fun unique => ⟨?_, ?_⟩⟩
  · rw [intake.created, List.length_map]
  · obtain ⟨w, created, spawned, call, serves⟩ := intake.nth called here
    have resource : w.resource = a.record.resource :=
      serves.resource.trans (named a (List.mem_of_getElem? here)).2.symm
    refine ⟨w, created, spawned, call, serves, resource, fun status => ?_⟩
    rw [Work.span, serves.id, resource]
  · rw [← called]
    exact spanned
  · rw [intake.created]
    exact (filed_of_reachable h unique).distinct
  · intro r r' reached step later
    have unique' := later.unique unique
    have before := (Reachable.poll .start step).unique unique'
    have sound := (filed_of_reachable reached before).sound
    obtain ⟨t, rest, -, rfl⟩ := State.poll_of_step? step
    exact (polled_poll _ t).files sound unique'

/-- Two submissions begin together, one with a request id and one without. -/
def Sample.pair : State MemoryStore :=
  ((start true).apply (.submitAll [submission,
    ⟨⟨none, [("X-Tag", "7")]⟩, "owner", "page.png"⟩])).polls 4

theorem accepted_agree_sample : Sample.pair.AtRest ∧ Sample.pair.store.Unique ∧
    Sample.pair.calls.length = 2 ∧ Sample.pair.created.Nodup ∧
    Sample.pair.supplied = [(Sample.supplies.ids 0).text] ∧
    ∃ a w, Sample.pair.accepted[1]? = some a ∧ Sample.pair.calls[1]? = some w ∧ Serves a w := by
  have reached : Reachable (Sample.start true) Sample.pair := (Reachable.start.event _).polls 4
  have unique : Sample.pair.store.Unique := by decide
  obtain ⟨⟨-, -, calls⟩, agree, supplied, -, -, -, -, created⟩ := accepted_agree reached rfl
  obtain ⟨w, -, -, call, serves, -⟩ := agree 1 _ rfl
  exact ⟨rfl, unique, calls, (created unique).1, supplied, _, w, rfl, call, serves⟩

end Predictor.Engine
