import Predictor.Proofs.Engine.Accounting
import Predictor.Proofs.Engine.Lines

/-!
What is left when the engine is at rest. A task that a poll would move on is in the ready queue
(`Alert`); so at rest each admission belongs to a task whose call has not been answered, and when
all calls have been answered, nothing is in flight.
-/

namespace Predictor.Engine

variable {σ : Type}

/-! ## Tasks that are ready -/

/-- A task for which a poll would do something is in the ready queue, or is being polled right now
(`current`), or is a drain that the next release wakes. -/
def Alert (current : Option TaskId) (s : State σ) : Prop :=
  ∀ (t : TaskId) (task : Task), s.tasks[t]? = some task → task.awake = true →
    t ∈ s.ready ∨ current = some t ∨ task = .drain .waiting ∧ t ∈ s.drains

theorem Alert.weaken {s : State σ} (h : Alert none s) (t : TaskId) : Alert (some t) s := by
  intro i task hi awake
  exact (h i task hi awake).imp_right (Or.imp_left nofun)

/-- The task that is polled changes, and some drains are woken. -/
theorem Alert.set {s s' : State σ} {t : TaskId} {new : Task} {woken : List TaskId}
    {current : Option TaskId} (h : Alert (some t) s) (tasks : s'.tasks = s.tasks.set t new)
    (ready : s'.ready = s.ready ++ woken) (drains : ∀ i ∈ s.drains, i ∈ woken ∨ i ∈ s'.drains)
    (own : new.awake = true → current = some t ∨ new = .drain .waiting ∧ t ∈ s'.drains) :
    Alert current s' := by
  intro i task hi awake
  rcases cases_of_set tasks hi with ⟨rfl, rfl⟩ | ⟨hit, hold⟩
  · exact .inr (own awake)
  · rw [ready]
    rcases h i task hold awake with hready | hcurrent | ⟨hdrain, hwaits⟩
    · exact .inl (List.mem_append_left _ hready)
    · exact absurd (Option.some.inj hcurrent).symm hit
    · rcases drains i hwaits with hwoken | hwaits
      · exact .inl (List.mem_append_right _ hwoken)
      · exact .inr (.inr ⟨hdrain, hwaits⟩)

/-- The task that is polled runs on. -/
theorem Alert.runs {s s' : State σ} {t : TaskId} {new : Task} (h : Alert (some t) s)
    (tasks : s'.tasks = s.tasks.set t new) (ready : s'.ready = s.ready)
    (drains : s'.drains = s.drains) : Alert (some t) s' :=
  h.set tasks (ready.trans (List.append_nil _).symm) (fun _ hi => .inr (drains ▸ hi))
    fun _ => .inl rfl

/-- The task that is polled is suspended or ends, without a release. -/
theorem Alert.stops {s s' : State σ} {t : TaskId} {new : Task} (h : Alert (some t) s)
    (tasks : s'.tasks = s.tasks.set t new) (ready : s'.ready = s.ready)
    (drains : s'.drains = s.drains) (asleep : new.awake = false) : Alert none s' :=
  h.set tasks (ready.trans (List.append_nil _).symm) (fun _ hi => .inr (drains ▸ hi))
    fun awake => absurd awake (Bool.eq_false_iff.1 asleep)

/-- The task that is polled ends, and all drains are woken. -/
theorem Alert.releases {s s' : State σ} {t : TaskId} {new : Task} (h : Alert (some t) s)
    (tasks : s'.tasks = s.tasks.set t new) (ready : s'.ready = s.ready ++ s.drains)
    (asleep : new.awake = false) : Alert none s' :=
  h.set tasks ready (fun _ hi => .inl hi) fun awake => absurd awake (Bool.eq_false_iff.1 asleep)

theorem Alert.append {s s' : State σ} {added : Task} (h : Alert none s)
    (tasks : s'.tasks = s.tasks ++ [added]) (ready : s'.ready = s.ready ++ [s.tasks.length])
    (drains : s'.drains = s.drains) : Alert none s' := by
  intro i task hi awake
  rw [ready, drains]
  rcases cases_of_append tasks hi with ⟨hlength, -⟩ | hold
  · exact .inl (List.mem_append_right _ (List.mem_singleton.2 hlength))
  · exact (h i task hold awake).imp_left (List.mem_append_left _)

theorem Alert.grants {s r : State σ} (h : Alert none s) (through : List TaskId)
    (tasks : r.tasks = s.tasks) (ready : r.ready = s.ready) (drains : r.drains = s.drains) :
    Alert none (through.foldl State.grant r) := by
  intro i task hi awake
  rw [ready_grants, drains_grants, ready, drains]
  rw [getElem?_grants, tasks] at hi
  split at hi
  · rename_i hthrough
    exact .inl (List.mem_append_right _ hthrough)
  · exact (h i task hi awake).imp_left (List.mem_append_left _)

theorem Alert.grantNext {s r : State σ} (h : Alert none s) (t : Option TaskId)
    (tasks : r.tasks = s.tasks) (ready : r.ready = s.ready) (drains : r.drains = s.drains) :
    Alert none (r.grantNext t) := by
  rw [grantNext_eq]
  exact h.grants t.toList tasks ready drains

theorem Alert.take {s : State σ} {t : TaskId} {rest : List TaskId} (h : Alert none s)
    (next : s.ready = t :: rest) : Alert (some t) { s with ready := rest } := by
  intro i task hi awake
  rcases h i task hi awake with hready | hcurrent | hwaits
  · rw [next] at hready
    rcases List.mem_cons.1 hready with rfl | hrest
    · exact .inr (.inl rfl)
    · exact .inl hrest
  · simp at hcurrent
  · exact .inr (.inr hwaits)

theorem Alert.advance {t : TaskId} {s s' : State σ} (h : Alert (some t) s)
    (move : Advance t s s') : Alert (some t) s' := by
  cases move with
  | occupy => exact h.runs rfl rfl rfl
  | createPermit here => exact h.runs (set_same here).symm rfl rfl
  | call => exact h.runs rfl rfl rfl
  | answered => exact h.runs rfl rfl rfl
  | unanswered =>
    rw [unanswered_eq]
    exact h.runs rfl rfl rfl
  | finalizePermit here => exact h.runs (set_same here).symm rfl rfl

theorem alert_start (capacity : UInt64) (table : LabelTable) (store : σ)
    (surroundings : Surroundings) (freshIds : Nat → PredictionId) :
    Alert none (State.start capacity table store surroundings freshIds) := by
  intro t task here
  simp [State.start] at here

section Moves

variable [PredictionStore σ]

theorem Alert.halt {t : TaskId} {s s' : State σ} (h : Alert (some t) s) (move : Halt t s s') :
    Alert none s' := by
  cases move with
  | asleep still =>
    intro i task hi awake
    rcases h i task hi awake with hready | hcurrent | hwaits
    · exact .inl hready
    · obtain rfl := Option.some.inj hcurrent
      exact absurd awake (Bool.eq_false_iff.1 (still task hi))
    · exact .inr (.inr hwaits)
  | unnamed => exact h.stops rfl rfl rfl rfl
  | full => exact h.stops rfl rfl rfl rfl
  | duplicate => exact h.releases rfl rfl rfl
  | @launched submission record store =>
    have ended : Alert none (s.endSubmit t submission (.returned (.ok record))) :=
      h.stops rfl rfl rfl rfl
    exact ended.append rfl rfl rfl
  | rolledBack => exact h.releases rfl rfl rfl
  | createPanicked => exact h.releases rfl rfl rfl
  | createHeld => exact h.stops rfl rfl rfl rfl
  | gateHeld => exact h.stops rfl rfl rfl rfl
  | classifyPanicked => exact h.releases rfl rfl rfl
  | finalizePanicked => exact h.releases rfl rfl rfl
  | written => exact h.releases rfl rfl rfl
  | unwritten => exact h.releases rfl rfl rfl
  | finalizeHeld => exact h.stops rfl rfl rfl rfl
  | checked =>
    unfold State.checkIdle
    split
    · exact h.stops rfl rfl rfl rfl
    · refine h.set rfl (List.append_nil _).symm (fun i hi => .inr ?_) fun _ => .inr ⟨rfl, ?_⟩
      · exact List.mem_append_left _ hi
      · exact List.mem_append_right _ (List.mem_singleton.2 rfl)

theorem Alert.polled {t : TaskId} {s s' : State σ} (poll : Polled t s s')
    (h : Alert (some t) s) : Alert none s' := by
  induction poll with
  | halt last => exact h.halt last
  | advance first _ ih => exact ih (h.advance first)

theorem Alert.outside {s s' : State σ} (h : Alert none s) (move : Outside s s') :
    Alert none s' := by
  cases move with
  | submit => exact h.append rfl rfl rfl
  | drain => exact h.append rfl rfl rfl
  | cancelNew => exact (h.weaken _).stops rfl rfl rfl rfl
  | cancelWaiting => exact (h.weaken _).releases rfl rfl rfl
  | cancelGranted => exact (h.weaken _).releases rfl rfl rfl
  | passCreate => exact h.grantNext _ rfl rfl rfl
  | passFinalize => exact h.grantNext _ rfl rfl rfl
  | passGate => exact h.grantNext _ rfl rfl rfl
  | openGates => exact h.grants _ rfl rfl rfl
  | behave | setCreateMode | setFinalizeMode | setCreatePassage | setFinalizePassage | createDirectly
  | finalizeDirectly => exact h

theorem alert_of_reachable {initial s : State σ} (start : Alert none initial)
    (h : Reachable initial s) : Alert none s := by
  induction h with
  | start => exact start
  | @event r stimulus _ ih =>
    have chain := outside_apply r stimulus
    generalize r.apply stimulus = s' at chain
    induction chain with
    | refl => exact ih
    | tail _ last ih => exact ih.outside last
  | @poll r s' _ hstep ih =>
    obtain ⟨t, rest, next, rfl⟩ := State.poll_of_step? hstep
    exact Alert.polled (polled_poll _ t) (ih.take next)

end Moves

/-! ## Rest -/

/-- Task `t` holds the admission of a resource and is inside a call that has not been answered. -/
inductive State.Suspended (s : State σ) (t : TaskId) : String → Prop
  | creating {submission : Submission}
      (here : s.tasks[t]? = some (.submit submission (.creating false)))
      (queued : t ∈ s.surroundings.line .creations) : s.Suspended t submission.resource
  | classifying {w : Work} (here : s.tasks[t]? = some (.work w (.classifying false)))
      (queued : t ∈ s.surroundings.line (.gate w.resource)) : s.Suspended t w.resource
  | finalizing {w : Work} {outcome : Outcome}
      (here : s.tasks[t]? = some (.work w (.finalizing outcome false)))
      (queued : t ∈ s.surroundings.line .finalizations) : s.Suspended t w.resource

/-- Nobody is left who waits for an answer. -/
def Surroundings.Answered (w : Surroundings) : Prop := ∀ line, w.line line = []

theorem State.Suspended.holds {s : State σ} {t : TaskId} {resource : String}
    (h : s.Suspended t resource) : s.Holds t resource := by
  cases h with
  | creating here => exact ⟨_, here, rfl⟩
  | classifying here => exact ⟨_, here, rfl⟩
  | finalizing here => exact ⟨_, here, rfl⟩

/-- At rest no task is left that a poll would move on, but for drains. -/
theorem Alert.asleep {s : State σ} (h : Alert none s) (rest : s.AtRest) {t : TaskId} {task : Task}
    (here : s.tasks[t]? = some task) (hdrain : task ≠ .drain .waiting) : task.awake = false := by
  by_contra hawake
  rcases h t task here (Bool.of_not_eq_false hawake) with hready | hcurrent | ⟨hwaits, -⟩
  · rw [rest] at hready
    exact absurd hready List.not_mem_nil
  · simp at hcurrent
  · exact hdrain hwaits

/-- A holder that no poll would move on is inside a call. -/
theorem Lined.suspended {s : State σ} (h : Lined s) {t : TaskId} {task : Task} {resource : String}
    (here : s.tasks[t]? = some task) (held : task.held? = some resource)
    (asleep : task.awake = false) : s.Suspended t resource := by
  have queued : ∀ {line}, task.line? = some line → t ∈ s.surroundings.line line :=
    fun hline => (h.awaits _ t).2 ⟨task, here, hline⟩
  unfold Task.held? at held
  split at held
  · rename_i submission granted
    obtain rfl := Option.some.inj held
    cases granted with
    | true => simp [Task.awake] at asleep
    | false => exact .creating here (queued rfl)
  · simp at held
  · rename_i w stage done
    obtain rfl := Option.some.inj held
    cases stage with
    | new => simp [Task.awake] at asleep
    | classifying granted =>
      cases granted with
      | true => simp [Task.awake] at asleep
      | false => exact .classifying here (queued rfl)
    | finalizing outcome granted =>
      cases granted with
      | true => simp [Task.awake] at asleep
      | false => exact .finalizing here (queued rfl)
    | done panicked => exact absurd rfl (done panicked)
  · simp at held

theorem holds_iff_suspended {s : State σ} (lined : Lined s) (alert : Alert none s)
    (rest : s.AtRest) (t : TaskId) (resource : String) :
    s.Holds t resource ↔ s.Suspended t resource := by
  constructor
  · rintro ⟨task, here, held⟩
    refine lined.suspended here held (alert.asleep rest here ?_)
    rintro rfl
    simp [Task.held?] at held
  · exact State.Suspended.holds

/-- Whoever is inside a call holds an admission. -/
theorem Task.held?_of_line? {task : Task} {line : Line} (h : task.line? = some line) :
    ∃ resource, task.held? = some resource := by
  unfold Task.line? at h
  split at h
  · exact ⟨_, rfl⟩
  · exact ⟨_, rfl⟩
  · exact ⟨_, rfl⟩
  · simp at h

theorem answered_iff {s : State σ} (lined : Lined s)
    (holders : ∀ t r, s.Holds t r ↔ s.Suspended t r) :
    s.surroundings.Answered ↔ ∀ t r, ¬ s.Suspended t r := by
  constructor
  · intro answered t r suspended
    cases suspended with
    | creating _ queued | classifying _ queued | finalizing _ queued => simp [answered _] at queued
  · intro idle line
    refine List.eq_nil_iff_forall_not_mem.2 fun t ht => ?_
    obtain ⟨task, here, hline⟩ := (lined.awaits line t).1 ht
    obtain ⟨r, held⟩ := Task.held?_of_line? hline
    exact idle t r ((holders t r).1 ⟨task, here, held⟩)

theorem Accounted.idle {s : State σ} (h : Accounted s) (none_holds : ∀ t r, ¬ s.Holds t r) :
    s.admission.inFlight = 0 ∧ s.admission.claimed = [] := by
  have claimed : s.admission.claimed = [] := by
    refine List.eq_nil_iff_forall_not_mem.2 fun r hr => ?_
    obtain ⟨t, ht⟩ := (h.claims r).1 hr
    exact none_holds t r ht
  refine ⟨UInt64.toNat_inj.1 ?_, claimed⟩
  rw [h.sound.counted, claimed]
  rfl

/-- A submission that has not ended stands in the line of creation calls and in no other. -/
theorem submit_of_atRest {s : State σ} (lined : Lined s) (alert : Alert none s) (rest : s.AtRest)
    {t : TaskId} {submission : Submission} {stage : SubmitStage}
    (here : s.tasks[t]? = some (.submit submission stage)) :
    (∃ ending, stage = .done ending) ∨
      stage = .creating false ∧ ∀ line, t ∈ s.surroundings.line line ↔ line = .creations := by
  have asleep := alert.asleep rest here nofun
  match stage with
  | .done ending => exact .inl ⟨ending, rfl⟩
  | .creating false =>
    refine .inr ⟨rfl, fun line => ?_⟩
    rw [lined.awaits, awaits_iff_of_some here]
    simp [Task.line?, eq_comm]

/-- At rest each admission belongs to one task, which is inside a call that has not been answered. A
submission that has not ended is inside the creation call and waits for nothing else. When all calls
have been answered, nothing is in flight. -/
theorem suspended_of_atRest [PredictionStore σ] {capacity : UInt64} {table : LabelTable} {store : σ}
    {usual : Behaviour} {isOpen : Bool} {freshIds : Nat → PredictionId} {s : State σ}
    (h : Reachable (State.start capacity table store (.start usual isOpen) freshIds) s)
    (rest : s.AtRest) :
    (∀ t r, s.Holds t r ↔ s.Suspended t r) ∧
      (∀ r ∈ s.live, ∃! t, s.Suspended t r) ∧
      (∀ t submission stage, s.tasks[t]? = some (.submit submission stage) →
        (∃ ending, stage = .done ending) ∨
          stage = .creating false ∧
            ∀ line, t ∈ s.surroundings.line line ↔ line = .creations) ∧
      (s.surroundings.Answered ↔ ∀ t r, ¬ s.Suspended t r) ∧
      (s.surroundings.Answered → s.admission.inFlight = 0 ∧ s.admission.claimed = []) := by
  have acc := accounted_of_reachable h
  have lined := lined_of_reachable (lined_start capacity table store usual isOpen freshIds) h
  have alert := alert_of_reachable (alert_start capacity table store _ freshIds) h
  have holders := holds_iff_suspended lined alert rest
  have answered := answered_iff lined holders
  refine ⟨holders, fun r hr => ?_, fun _ _ _ here => submit_of_atRest lined alert rest here,
    answered, fun all => acc.idle fun t r ht => answered.1 all t r ((holders t r).1 ht)⟩
  obtain ⟨t, ht⟩ := mem_live.1 hr
  exact ⟨t, (holders t r).1 ht, fun t' ht' => acc.single ht'.holds ht⟩

theorem suspended_of_atRest_sample : Reachable (Sample.start false) (Sample.run false) ∧
    (Sample.run false).AtRest ∧ (∃! t, (Sample.run false).Suspended t "scan.png") ∧
      ¬ (Sample.run false).surroundings.Answered := by
  have reached := Sample.reachable_run false
  have rest : (Sample.run false).AtRest := rfl
  obtain ⟨-, single, -, answered, -⟩ := suspended_of_atRest reached rest
  obtain ⟨t, ht, only⟩ := single "scan.png" (List.mem_singleton.2 rfl)
  exact ⟨reached, rest, ⟨t, ht, only⟩, fun all => answered.1 all t _ ht⟩

end Predictor.Engine
