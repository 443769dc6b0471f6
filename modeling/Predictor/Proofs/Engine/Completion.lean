import Predictor.Proofs.Engine.Drain
import Predictor.Proofs.Engine.Isolation

/-!
What comes of the classification call of a unit of work that is let through while the engine is at
rest. The unit runs to its end in one poll (`hear_eq`): its fate and the store after it are functions
of the state (`State.upshot`). Then the drains look once more whether anything is in flight
(`settle_drains`), and the engine is at rest again (`respond_passGate_some`).
-/

namespace Predictor.Engine

open Telemetry

variable {σ : Type}

/-! ## Fates -/

/-- What a unit of work logs when it hears an answer. -/
def Answer.events (w : Work) : Answer → List Event
  | .ok _ => []
  | .error error => [⟨.classificationFailed error, some (w.span none)⟩]

namespace Fate

/-- How a call of the store ends a unit of work; none stands for a panic. -/
def ofReply (answer : Answer) : Option (Except Error Unit) → Fate
  | some (.ok _) => .written answer
  | some (.error error) => .unwritten answer error
  | none => .finalizePanicked answer

def panicked : Fate → Bool
  | .written _ | .unwritten .. => false
  | .finalizePanicked _ | .classifyPanicked => true

/-- The status that the span of the unit has in the end. -/
def status? (table : LabelTable) : Fate → Option Status
  | .written answer => some (answer.outcome table).status
  | .unwritten .. | .finalizePanicked _ | .classifyPanicked => none

/-- What a unit of work that comes to such an end logs from its answer on. -/
def events (table : LabelTable) (w : Work) (fate : Fate) : List Event :=
  (match fate with
    | .written answer => answer.events w ++
      [⟨.statusTransition (answer.outcome table).status, some (w.span (fate.status? table))⟩]
    | .unwritten answer error => answer.events w ++
      [⟨.finalizationFailed w.id w.resource error, some (w.span none)⟩]
    | .finalizePanicked answer => answer.events w
    | .classifyPanicked => []) ++ [⟨.released w.resource, some (w.span (fate.status? table))⟩]

/-- What it measures. -/
def measured (table : LabelTable) (fate : Fate) : List Measurement :=
  sharesOf (fate.deeds table) ++ [.inFlight false]

end Fate

/-! ## The end of a unit -/

namespace State

/-- What the classifier answers to a unit of work; none stands for a panic. -/
def answerTo (s : State σ) (w : Work) : Option Answer :=
  match s.surroundings.behaviourOf w.resource with
  | .answers raw => some (.ok raw)
  | .fails error => some (.error error)
  | .panics => none

/-- Unit of work `t` has come to its end, and the store is the one after it. -/
def concluded (s : State σ) (t : TaskId) (w : Work) (fate : Fate) (store : σ) : State σ :=
  { s with
    admission := s.admission.release w.resource
    store
    tasks := s.tasks.set t (.work w (.done fate.panicked))
    ready := s.ready ++ s.drains
    drains := []
    deeds := s.deeds ++ (fate.deeds s.table).map fun deed => (t, deed)
    events := s.events ++ fate.events s.table w
    measured := s.measured ++ fate.measured s.table }

variable [PredictionStore σ]

/-- The reply to a finalization call that is not held back, and the store after it. -/
def replyTo (s : State σ) (w : Work) (outcome : Outcome) : Option (Except Error Unit) × σ :=
  match s.surroundings.finalizeMode with
  | .fail => (some (.error finalizeUnavailable), s.store)
  | .panic => (none, s.store)
  | .ok | .hold =>
    let (result, store) := PredictionStore.finalize s.store w.id outcome
    (some result, store)

/-- How a unit of work ends that is let through, and the store after it. -/
def upshot (s : State σ) (w : Work) : Fate × σ :=
  match s.answerTo w with
  | none => (.classifyPanicked, s.store)
  | some answer =>
    let (reply, store) := s.replyTo w (answer.outcome s.table)
    (.ofReply answer reply, store)

end State

/-- A unit of work has heard an answer, and its finalization call begins. -/
def State.heard (s : State σ) (t : TaskId) (w : Work) : Answer → State σ
  | .ok raw => s.answered t w raw
  | .error error => s.unanswered t w error

/-- The finalization call of a unit of work is over; it has panicked if there is no reply. -/
def State.replied (s : State σ) (t : TaskId) (w : Work) (outcome : Outcome) :
    Option (Except Error Unit) × σ → State σ
  | (some result, store) => { s with store }.finalized t w outcome.status result
  | (none, store) => ({ s with store }.note t .broken).endWork t w none true

theorem replied_heard (s : State σ) (t : TaskId) (w : Work) (answer : Answer)
    (reply : Option (Except Error Unit) × σ) :
    (s.heard t w answer).replied t w (answer.outcome s.table) reply =
      s.concluded t w (.ofReply answer reply.1) reply.2 := by
  obtain ⟨result, store⟩ := reply
  cases answer <;> rcases result with _ | error | _ <;>
    simp [State.heard, State.replied, State.answered, State.unanswered, State.ask, State.finalized,
      State.endWork, State.release, State.wakeDrains, State.note, State.measure, State.emit,
      State.setTask, State.concluded, Fate.ofReply, Fate.deeds, Fate.events, Fate.measured,
      Fate.status?, Fate.panicked, Answer.events, Answer.behaviour, Answer.outcome, sharesOf]

section Hearing

variable [PredictionStore σ] (s : State σ) (t : TaskId) (w : Work)

theorem callFinalize_eq (outcome : Outcome) (prompt : s.surroundings.finalizeMode ≠ .hold) :
    s.callFinalize t w outcome = s.replied t w outcome (s.replyTo w outcome) := by
  unfold State.callFinalize State.replyTo
  cases mode : s.surroundings.finalizeMode with
  | ok | fail | panic => rfl
  | hold => exact absurd mode prompt

/-- A unit of work that is let through runs to its end. -/
theorem hear_eq (prompt : s.surroundings.finalizeMode ≠ .hold) :
    s.hear t w = s.concluded t w (s.upshot w).1 (s.upshot w).2 := by
  have asked (answer : Answer) :
      (s.heard t w answer).callFinalize t w (answer.outcome s.table) =
        s.concluded t w (.ofReply answer (s.replyTo w (answer.outcome s.table)).1)
          (s.replyTo w (answer.outcome s.table)).2 := by
    have same : (s.heard t w answer).replyTo w (answer.outcome s.table) =
        s.replyTo w (answer.outcome s.table) := by
      cases answer <;> rfl
    have still : (s.heard t w answer).surroundings = s.surroundings := by
      cases answer <;> rfl
    rw [callFinalize_eq _ t w _ (still ▸ prompt), same, replied_heard]
  unfold State.hear State.upshot State.answerTo
  cases s.surroundings.behaviourOf w.resource with
  | answers raw => exact asked (.ok raw)
  | fails error => exact asked (.error error)
  | panics => rfl

end Hearing

/-! ## Drains that are woken -/

/-- Those who wait for the next release are drains that have looked in vain. -/
def Parked (s : State σ) : Prop := ∀ d ∈ s.drains, s.tasks[d]? = some (.drain .waiting)

theorem Parked.of_eq {s s' : State σ} (h : Parked s) (tasks : s'.tasks = s.tasks)
    (drains : s'.drains = s.drains) : Parked s' := by
  intro d hd
  rw [tasks]
  exact h d (drains ▸ hd)

theorem parked_of_woken {s : State σ} (drains : s.drains = []) : Parked s := by
  intro d hd
  rw [drains] at hd
  exact absurd hd List.not_mem_nil

theorem Parked.grants {s r : State σ} (h : Parked s) (through : List TaskId)
    (tasks : r.tasks = s.tasks) (drains : r.drains = s.drains) :
    Parked (through.foldl State.grant r) := by
  intro d hd
  rw [drains_grants, drains] at hd
  exact drain_grants through (tasks ▸ h d hd)

theorem Parked.grantNext {s r : State σ} (h : Parked s) (next : Option TaskId)
    (tasks : r.tasks = s.tasks) (drains : r.drains = s.drains) : Parked (r.grantNext next) := by
  rw [grantNext_eq]
  exact h.grants next.toList tasks drains

section Parked

variable {s s' : State σ} {t : TaskId}

/-- A task that is no drain changes, and the drains go on to wait. -/
theorem Parked.set {old new : Task} (h : Parked s) (here : s.tasks[t]? = some old)
    (other : old ≠ .drain .waiting) (tasks : s'.tasks = s.tasks.set t new)
    (drains : s'.drains = s.drains) : Parked s' := by
  intro d hd
  have waits := h d (drains ▸ hd)
  have hdt : d ≠ t := by
    rintro rfl
    exact other (Option.some.inj (here.symm.trans waits))
  exact (getElem?_of_set_ne tasks hdt).trans waits

theorem Parked.append {added : Task} (h : Parked s) (tasks : s'.tasks = s.tasks ++ [added])
    (drains : s'.drains = s.drains) : Parked s' := by
  intro d hd
  exact getElem?_of_append tasks (h d (drains ▸ hd))

theorem Parked.advance (h : Parked s) (move : Advance t s s') : Parked s' := by
  cases move with
  | createPermit | finalizePermit => exact h.of_eq rfl rfl
  | occupy here => exact h.set here nofun rfl rfl
  | call here => exact h.set here nofun rfl rfl
  | answered here => exact h.set here nofun rfl rfl
  | unanswered here =>
    rw [unanswered_eq]
    exact h.set here nofun rfl rfl

variable [PredictionStore σ]

theorem Parked.halt (h : Parked s) (engaged : Engaged s) (move : Halt t s s') : Parked s' := by
  cases move with
  | asleep => exact h
  | unnamed here | full here | createHeld here | gateHeld here | finalizeHeld here =>
    exact h.set here nofun rfl rfl
  | @launched submission record store here =>
    have ended : Parked (s.endSubmit t submission (.returned (.ok record))) :=
      h.set here nofun rfl rfl
    exact ended.append rfl rfl
  | duplicate | rolledBack | createPanicked | classifyPanicked | finalizePanicked | written
  | unwritten => exact parked_of_woken rfl
  | @checked stage here =>
    unfold State.checkIdle
    split
    · -- nothing is in flight, so nobody waits
      rename_i idle
      refine parked_of_woken (Classical.not_not.1 fun waiting => ?_)
      exact engaged waiting idle
    · intro d hd
      have own : (s.tasks.set t (.drain .waiting))[t]? = some (.drain .waiting) :=
        getElem?_of_set_self rfl here
      by_cases hdt : d = t
      · exact hdt ▸ own
      · rcases List.mem_append.1 hd with hold | hnew
        · exact (getElem?_of_set_ne rfl hdt).trans (h d hold)
        · exact absurd (List.mem_singleton.1 hnew) hdt

theorem Parked.outside (h : Parked s) (move : Outside s s') : Parked s' := by
  cases move with
  | submit | drain => exact h.append rfl rfl
  | cancelNew here => exact h.set here nofun rfl rfl
  | cancelWaiting | cancelGranted => exact parked_of_woken rfl
  | passCreate => exact h.grantNext _ rfl rfl
  | passFinalize => exact h.grantNext _ rfl rfl
  | passGate => exact h.grantNext _ rfl rfl
  | openGates => exact h.grants _ rfl rfl
  | behave | setCreateMode | setFinalizeMode | setCreatePassage | setFinalizePassage | createDirectly
  | finalizeDirectly =>
    exact h.of_eq rfl rfl

theorem parked_of_reachable {capacity : UInt64} {table : LabelTable} {store : σ}
    {surroundings : Surroundings} {freshIds : Nat → PredictionId}
    (h : Reachable (State.start capacity table store surroundings freshIds) s) : Parked s := by
  have both := h.invariant (P := fun r => Engaged r ∧ Parked r)
    ⟨engaged_of_woken rfl, parked_of_woken rfl⟩ fun move ⟨engaged, parked⟩ =>
      ⟨engaged.transition move, by
        cases move with
        | take => exact parked.of_eq rfl rfl
        | advance first => exact parked.advance first
        | halt last => exact parked.halt engaged last
        | outside move => exact parked.outside move⟩
  exact both.2

end Parked

section Looks

variable [PredictionStore σ] {s : State σ} {d : TaskId} {stage : DrainStage}

theorem poll_over (here : s.tasks[d]? = some (.drain .done)) : s.poll d = s := by
  simp [State.poll, here]

theorem poll_running (here : s.tasks[d]? = some (.drain stage)) (running : stage ≠ .done) :
    s.poll d = s.checkIdle d := by
  cases stage with
  | new | waiting => simp [State.poll, here]
  | done => exact absurd rfl running

/-- A drain that looks does not touch the ready queue. -/
theorem poll_ready (here : s.tasks[d]? = some (.drain stage)) (ready : List TaskId) :
    { s with ready }.poll d = { s.poll d with ready } := by
  by_cases ended : stage = .done
  · subst ended
    rw [poll_over here, poll_over (s := { s with ready }) here]
  · rw [poll_running here ended, poll_running (s := { s with ready }) here ended]
    unfold State.checkIdle
    split <;> rfl

/-- After a drain has looked, all drains are still drains. -/
theorem drain_poll {i : TaskId} {other : DrainStage} (here : s.tasks[d]? = some (.drain stage))
    (there : s.tasks[i]? = some (.drain other)) :
    ∃ after, (s.poll d).tasks[i]? = some (.drain after) := by
  by_cases hi : i = d
  · subst hi
    by_cases ended : stage = .done
    · subst ended
      rw [poll_over here]
      exact ⟨.done, here⟩
    · rw [poll_running here ended]
      unfold State.checkIdle
      split
      · exact ⟨.done, getElem?_of_set_self rfl here⟩
      · exact ⟨.waiting, getElem?_of_set_self rfl here⟩
  · exact ⟨other, (polled_poll s d).other hi there⟩

/-- Of what a drain might have changed, only drains have. -/
structure Looked (s s' : State σ) : Prop where
  admission : s'.admission = s.admission
  surroundings : s'.surroundings = s.surroundings
  deeds : s'.deeds = s.deeds
  works : ∀ (i : TaskId) (w : Work) (stage : WorkStage),
    s'.tasks[i]? = some (.work w stage) ↔ s.tasks[i]? = some (.work w stage)

theorem looked_poll (here : s.tasks[d]? = some (.drain stage)) : Looked s (s.poll d) := by
  by_cases ended : stage = .done
  · subst ended
    rw [poll_over here]
    exact ⟨rfl, rfl, rfl, fun _ _ _ => .rfl⟩
  · have works (after : DrainStage) (i : TaskId) (w : Work) (place : WorkStage) :
        (s.tasks.set d (.drain after))[i]? = some (.work w place) ↔
          s.tasks[i]? = some (.work w place) := by
      by_cases own : i = d
      · subst own
        rw [getElem?_of_set_self rfl here, here]
        simp
      · rw [getElem?_of_set_ne rfl own]
    rw [poll_running here ended]
    unfold State.checkIdle
    split <;> exact ⟨rfl, rfl, rfl, works _⟩

theorem looked_foldl (s : State σ) (ds : List TaskId)
    (drains : ∀ d ∈ ds, ∃ stage, s.tasks[d]? = some (.drain stage)) :
    Looked s (ds.foldl State.poll s) := by
  induction ds generalizing s with
  | nil => exact ⟨rfl, rfl, rfl, fun _ _ _ => .rfl⟩
  | cons d rest ih =>
    obtain ⟨stage, here⟩ := drains d List.mem_cons_self
    have first := looked_poll here
    have later := ih (s.poll d) fun i hi => by
      obtain ⟨other, there⟩ := drains i (List.mem_cons_of_mem d hi)
      exact drain_poll here there
    exact ⟨later.admission.trans first.admission, later.surroundings.trans first.surroundings,
      later.deeds.trans first.deeds, fun i w place => (later.works i w place).trans (first.works i w place)⟩

/-- When only drains are ready, they look one after the other, and the engine is at rest. -/
theorem settle_drains (ready : List TaskId) (s : State σ)
    (drains : ∀ d ∈ ready, ∃ stage, s.tasks[d]? = some (.drain stage)) :
    { s with ready }.settle = ready.foldl State.poll { s with ready := [] } := by
  induction ready generalizing s with
  | nil => exact settle_of_atRest rfl
  | cons d rest ih =>
    obtain ⟨stage, here⟩ := drains d List.mem_cons_self
    have step : { s with ready := d :: rest }.step? = some { s.poll d with ready := rest } :=
      congrArg some (poll_ready here rest)
    rw [settle_of_step? step, List.foldl_cons, poll_ready here []]
    refine ih (s.poll d) fun i hi => ?_
    obtain ⟨other, there⟩ := drains i (List.mem_cons_of_mem d hi)
    exact drain_poll here there

end Looks

/-! ## The whole event -/

section Passing

variable {s : State σ} {resource : String}

/-- Those who wait at a gate are units of work inside the classification call. -/
theorem Task.eq_of_line?_gate {task : Task} (h : task.line? = some (.gate resource)) :
    ∃ w, task = .work w (.classifying false) ∧ w.resource = resource := by
  unfold Task.line? at h
  split at h
  · simp at h
  · rename_i w
    exact ⟨w, rfl, Line.gate.inj (Option.some.inj h)⟩
  · simp at h
  · simp at h

/-- The one let through is a unit of work for the resource that is inside the classification call. -/
theorem Lined.classifying {t : TaskId} (lined : Lined s)
    (pass : (s.surroundings.gates.admitOne resource).1 = some t) :
    ∃ w, s.tasks[t]? = some (.work w (.classifying false)) ∧ w.resource = resource := by
  have admitted : s.surroundings.gates.admitOne resource =
      (some t, (s.surroundings.gates.admitOne resource).2) := by
    rw [← pass]
  have waiting := Gates.admitOne_waiting admitted resource
  rw [if_pos rfl] at waiting
  have mem : t ∈ s.surroundings.line (.gate resource) := by
    show t ∈ (s.surroundings.gates.permits resource).waiting
    rw [waiting]
    exact List.mem_append_left _ List.mem_cons_self
  obtain ⟨task, here, line⟩ := (lined.awaits _ t).1 mem
  obtain ⟨w, rfl, about⟩ := Task.eq_of_line?_gate line
  exact ⟨w, here, about⟩

/-- Nobody who waits is the unit of work that completes. -/
theorem Parked.concluded {t : TaskId} {w : Work} (parked : Parked s)
    (here : s.tasks[t]? = some (.work w (.classifying false))) (fate : Fate)
    (store : σ) :
    ∀ d ∈ s.drains, (s.concluded t w fate store).tasks[d]? = some (.drain .waiting) := by
  intro d hd
  have waits := parked d hd
  have hdt : d ≠ t := by
    rintro rfl
    simp [here] at waits
  exact (getElem?_of_set_ne rfl hdt).trans waits

variable [PredictionStore σ]

/-- Unit of work `t` has run to its end, and the drains that waited have looked. -/
def State.completed (s : State σ) (t : TaskId) (w : Work) : State σ :=
  s.drains.foldl State.poll
    { s.concluded t w (s.upshot w).1 (s.upshot w).2 with ready := [] }

/-- The looks of the drains leave the end of the unit as it is. -/
theorem looked_completed {t : TaskId} {w : Work} (parked : Parked s)
    (here : s.tasks[t]? = some (.work w (.classifying false))) (gates : Gates) :
    Looked ((s.withGates gates).concluded t w (s.upshot w).1 (s.upshot w).2)
      ((s.withGates gates).completed t w) := by
  have frame := looked_foldl
    { (s.withGates gates).concluded t w (s.upshot w).1 (s.upshot w).2 with ready := [] } s.drains
    fun d hd => ⟨.waiting, parked.concluded here (s.upshot w).1 (s.upshot w).2 d hd⟩
  exact ⟨frame.admission, frame.surroundings, frame.deeds, frame.works⟩

/-- Nobody waits at the gate, so nothing runs. -/
theorem respond_passGate_none (rest : s.AtRest)
    (idle : (s.surroundings.gates.admitOne resource).1 = none) :
    s.respond (.passGate resource) =
      s.withGates (s.surroundings.gates.admitOne resource).2 := by
  have applied : s.apply (.passGate resource) =
      s.withGates (s.surroundings.gates.admitOne resource).2 := by
    simp only [State.apply, idle, State.grantNext]
  rw [State.respond, applied]
  exact settle_of_atRest rest

/-- The one let through runs to its end. -/
theorem respond_passGate_some {t : TaskId} {w : Work} (rest : s.AtRest) (parked : Parked s)
    (prompt : s.surroundings.finalizeMode ≠ .hold)
    (here : s.tasks[t]? = some (.work w (.classifying false)))
    (pass : (s.surroundings.gates.admitOne resource).1 = some t) :
    s.respond (.passGate resource) =
      (s.withGates (s.surroundings.gates.admitOne resource).2).completed t w := by
  let gates := (s.surroundings.gates.admitOne resource).2
  let through : State σ := { s.withGates gates with
    tasks := s.tasks.set t (.work w (.classifying true)) }
  have idle : s.ready = [] := rest
  have applied : s.apply (.passGate resource) = { through with ready := [t] } := by
    have granted := tasks_grant (s := s.withGates gates) here
    simp only [State.apply, pass, State.grantNext, State.grant] at granted ⊢
    rw [granted]
    simp [through, gates, State.withGates, idle, Task.grant]
  have polled : { through with ready := [] }.poll t = { through with ready := [] }.hear t w := by
    have own : through.tasks[t]? = some (.work w (.classifying true)) :=
      getElem?_of_set_self rfl here
    simp [State.poll, own]
  have step : (s.apply (.passGate resource)).step? =
      some ({ through with ready := [] }.hear t w) := by
    rw [applied, ← polled]
    rfl
  let ended : State σ :=
    (s.withGates gates).concluded t w (s.upshot w).1 (s.upshot w).2
  have heard : { through with ready := [] }.hear t w = { ended with ready := s.drains } := by
    rw [hear_eq { through with ready := [] } t w prompt]
    simp only [State.concluded, through, ended, List.set_set, List.nil_append]
    rfl
  have drains : ∀ d ∈ s.drains, ∃ stage, ended.tasks[d]? = some (.drain stage) := by
    intro d hd
    have waits := parked d hd
    have hdt : d ≠ t := by
      rintro rfl
      simp [here] at waits
    have kept : ended.tasks[d]? = s.tasks[d]? := getElem?_of_set_ne rfl hdt
    exact ⟨.waiting, kept.trans waits⟩
  rw [State.respond, settle_of_step? step, heard, settle_drains s.drains ended drains]
  rfl

/-- What is needed of a state for the completions in it to be followed. -/
structure State.Calm (s : State σ) : Prop where
  rest : s.AtRest
  lined : Lined s
  parked : Parked s
  prompt : s.surroundings.finalizeMode ≠ .hold

theorem calm_of_reachable {capacity : UInt64} {table : LabelTable} {store : σ} {usual : Behaviour}
    {isOpen : Bool} {freshIds : Nat → PredictionId}
    (h : Reachable (.start capacity table store (.start usual isOpen) freshIds) s)
    (rest : s.AtRest) (prompt : s.surroundings.finalizeMode ≠ .hold) : s.Calm where
  rest := rest
  lined := lined_of_reachable (lined_start ..) h
  parked := parked_of_reachable h
  prompt := prompt

end Passing

end Predictor.Engine
