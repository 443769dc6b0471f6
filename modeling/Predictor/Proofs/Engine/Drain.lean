import Predictor.Proofs.Engine.Quiescence

/-!
Drains. A drain ends only in a poll of its own that finds nothing in flight, and then every admission
has been given back. As long as a drain waits, something is in flight (`Engaged`), since each release
and each reservation taken back wakes all who wait; so at rest a drain is left only while something
is in flight.
-/

namespace Predictor.Engine

variable {σ : Type}

/-! ## Waiting drains -/

/-- Drains wait only while something is in flight. -/
def Engaged (s : State σ) : Prop := s.drains ≠ [] → s.admission.inFlight ≠ 0

/-- Nobody begins to wait, and the number in flight is as before. -/
theorem Engaged.of_eq {s s' : State σ} (h : Engaged s) (drains : s'.drains = s.drains)
    (admission : s'.admission = s.admission) : Engaged s' := by
  intro waiting
  rw [admission]
  exact h (drains ▸ waiting)

/-- Everybody who waited has been woken. -/
theorem engaged_of_woken {s : State σ} (drains : s.drains = []) : Engaged s :=
  fun waiting => absurd drains waiting

theorem Engaged.grants {s r : State σ} (h : Engaged s) (through : List TaskId)
    (drains : r.drains = s.drains) (admission : r.admission = s.admission) :
    Engaged (through.foldl State.grant r) :=
  h.of_eq ((drains_grants through r).trans drains)
    ((congrArg State.admission (grants_eq through r)).trans admission)

theorem Engaged.grantNext {s r : State σ} (h : Engaged s) (t : Option TaskId)
    (drains : r.drains = s.drains) (admission : r.admission = s.admission) :
    Engaged (r.grantNext t) := by
  rw [grantNext_eq]
  exact h.grants t.toList drains admission

/-- A slot that is taken is in use: counting up below the capacity does not lead to zero. -/
theorem Admission.inFlight_ne_zero {a a' : Admission} {resource : String}
    (free : a.atCapacity = false) (claims : a.reserve.claim? resource = some a') :
    a'.inFlight ≠ 0 := by
  have counted := CounterUse.add_one_toNat (lt_capacity free)
  rw [(claim?_reserve claims).2]
  intro zero
  have hzero : (a.inFlight + 1).toNat = 0 := congrArg UInt64.toNat zero
  omega

theorem Engaged.advance {t : TaskId} {s s' : State σ} (h : Engaged s) (move : Advance t s s') :
    Engaged s' := by
  cases move with
  | occupy _ _ free claims => exact fun _ => Admission.inFlight_ne_zero free claims
  | unanswered =>
    rw [unanswered_eq]
    exact h.of_eq rfl rfl
  | createPermit | call | answered | finalizePermit => exact h.of_eq rfl rfl

/-! ## Drains that are left alone -/

theorem drain_grants (through : List TaskId) {s : State σ} {t : TaskId} {stage : DrainStage}
    (here : s.tasks[t]? = some (.drain stage)) :
    (through.foldl State.grant s).tasks[t]? = some (.drain stage) := by
  rw [getElem?_grants, here]
  split <;> rfl

theorem drain_grantNext (next : Option TaskId) {s : State σ} {t : TaskId} {stage : DrainStage}
    (here : s.tasks[t]? = some (.drain stage)) :
    (s.grantNext next).tasks[t]? = some (.drain stage) := by
  rw [grantNext_eq]
  exact drain_grants _ here

/-- At rest a drain that is not over waits for a release. -/
theorem Alert.drain_waits {s : State σ} (alert : Alert none s) (rest : s.AtRest) {t : TaskId}
    {stage : DrainStage} (here : s.tasks[t]? = some (.drain stage)) (running : stage ≠ .done) :
    stage = .waiting ∧ t ∈ s.drains := by
  have awake : (Task.drain stage).awake = true := by
    cases stage with
    | new | waiting => rfl
    | done => exact absurd rfl running
  rcases alert t _ here awake with ready | current | ⟨waiting, mem⟩
  · rw [rest] at ready
    exact absurd ready List.not_mem_nil
  · simp at current
  · exact ⟨by simpa using waiting, mem⟩

/-- Where nothing is in flight, all admissions have been given back. -/
theorem Accounted.released_of_idle {s : State σ} (h : Accounted s)
    (idle : s.admission.inFlight = 0) :
    s.admission.claimed = [] ∧ s.live = [] ∧ s.turns true = s.turns false := by
  have none_claimed : s.admission.claimed = [] := by
    rw [← List.length_eq_zero_iff, ← h.sound.counted, idle]
    rfl
  refine ⟨none_claimed, ?_, ?_⟩
  · rw [← List.perm_nil, ← none_claimed]
    exact h.perm_live.symm
  · rw [h.turns, none_claimed]
    rfl

/-! ## What a move does to drains -/

section Moves

variable [PredictionStore σ]

theorem Engaged.halt {t : TaskId} {s s' : State σ} (h : Engaged s) (move : Halt t s s') :
    Engaged s' := by
  cases move with
  | asleep => exact h
  | unnamed | full | launched | createHeld | gateHeld | finalizeHeld => exact h.of_eq rfl rfl
  | duplicate | rolledBack | createPanicked | classifyPanicked | finalizePanicked | written
  | unwritten => exact engaged_of_woken rfl
  | checked =>
    unfold State.checkIdle
    split
    · exact h.of_eq rfl rfl
    · rename_i busy
      exact fun _ => busy

theorem Engaged.outside {s s' : State σ} (h : Engaged s) (move : Outside s s') : Engaged s' := by
  cases move with
  | cancelWaiting | cancelGranted => exact engaged_of_woken rfl
  | passCreate => exact h.grantNext _ rfl rfl
  | passFinalize => exact h.grantNext _ rfl rfl
  | passGate => exact h.grantNext _ rfl rfl
  | openGates => exact h.grants _ rfl rfl
  | submit | drain | cancelNew | behave | setCreateMode | setFinalizeMode | setCreatePassage
  | setFinalizePassage | createDirectly | finalizeDirectly => exact h.of_eq rfl rfl

theorem Engaged.transition {s s' : State σ} (h : Engaged s) (move : Transition s s') :
    Engaged s' := by
  cases move with
  | take => exact h.of_eq rfl rfl
  | advance first => exact h.advance first
  | halt last => exact h.halt last
  | outside move => exact h.outside move

theorem engaged_of_reachable {capacity : UInt64} {table : LabelTable} {store : σ}
    {surroundings : Surroundings} {freshIds : Nat → PredictionId} {s : State σ}
    (h : Reachable (State.start capacity table store surroundings freshIds) s) : Engaged s :=
  h.invariant (engaged_of_woken rfl) fun move hr => hr.transition move

/-! ## The end of a drain -/

/-- The next state of a run: one poll, or one event. -/
inductive Follows : State σ → State σ → Prop
  | poll {s s' : State σ} (step : s.step? = some s') : Follows s s'
  | event {s : State σ} (stimulus : Stimulus) : Follows s (s.apply stimulus)

theorem Reachable.follow {initial s s' : State σ} (h : Reachable initial s)
    (next : Follows s s') : Reachable initial s' := by
  cases next with
  | poll step => exact h.poll step
  | event stimulus => exact h.event stimulus

/-- What comes from outside leaves a drain where it is. -/
theorem Outside.drain_eq {s s' : State σ} {t : TaskId} {stage : DrainStage} (move : Outside s s')
    (here : s.tasks[t]? = some (.drain stage)) : s'.tasks[t]? = some (.drain stage) := by
  have cancelled : ∀ {i : TaskId} {submission : Submission} {before after : SubmitStage},
      s.tasks[i]? = some (.submit submission before) →
        (s.tasks.set i (.submit submission after))[t]? = some (.drain stage) := by
    intro i submission before after hi
    rw [getElem?_of_set_ne rfl, here]
    rintro rfl
    simp [here] at hi
  cases move with
  | submit | drain => exact getElem?_of_append rfl here
  | cancelNew hi => exact cancelled hi
  | cancelWaiting hi => exact cancelled hi
  | cancelGranted hi => exact cancelled hi
  | passCreate => exact drain_grantNext _ here
  | passFinalize => exact drain_grantNext _ here
  | passGate => exact drain_grantNext _ here
  | openGates => exact drain_grants _ here
  | behave | setCreateMode | setFinalizeMode | setCreatePassage | setFinalizePassage | createDirectly
  | finalizeDirectly => exact here

theorem drain_apply {s : State σ} {t : TaskId} {stage : DrainStage} (stimulus : Stimulus)
    (here : s.tasks[t]? = some (.drain stage)) :
    (s.apply stimulus).tasks[t]? = some (.drain stage) := by
  have chain := outside_apply s stimulus
  generalize s.apply stimulus = s' at chain ⊢
  induction chain with
  | refl => exact here
  | tail _ last ih => exact last.drain_eq ih

/-- A drain ends in a poll of its own, which has found nothing in flight. -/
theorem Follows.drain_over {s s' : State σ} {t : TaskId} {stage : DrainStage}
    (next : Follows s s') (here : s.tasks[t]? = some (.drain stage)) (running : stage ≠ .done)
    (ended : s'.tasks[t]? = some (.drain .done)) :
    s.ready.head? = some t ∧ s'.finished = s.finished ++ [t] ∧ s'.admission.inFlight = 0 := by
  have same : ∀ {task : Task}, s'.tasks[t]? = some task → task = .drain .done :=
    fun hi => Option.some.inj (hi.symm.trans ended)
  cases next with
  | event stimulus =>
    obtain rfl : stage = .done := by simpa using same (drain_apply stimulus here)
    exact absurd rfl running
  | poll step =>
    obtain ⟨first, rest, ready, rfl⟩ := State.poll_of_step? step
    by_cases hfirst : t = first
    · subst hfirst
      have polled : ({ s with ready := rest }.poll t) = { s with ready := rest }.checkIdle t := by
        cases stage with
        | new | waiting => simp [State.poll, here]
        | done => exact absurd rfl running
      rw [polled] at ended ⊢
      unfold State.checkIdle at ended ⊢
      split at ended
      · rename_i idle
        rw [if_pos idle]
        exact ⟨by rw [ready]; rfl, rfl, idle⟩
      · have waiting : (s.tasks.set t (.drain .waiting))[t]? = some (.drain .waiting) :=
          getElem?_of_set_self rfl here
        have : Task.drain .waiting = .drain .done :=
          Option.some.inj (waiting.symm.trans ended)
        simp at this
    · have kept := (polled_poll { s with ready := rest } first).other hfirst here
      obtain rfl : stage = .done := by simpa using same kept
      exact absurd rfl running

/-! ## Every run -/

variable {capacity : UInt64} {table : LabelTable} {store : σ} {surroundings : Surroundings}
  {freshIds : Nat → PredictionId} {s : State σ}

/-- A drain ends only in a poll of its own, with nothing in flight and as many admissions given back
as were taken, those taken while it waited among them. At rest a drain that is not over waits, and
then something is in flight. -/
theorem drains_end_when_idle
    (h : Reachable (State.start capacity table store surroundings freshIds) s) :
    (∀ s' t stage, Follows s s' → s.tasks[t]? = some (.drain stage) → stage ≠ .done →
      s'.tasks[t]? = some (.drain .done) →
        s.ready.head? = some t ∧ s'.finished = s.finished ++ [t] ∧
          s'.admission.inFlight = 0 ∧ s'.admission.claimed = [] ∧ s'.live = [] ∧
            s'.turns true = s'.turns false) ∧
      (s.AtRest → ∀ t stage, s.tasks[t]? = some (.drain stage) → stage ≠ .done →
        stage = .waiting ∧ t ∈ s.drains ∧ 0 < s.admission.inFlight ∧ s.live ≠ []) := by
  constructor
  · intro s' t stage next here running ended
    obtain ⟨head, finished, idle⟩ := next.drain_over here running ended
    exact ⟨head, finished, idle, (accounted_of_reachable (h.follow next)).released_of_idle idle⟩
  · intro rest t stage here running
    have acc := accounted_of_reachable h
    have alert := alert_of_reachable (alert_start capacity table store surroundings freshIds) h
    obtain ⟨waiting, mem⟩ := alert.drain_waits rest here running
    have busy := engaged_of_reachable h (List.ne_nil_of_mem mem)
    refine ⟨waiting, mem, ?_, ?_⟩
    · exact UInt64.pos_iff_ne_zero.2 busy
    · intro none_live
      have counted := acc.sound.counted.trans acc.perm_live.length_eq
      rw [none_live] at counted
      exact busy (UInt64.toNat_inj.1 counted)

/-- A resource is submitted, and a drain begins. -/
def Sample.drained (isOpen : Bool) (n : Nat) : State MemoryStore :=
  (((start isOpen).apply (.submit submission)).apply .drain).polls n

theorem drains_end_when_idle_sample :
    (Sample.drained true 3).ready = [1] ∧ (Sample.drained true 3).live = [] ∧
      (Sample.drained true 4).admission.claimed = [] ∧
      (Sample.drained false 3).AtRest ∧ 0 < (Sample.drained false 3).admission.inFlight := by
  have reached : ∀ isOpen n, Reachable (Sample.start isOpen) (Sample.drained isOpen n) :=
    fun isOpen n => ((Reachable.start.event _).event _).polls n
  have ended := (drains_end_when_idle (reached true 3)).1 (Sample.drained true 4) 1 .waiting
    (.poll rfl) rfl nofun rfl
  have waits := (drains_end_when_idle (reached false 3)).2 rfl 1 .waiting rfl nofun
  exact ⟨rfl, rfl, ended.2.2.2.1, rfl, waits.2.2.1⟩

end Moves

end Predictor.Engine
