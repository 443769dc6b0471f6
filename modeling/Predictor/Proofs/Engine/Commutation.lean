import Predictor.Proofs.Engine.Completion
import Predictor.Proofs.Store.Independence
import Predictor.Proofs.Telemetry.Totals

/-!
Completions of different resources commute. Two units of work that are let through, each until the
engine is at rest again, lead to the same state in either order, up to times, to the order of what was
logged and measured, and to the order in which gates were met (`completions_commute`): outcomes for
two records do not touch each other, a counter is counted down twice, and as long as one of the units
is in flight the drains look in vain.
-/

namespace Predictor

namespace Engine

open Telemetry

/-! ## Agreement -/

/-- Two states that differ at most in times, in the order of what was logged and measured, and in
gates. -/
structure State.Agrees (s s' : State MemoryStore) : Prop where
  records : s.store.records.map Prediction.untimed = s'.store.records.map Prediction.untimed
  admission : s.admission = s'.admission
  tasks : s.tasks = s'.tasks
  ready : s.ready = s'.ready
  drains : s.drains = s'.drains
  finished : s.finished = s'.finished
  calls : s.calls = s'.calls
  deeds : s.deeds.Perm s'.deeds
  events : s.events.Perm s'.events
  measured : s.measured.Perm s'.measured

namespace State.Agrees

variable {s s' : State MemoryStore}

theorem refl (s : State MemoryStore) : s.Agrees s :=
  ⟨rfl, rfl, rfl, rfl, rfl, rfl, rfl, .rfl, .rfl, .rfl⟩

theorem symm (h : s.Agrees s') : s'.Agrees s :=
  ⟨h.records.symm, h.admission.symm, h.tasks.symm, h.ready.symm, h.drains.symm, h.finished.symm,
    h.calls.symm, h.deeds.symm, h.events.symm, h.measured.symm⟩

theorem withGates (h : s.Agrees s') (gates gates' : Gates) :
    (s.withGates gates).Agrees (s'.withGates gates') :=
  ⟨h.records, h.admission, h.tasks, h.ready, h.drains, h.finished, h.calls, h.deeds, h.events,
    h.measured⟩

/-- A drain looks in both states. -/
theorem poll {d : TaskId} {stage : DrainStage} (h : s.Agrees s')
    (here : s.tasks[d]? = some (.drain stage)) : (s.poll d).Agrees (s'.poll d) := by
  have here' : s'.tasks[d]? = some (.drain stage) := h.tasks ▸ here
  by_cases ended : stage = .done
  · subst ended
    rw [poll_over here, poll_over here']
    exact h
  · rw [poll_running here ended, poll_running here' ended]
    unfold State.checkIdle
    rw [h.admission]
    split
    · exact { h with
        tasks := congrArg (fun tasks => tasks.set d (.drain .done)) h.tasks
        finished := congrArg (· ++ [d]) h.finished }
    · exact { h with
        tasks := congrArg (fun tasks => tasks.set d (.drain .waiting)) h.tasks
        drains := congrArg (· ++ [d]) h.drains }

/-- Drains look in both states, one after the other. -/
theorem looks {drains : List TaskId} (h : s.Agrees s')
    (waits : ∀ d ∈ drains, ∃ stage, s.tasks[d]? = some (.drain stage)) :
    (drains.foldl State.poll s).Agrees (drains.foldl State.poll s') := by
  induction drains generalizing s s' with
  | nil => exact h
  | cons d rest ih =>
    obtain ⟨stage, here⟩ := waits d List.mem_cons_self
    refine ih (h.poll here) fun i hi => ?_
    obtain ⟨other, there⟩ := waits i (List.mem_cons_of_mem d hi)
    exact drain_poll here there

/-- The instruments show the same. -/
theorem readings (h : s.Agrees s') : (readings s.measured).Perm (readings s'.measured) :=
  readings_perm h.measured

end State.Agrees

/-! ## Two completions -/

/-- Gates of different resources are passed independently. -/
theorem Gates.admitOne_other {g g' : Gates} {resource other : String} {next : Option TaskId}
    (pass : g.admitOne resource = (next, g')) (ne : other ≠ resource) :
    (g'.admitOne other).1 = (g.admitOne other).1 := by
  unfold admitOne at pass ⊢
  split at pass
  · obtain ⟨-, rfl⟩ := Prod.mk.inj pass
    rfl
  · obtain ⟨-, rfl⟩ := Prod.mk.inj pass
    rename_i shut
    simp only [put, shut]
    have same := permits_put g resource other (g.permits resource).add.2
    rw [if_neg ne] at same
    simp only [Bool.false_eq_true, if_false]
    exact congrArg (fun p => p.add.1) same

theorem Admission.release_comm (a : Admission) (resource other : String) :
    (a.release resource).release other = (a.release other).release resource := by
  simp only [release, count, List.erase_comm]

section Looks

variable {σ : Type} [PredictionStore σ]

/-- While something is in flight, drains that look go on to wait. -/
theorem looks_busy {s : State σ} {ds : List TaskId} (busy : s.admission.inFlight ≠ 0)
    (waits : ∀ d ∈ ds, s.tasks[d]? = some (.drain .waiting)) :
    ds.foldl State.poll s = { s with drains := s.drains ++ ds } := by
  induction ds generalizing s with
  | nil => simp
  | cons d rest ih =>
    have here := waits d List.mem_cons_self
    have looked : s.poll d = { s with drains := s.drains ++ [d] } := by
      rw [poll_running here nofun, State.checkIdle, if_neg busy]
      simp only [State.setTask, set_same here]
    have later := ih (s := { s with drains := s.drains ++ [d] }) busy
      fun i hi => waits i (List.mem_cons_of_mem d hi)
    rw [List.foldl_cons, looked, later]
    simp only [List.append_assoc, List.singleton_append]

end Looks

section Upshots

variable {s : State MemoryStore}

/-- What comes of a unit of work either does not involve the store, or it is what the store answers to
the finalization call. -/
theorem upshot_cases (s : State MemoryStore) (w : Work) :
    (∃ fate : Fate, ∀ store : MemoryStore, State.upshot { s with store } w = (fate, store)) ∨
      ∃ (answer : Answer) (outcome : Outcome), ∀ store : MemoryStore, State.upshot { s with store } w =
        (.ofReply answer (some (store.finalize w.id outcome).1),
          (store.finalize w.id outcome).2) := by
  cases heard : s.answerTo w with
  | none =>
    have heard' (store : MemoryStore) : State.answerTo { s with store } w = none := heard
    exact .inl ⟨.classifyPanicked, fun store => by rw [State.upshot, heard']⟩
  | some answer =>
    have heard' (store : MemoryStore) : State.answerTo { s with store } w = some answer := heard
    have upshot (store : MemoryStore) : State.upshot { s with store } w =
        (.ofReply answer (State.replyTo { s with store } w (answer.outcome s.table)).1,
          (State.replyTo { s with store } w (answer.outcome s.table)).2) := by
      rw [State.upshot, heard']
    simp only [upshot, State.replyTo]
    cases s.surroundings.finalizeMode with
    | fail => exact .inl ⟨_, fun store => rfl⟩
    | panic => exact .inl ⟨_, fun store => rfl⟩
    | ok => exact .inr ⟨answer, answer.outcome s.table, fun store => rfl⟩
    | hold => exact .inr ⟨answer, answer.outcome s.table, fun store => rfl⟩

variable {w v : Work}

/-- How a unit of work ends does not depend on another unit that has ended before. -/
theorem upshot_other (ne : v.id ≠ w.id) :
    (State.upshot { s with store := (s.upshot w).2 } v).1 = (s.upshot v).1 := by
  have here := upshot_cases s v
  rcases here with ⟨fate, same⟩ | ⟨answer, outcome, replied⟩
  · rw [same, same s.store]
  · rw [replied, replied s.store]
    refine congrArg (fun result => Fate.ofReply answer (some result)) ?_
    rcases upshot_cases s w with ⟨fate, same⟩ | ⟨answer', outcome', replied'⟩
    · rw [same s.store]
    · rw [replied' s.store]
      exact MemoryStore.finalize_result_eq (MemoryStore.find?_finalize_other ne outcome') outcome

/-- Two units of work leave the same records in either order. -/
theorem upshot_comm (distinct : s.store.ids.Nodup) (ne : v.id ≠ w.id) :
    (State.upshot { s with store := (s.upshot w).2 } v).2.records.map Prediction.untimed =
      (State.upshot { s with store := (s.upshot v).2 } w).2.records.map Prediction.untimed := by
  rcases upshot_cases s v with ⟨fate, same⟩ | ⟨answer, outcome, replied⟩
  · have own : s.upshot v = (fate, s.store) := same s.store
    rw [own, same]
  · have own : s.upshot v = _ := replied s.store
    rcases upshot_cases s w with ⟨fate', same'⟩ | ⟨answer', outcome', replied'⟩
    · have before : s.upshot w = (fate', s.store) := same' s.store
      rw [own, before, replied, same']
    · have before : s.upshot w = _ := replied' s.store
      rw [own, before, replied, replied']
      exact MemoryStore.finalize_comm distinct (Ne.symm ne) outcome' outcome

end Upshots

section Two

variable {s : State MemoryStore} {t u : TaskId} {w v : Work}

/-- Unit of work `t` has run to its end, and the drains go on to wait. -/
def State.passed (s : State MemoryStore) (gates : Gates) (t : TaskId) (w : Work) (fate : Fate)
    (store : MemoryStore) : State MemoryStore :=
  { (s.withGates gates).concluded t w fate store with ready := [], drains := s.drains }

/-- A completion, while something else is in flight. -/
theorem completed_busy (parked : Parked s)
    (here : s.tasks[t]? = some (.work w (.classifying false)))
    (busy : (s.admission.release w.resource).inFlight ≠ 0) (gates : Gates) :
    (s.withGates gates).completed t w = s.passed gates t w (s.upshot w).1 (s.upshot w).2 :=
  looks_busy busy (Parked.concluded (s := s.withGates gates) parked here (s.upshot w).1 (s.upshot w).2)

theorem perm_append_swap {α : Type} (front own other : List α) :
    (front ++ own ++ other).Perm (front ++ other ++ own) := by
  rw [List.append_assoc, List.append_assoc]
  exact List.perm_append_comm.append_left front

/-- The ends of two units of work, in either order. -/
theorem concluded_comm (ne : t ≠ u) {fate other : Fate} {store store' after after' : MemoryStore}
    (records : after.records.map Prediction.untimed = after'.records.map Prediction.untimed)
    (g h g' h' : Gates) :
    State.Agrees
      { ((s.passed g t w fate store).withGates h).concluded u v other after with ready := [] }
      { ((s.passed g' u v other store').withGates h').concluded t w fate after' with ready := [] } where
  records := records
  admission := Admission.release_comm ..
  tasks := List.set_comm _ _ ne
  ready := rfl
  drains := rfl
  finished := rfl
  calls := rfl
  deeds := perm_append_swap ..
  events := perm_append_swap ..
  measured := perm_append_swap ..

/-- Two completions lead to states that agree, whatever gates have been passed for them. -/
theorem completed_comm (parked : Parked s) (distinct : s.store.ids.Nodup)
    (here : s.tasks[t]? = some (.work w (.classifying false)))
    (there : s.tasks[u]? = some (.work v (.classifying false))) (ne : t ≠ u) (apart : v.id ≠ w.id)
    (busy : (s.admission.release w.resource).inFlight ≠ 0)
    (busy' : (s.admission.release v.resource).inFlight ≠ 0) (g h g' h' : Gates) :
    ((((s.withGates g).completed t w).withGates h).completed u v).Agrees
      ((((s.withGates g').completed u v).withGates h').completed t w) := by
  let first := s.passed g t w (s.upshot w).1 (s.upshot w).2
  let first' := s.passed g' u v (s.upshot v).1 (s.upshot v).2
  have second : ((first.withGates h).upshot v).1 = (s.upshot v).1 :=
    upshot_other (s := s) (w := w) apart
  have second' : ((first'.withGates h').upshot w).1 = (s.upshot w).1 :=
    upshot_other (s := s) (w := v) (Ne.symm apart)
  have records : ((first.withGates h).upshot v).2.records.map Prediction.untimed =
      ((first'.withGates h').upshot w).2.records.map Prediction.untimed :=
    upshot_comm (s := s) distinct apart
  rw [completed_busy parked here busy, completed_busy parked there busy']
  show (s.drains.foldl State.poll _).Agrees (s.drains.foldl State.poll _)
  rw [second, second']
  refine (concluded_comm ne records g h g' h').looks fun d hd => ⟨.waiting, ?_⟩
  have own := parked.concluded here (s.upshot w).1 (s.upshot w).2 d hd
  have hdu : d ≠ u := by
    rintro rfl
    simp [parked d hd] at there
  exact (getElem?_of_set_ne rfl hdu).trans own

/-- Which gates were met before does not show. -/
theorem completed_withGates (parked : Parked s)
    (here : s.tasks[t]? = some (.work w (.classifying false))) (g g' : Gates) :
    ((s.withGates g).completed t w).Agrees ((s.withGates g').completed t w) := by
  have base : State.Agrees
      { (s.withGates g).concluded t w (s.upshot w).1 (s.upshot w).2 with ready := [] }
      { (s.withGates g').concluded t w (s.upshot w).1 (s.upshot w).2 with ready := [] } :=
    ⟨rfl, rfl, rfl, rfl, rfl, rfl, rfl, .rfl, .rfl, .rfl⟩
  exact base.looks fun d hd =>
    ⟨.waiting, parked.concluded here (s.upshot w).1 (s.upshot w).2 d hd⟩

end Two

/-! ## Two resources -/

section Resources

variable {s : State MemoryStore} {a b : String}

/-- A call that is let through changes the gates, and ends at most the admission of its resource. -/
theorem State.Calm.respond_frame (calm : s.Calm) (resource : String) :
    (s.respond (.passGate resource)).surroundings =
        { s.surroundings with gates := (s.surroundings.gates.admitOne resource).2 } ∧
      ((s.respond (.passGate resource)).admission = s.admission ∨
        (s.respond (.passGate resource)).admission = s.admission.release resource) := by
  obtain ⟨rest, lined, parked, prompt⟩ := calm
  cases pass : (s.surroundings.gates.admitOne resource).1 with
  | none =>
    rw [respond_passGate_none rest pass]
    exact ⟨rfl, .inl rfl⟩
  | some t =>
    obtain ⟨w, here, rfl⟩ := lined.classifying pass
    rw [respond_passGate_some rest parked prompt here pass]
    have frame := looked_completed parked here (s.surroundings.gates.admitOne w.resource).2
    exact ⟨frame.surroundings, .inr frame.admission⟩

/-- The other resource stays in flight, if it is. -/
theorem State.Calm.isClaimed_respond (calm : s.Calm) (ne : a ≠ b) :
    (s.respond (.passGate a)).admission.isClaimed b = s.admission.isClaimed b := by
  rcases (calm.respond_frame a).2 with same | released
  · rw [same]
  · rw [released]
    show (s.admission.claimed.erase a).contains b = s.admission.claimed.contains b
    rw [Bool.eq_iff_iff, List.contains_iff_mem, List.contains_iff_mem]
    exact List.mem_erase_of_ne ne.symm

/-- Whoever waits at the other gate is still the first there. -/
theorem State.Calm.admitOne_respond (calm : s.Calm) (ne : a ≠ b) :
    ((s.respond (.passGate a)).surroundings.gates.admitOne b).1 =
      (s.surroundings.gates.admitOne b).1 := by
  rw [(calm.respond_frame a).1]
  exact Gates.admitOne_other rfl ne.symm

/-- When nobody waits at one of the gates, only the call at the other one goes on. -/
theorem State.Calm.agree_of_idle (calm : s.Calm) (calm_a : (s.respond (.passGate a)).Calm)
    (calm_b : (s.respond (.passGate b)).Calm) (ne : a ≠ b)
    (idle : (s.surroundings.gates.admitOne b).1 = none) :
    ((s.respond (.passGate a)).respond (.passGate b)).Agrees
      ((s.respond (.passGate b)).respond (.passGate a)) := by
  have idle_then := (calm.admitOne_respond ne).trans idle
  have next := calm.admitOne_respond ne.symm
  rw [respond_passGate_none calm_a.rest idle_then]
  rw [respond_passGate_none calm.rest idle] at next calm_b ⊢
  cases pass : (s.surroundings.gates.admitOne a).1 with
  | none =>
    rw [respond_passGate_none calm.rest pass,
      respond_passGate_none calm_b.rest (next.trans pass)]
    exact ((State.Agrees.refl s).withGates _ _).withGates _ _
  | some t =>
    obtain ⟨w, here, -⟩ := calm.lined.classifying pass
    rw [respond_passGate_some calm.rest calm.parked calm.prompt here pass,
      respond_passGate_some calm_b.rest calm_b.parked calm_b.prompt here (next.trans pass)]
    exact (completed_withGates calm.parked here _ _).withGates _ _

/-- A release leaves something in flight, if another resource is claimed. -/
theorem Admission.Sound.busy {admission : Admission} (h : admission.Sound)
    (own : a ∈ admission.claimed) (other : b ∈ admission.claimed) (ne : a ≠ b) :
    (admission.release a).inFlight ≠ 0 := by
  have kept : b ∈ (admission.release a).claimed := (List.mem_erase_of_ne ne.symm).2 other
  have counted := (h.release own).counted
  have positive := List.length_pos_of_mem kept
  intro zero
  rw [zero] at counted
  have none : (0 : UInt64).toNat = 0 := rfl
  omega

/-- When somebody waits at both gates, both units of work run to their ends. -/
theorem State.Calm.agree_of_waiting {t u : TaskId} {w v : Work} (calm : s.Calm)
    (calm_a : (s.respond (.passGate w.resource)).Calm)
    (calm_b : (s.respond (.passGate v.resource)).Calm) (filed : Filed s) (intake : Intake s)
    (accounted : Accounted s) (here : s.tasks[t]? = some (.work w (.classifying false)))
    (there : s.tasks[u]? = some (.work v (.classifying false)))
    (pass : (s.surroundings.gates.admitOne w.resource).1 = some t)
    (pass' : (s.surroundings.gates.admitOne v.resource).1 = some u)
    (ne : w.resource ≠ v.resource) :
    ((s.respond (.passGate w.resource)).respond (.passGate v.resource)).Agrees
      ((s.respond (.passGate v.resource)).respond (.passGate w.resource)) := by
  have tasks_apart : t ≠ u := by
    rintro rfl
    obtain ⟨rfl, -⟩ := Task.work.inj (Option.some.inj (here.symm.trans there))
    exact ne rfl
  have ids_apart : v.id ≠ w.id := by
    intro same
    obtain ⟨record, found, about⟩ := filed.find?_unit intake here
    obtain ⟨record', found', about'⟩ := filed.find?_unit intake there
    rw [same, found] at found'
    obtain rfl := Option.some.inj found'
    exact ne (about.symm.trans about')
  have claimed : w.resource ∈ s.admission.claimed := (accounted.claims _).2 ⟨t, _, here, rfl⟩
  have claimed' : v.resource ∈ s.admission.claimed := (accounted.claims _).2 ⟨u, _, there, rfl⟩
  have busy := accounted.sound.busy claimed claimed' ne
  have busy' := accounted.sound.busy claimed' claimed ne.symm
  have next := (calm.admitOne_respond ne).trans pass'
  have next' := (calm.admitOne_respond ne.symm).trans pass
  have first := respond_passGate_some calm.rest calm.parked calm.prompt here pass
  have first' := respond_passGate_some calm.rest calm.parked calm.prompt there pass'
  have there_then : (s.respond (.passGate w.resource)).tasks[u]? =
      some (.work v (.classifying false)) := by
    rw [first, completed_busy calm.parked here busy]
    exact (getElem?_of_set_ne rfl tasks_apart.symm).trans there
  have here_then : (s.respond (.passGate v.resource)).tasks[t]? =
      some (.work w (.classifying false)) := by
    rw [first', completed_busy calm.parked there busy']
    exact (getElem?_of_set_ne rfl tasks_apart).trans here
  rw [respond_passGate_some calm_a.rest calm_a.parked calm_a.prompt there_then next,
    respond_passGate_some calm_b.rest calm_b.parked calm_b.prompt here_then next', first, first']
  exact completed_comm calm.parked filed.sound.distinct here there tasks_apart ids_apart busy busy'
    _ _ _ _

variable {capacity : UInt64} {table : LabelTable} {supplies : Supplies} {usual : Behaviour}
  {isOpen : Bool} {freshIds : Nat → PredictionId}

theorem calm_respond
    (h : Reachable (.start capacity table (.empty supplies) (.start usual isOpen) freshIds) s)
    (calm : s.Calm) (resource : String) : (s.respond (.passGate resource)).Calm := by
  refine calm_of_reachable (h.event _).settle (State.settle_atRest _) ?_
  rw [(calm.respond_frame resource).1]
  exact calm.prompt

/-- Calls for two resources that are let through one after the other, each until the engine is at rest,
lead to states that agree, in either order: the same records up to times, the same admissions, ends of
submissions and drains, and values of the instruments. In between the other resource is in flight if
it was before. -/
theorem completions_commute
    (h : Reachable (.start capacity table (.empty supplies) (.start usual isOpen) freshIds) s)
    (rest : s.AtRest) (unique : s.store.Unique) (prompt : s.surroundings.finalizeMode ≠ .hold)
    (ne : a ≠ b) :
    ((s.respond (.passGate a)).respond (.passGate b)).Agrees
        ((s.respond (.passGate b)).respond (.passGate a)) ∧
      (readings ((s.respond (.passGate a)).respond (.passGate b)).measured).Perm
        (readings ((s.respond (.passGate b)).respond (.passGate a)).measured) ∧
      (s.respond (.passGate a)).admission.isClaimed b = s.admission.isClaimed b ∧
      (s.respond (.passGate b)).admission.isClaimed a = s.admission.isClaimed a := by
  have calm := calm_of_reachable h rest prompt
  have calm_a := calm_respond h calm a
  have calm_b := calm_respond h calm b
  have agree : ((s.respond (.passGate a)).respond (.passGate b)).Agrees
      ((s.respond (.passGate b)).respond (.passGate a)) := by
    cases pass_b : (s.surroundings.gates.admitOne b).1 with
    | none => exact calm.agree_of_idle calm_a calm_b ne pass_b
    | some u =>
      cases pass_a : (s.surroundings.gates.admitOne a).1 with
      | none => exact (calm.agree_of_idle calm_b calm_a ne.symm pass_a).symm
      | some t =>
        obtain ⟨w, here, about⟩ := calm.lined.classifying pass_a
        obtain ⟨v, there, about'⟩ := calm.lined.classifying pass_b
        subst about about'
        exact calm.agree_of_waiting calm_a calm_b
          (filed_of_reachable h unique) (intake_of_reachable h) (accounted_of_reachable h) here there pass_a pass_b ne
  exact ⟨agree, agree.readings, calm.isClaimed_respond ne, calm.isClaimed_respond ne.symm⟩

/-- Two units of work wait at their gates, and a drain for both of them. -/
def Sample.waiting : State MemoryStore :=
  (((start false).apply (.submitAll [submission, ⟨⟨none, []⟩, "owner", "page.png"⟩])).apply
    .drain).polls 5

theorem completions_commute_sample :
    Sample.waiting.live = ["scan.png", "page.png"] ∧ Sample.waiting.drains = [2] ∧
      ((Sample.waiting.respond (.passGate "scan.png")).respond (.passGate "page.png")).Agrees
        ((Sample.waiting.respond (.passGate "page.png")).respond (.passGate "scan.png")) ∧
      (Sample.waiting.respond (.passGate "scan.png")).admission.isClaimed "page.png" = true := by
  have reached : Reachable (Sample.start false) Sample.waiting :=
    ((Reachable.start.event _).event _).polls 5
  have commuted := completions_commute reached rfl (by decide) (by decide)
    (show "scan.png" ≠ "page.png" by decide)
  exact ⟨rfl, rfl, commuted.1, commuted.2.2.1.trans rfl⟩

end Resources

end Engine

end Predictor
