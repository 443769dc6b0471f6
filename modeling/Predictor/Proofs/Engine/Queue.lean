import Mathlib.Data.List.Perm.Subperm
import Predictor.Proofs.Engine.Growth

/-!
Who stands in the ready queue. A task stands there once at most, and then neither among the drains
that wait nor in a line before an unanswered call (`WellQueued`); so the queue and the waiting drains
together are no longer than the list of tasks.
-/

namespace Predictor.Engine

variable {σ : Type}

/-! ## Gates -/

namespace Gates

/-- No resource has two gates. -/
def Distinct (g : Gates) : Prop := (g.gates.map Prod.fst).Nodup

theorem Distinct.put {g : Gates} (h : g.Distinct) (resource : String) (p : Permits) :
    (g.put resource p).Distinct := by
  refine List.nodup_cons.2 ⟨?_, h.sublist (List.filter_sublist.map _)⟩
  simp [List.mem_map, List.mem_filter]

theorem Distinct.enter {g g' : Gates} {resource : String} {t : TaskId} {through : Bool}
    (hg : g.Distinct) (h : g.enter resource t = (through, g')) : g'.Distinct := by
  rcases enter_cases h with ⟨-, rfl⟩ | ⟨p, -, rfl⟩
  · exact hg
  · exact hg.put resource p

theorem Distinct.admitOne {g g' : Gates} {resource : String} {t : Option TaskId}
    (hg : g.Distinct) (h : g.admitOne resource = (t, g')) : g'.Distinct := by
  rcases admitOne_cases h with ⟨-, rfl⟩ | ⟨-, rfl⟩
  · exact hg
  · exact hg.put resource _

end Gates

/-- Those who are let through when all gates open are each let through once. -/
theorem Lined.nodup_openAll {s : State σ} (lined : Lined s)
    (distinct : s.surroundings.gates.Distinct) : s.surroundings.gates.openAll.1.Nodup := by
  have same : s.surroundings.gates.openAll.1.Perm
      (s.surroundings.gates.gates.flatMap fun gate => gate.2.waiting) :=
    (List.mergeSort_perm _ _).flatMap_right _
  have line : ∀ gate ∈ s.surroundings.gates.gates,
      gate.2.waiting = s.surroundings.line (.gate gate.1) := fun gate mem =>
    congrArg Permits.waiting (lined.single gate mem).symm
  rw [same.nodup_iff, List.nodup_flatMap]
  constructor
  · intro gate mem
    rw [line gate mem]
    exact lined.once (.gate gate.1)
  · refine (List.pairwise_map.1 distinct).imp_of_mem fun {a b} ha hb other i hia hib =>
      other (Line.gate.inj (lined.line_eq (t := i) ?_ ?_))
    · rw [← line a ha]
      exact hia
    · rw [← line b hb]
      exact hib

/-! ## The queue -/

/-- The tasks of `queue` are to be polled; while a task is polled, it is the first of them. -/
structure WellQueued (queue : List TaskId) (s : State σ) : Prop where
  once : (queue ++ s.drains).Nodup
  idle : ∀ t ∈ queue ++ s.drains, ∃ task, s.tasks[t]? = some task ∧ task.line? = none
  drains : ∀ t ∈ s.drains, s.tasks[t]? = some (.drain .waiting)
  gates : s.surroundings.gates.Distinct

theorem wellQueued_start (capacity : UInt64) (table : LabelTable) (store : σ) (usual : Behaviour)
    (isOpen : Bool) (freshIds : Nat → PredictionId) :
    WellQueued [] (State.start capacity table store (.start usual isOpen) freshIds) where
  once := List.nodup_nil
  idle := by simp [State.start]
  drains := by simp [State.start]
  gates := List.nodup_nil

section Changes

variable {s s' : State σ} {t : TaskId} {new : Task} {queue : List TaskId}

theorem WellQueued.lt (h : WellQueued queue s) (mem : t ∈ queue ++ s.drains) : t < s.tasks.length := by
  obtain ⟨task, here, -⟩ := h.idle t mem
  exact (List.getElem?_eq_some_iff.1 here).1

/-- Whoever is to be polled does not wait for a release. -/
theorem WellQueued.not_mem_drains (h : WellQueued queue s) (mem : t ∈ queue) : t ∉ s.drains :=
  fun waiting => List.disjoint_of_nodup_append h.once mem waiting

/-- The queue and the waiting drains are all different tasks. -/
theorem WellQueued.length_le (h : WellQueued queue s) :
    queue.length + s.drains.length ≤ s.tasks.length := by
  have inside : queue ++ s.drains ⊆ List.range s.tasks.length :=
    fun i hi => List.mem_range.2 (h.lt hi)
  have le := (List.subperm_of_subset h.once inside).length_le
  rwa [List.length_append, List.length_range] at le

/-- What is told of the tasks holds as long as the tasks are the same. -/
theorem WellQueued.of_eq (h : WellQueued queue s) (tasks : s'.tasks = s.tasks)
    (drains : s'.drains = s.drains) (gates : s'.surroundings.gates.Distinct) : WellQueued queue s' where
  once := drains ▸ h.once
  idle := by
    rw [drains, tasks]
    exact h.idle
  drains := by
    rw [drains, tasks]
    exact h.drains
  gates := gates

/-- A task that does not wait for a release comes to another stage. -/
theorem WellQueued.set (h : WellQueued queue s) (tasks : s'.tasks = s.tasks.set t new)
    (away : t ∉ s.drains) (idle : t ∈ queue → new.line? = none) (drains : s'.drains = s.drains)
    (gates : s'.surroundings.gates.Distinct) : WellQueued queue s' := by
  refine ⟨drains ▸ h.once, fun i hi => ?_, fun i hi => ?_, gates⟩
  · rw [drains] at hi
    obtain ⟨old, here, calm⟩ := h.idle i hi
    by_cases hit : i = t
    · subst hit
      exact ⟨new, getElem?_of_set_self tasks here, idle ((List.mem_append.1 hi).resolve_right away)⟩
    · exact ⟨old, (getElem?_of_set_ne tasks hit).trans here, calm⟩
  · rw [drains] at hi
    rw [getElem?_of_set_ne tasks fun hit => away (hit ▸ hi)]
    exact h.drains i hi

/-- The first of the queue has been polled. -/
theorem WellQueued.tail (h : WellQueued (t :: queue) s) : WellQueued queue s where
  once := h.once.tail
  idle i hi := h.idle i (List.mem_cons_of_mem t hi)
  drains := h.drains
  gates := h.gates

theorem WellQueued.wake (h : WellQueued queue s) (tasks : s'.tasks = s.tasks) (drains : s'.drains = [])
    (gates : s'.surroundings.gates.Distinct) : WellQueued (queue ++ s.drains) s' where
  once := by
    rw [drains, List.append_nil]
    exact h.once
  idle := by
    rw [drains, List.append_nil, tasks]
    exact h.idle
  drains := by simp [drains]
  gates := gates

/-- A task is added behind all others. -/
theorem WellQueued.append (h : WellQueued queue s) (tasks : s'.tasks = s.tasks ++ [new])
    (idle : new.line? = none) (drains : s'.drains = s.drains)
    (gates : s'.surroundings.gates.Distinct) : WellQueued (queue ++ [s.tasks.length]) s' := by
  have places : (queue ++ [s.tasks.length] ++ s.drains).Perm
      (s.tasks.length :: (queue ++ s.drains)) := by
    rw [List.append_assoc]
    exact List.perm_middle
  refine ⟨?_, fun i hi => ?_, fun i hi => ?_, gates⟩
  · rw [drains, places.nodup_iff]
    exact List.nodup_cons.2 ⟨fun mem => Nat.lt_irrefl _ (h.lt mem), h.once⟩
  · rw [drains, places.mem_iff] at hi
    rcases List.mem_cons.1 hi with rfl | hi
    · exact ⟨new, getElem?_of_append_length tasks, idle⟩
    · obtain ⟨old, here, calm⟩ := h.idle i hi
      exact ⟨old, getElem?_of_append tasks here, calm⟩
  · rw [drains] at hi
    exact getElem?_of_append tasks (h.drains i hi)

/-- Those let through have stood in lines, and each of them once. -/
theorem WellQueued.grants {r : State σ} (h : WellQueued queue s) (through : List TaskId)
    (once : through.Nodup) (lines : ∀ i ∈ through, ∃ line, s.Awaits i line)
    (tasks : r.tasks = s.tasks) (drains : r.drains = s.drains)
    (gates : r.surroundings.gates.Distinct) :
    WellQueued (queue ++ through) (through.foldl State.grant r) := by
  have apart : ∀ i ∈ queue ++ s.drains, i ∉ through := by
    intro i hi hthrough
    obtain ⟨line, waits⟩ := lines i hthrough
    obtain ⟨task, here, calm⟩ := h.idle i hi
    rw [awaits_iff_of_some here, calm] at waits
    simp at waits
  have places : (queue ++ through ++ s.drains).Perm (through ++ (queue ++ s.drains)) := by
    rw [← List.append_assoc]
    exact List.perm_append_comm.append_right _
  refine ⟨?_, fun i hi => ?_, fun i hi => ?_, ?_⟩
  · rw [drains_grants, drains, places.nodup_iff]
    exact once.append h.once fun i hi hmem => apart i hmem hi
  · rw [drains_grants, drains, places.mem_iff] at hi
    rw [getElem?_grants, tasks]
    rcases List.mem_append.1 hi with hi | hi
    · obtain ⟨line, task, here, -⟩ := lines i hi
      exact ⟨task.grant, by rw [if_pos hi, here, Option.map_some], Task.line?_grant task⟩
    · rw [if_neg (apart i hi)]
      exact h.idle i hi
  · rw [drains_grants, drains] at hi
    rw [getElem?_grants, if_neg (apart i (List.mem_append_right _ hi)), tasks]
    exact h.drains i hi
  · rw [surroundings_grants]
    exact gates

/-- The first of a line, if there is one, is let through. -/
theorem WellQueued.grantNext {r : State σ} {next : Option TaskId} {rest : List TaskId}
    (h : WellQueued s.ready s) (lined : Lined s) (line : Line)
    (front : s.surroundings.line line = next.toList ++ rest) (tasks : r.tasks = s.tasks)
    (ready : r.ready = s.ready) (drains : r.drains = s.drains)
    (gates : r.surroundings.gates.Distinct) :
    WellQueued (r.grantNext next).ready (r.grantNext next) := by
  rw [grantNext_eq, ready_grants, ready]
  refine h.grants next.toList ?_ (fun i hi => ⟨line, ?_⟩) tasks drains gates
  · cases next with
    | none => exact List.nodup_nil
    | some i => exact List.nodup_singleton i
  · exact (lined.awaits line i).1 (front ▸ List.mem_append_left rest hi)

/-- The task that is polled stops, and nobody is woken. -/
theorem WellQueued.stops (h : WellQueued (t :: queue) s) (tasks : s'.tasks = s.tasks.set t new)
    (drains : s'.drains = s.drains) (gates : s'.surroundings.gates.Distinct) : WellQueued queue s' :=
  h.tail.set tasks (h.not_mem_drains List.mem_cons_self)
    (fun mem => absurd (List.mem_append_left _ mem) (List.nodup_cons.1 h.once).1) drains gates

/-- The task that is polled ends, and all drains are woken. -/
theorem WellQueued.ends (h : WellQueued (t :: queue) s) (tasks : s'.tasks = s.tasks.set t new)
    (drains : s'.drains = []) (gates : s'.surroundings.gates.Distinct) :
    WellQueued (queue ++ s.drains) s' := by
  have stopped : WellQueued queue { s with tasks := s'.tasks } := h.stops tasks rfl h.gates
  exact stopped.wake rfl drains gates

/-- The drain that is polled finds something in flight. -/
theorem WellQueued.waits (h : WellQueued (t :: queue) s) (tasks : s'.tasks = s.tasks.set t (.drain .waiting))
    (drains : s'.drains = s.drains ++ [t]) (gates : s'.surroundings.gates.Distinct) :
    WellQueued queue s' := by
  have places : (queue ++ (s.drains ++ [t])).Perm (t :: queue ++ s.drains) := by
    rw [← List.append_assoc, List.cons_append]
    exact List.perm_append_singleton _ _
  have away : t ∉ s.drains := h.not_mem_drains List.mem_cons_self
  obtain ⟨old, own, -⟩ := h.idle t List.mem_cons_self
  have here : s'.tasks[t]? = some (.drain .waiting) := getElem?_of_set_self tasks own
  refine ⟨?_, fun i hi => ?_, fun i hi => ?_, gates⟩
  · rw [drains, places.nodup_iff]
    exact h.once
  · rw [drains, places.mem_iff] at hi
    by_cases hit : i = t
    · exact ⟨_, hit ▸ here, rfl⟩
    · rw [getElem?_of_set_ne tasks hit]
      exact h.idle i hi
  · by_cases hit : i = t
    · exact hit ▸ here
    · rw [drains, List.mem_append, List.mem_singleton] at hi
      rw [getElem?_of_set_ne tasks hit]
      exact h.drains i (hi.resolve_right hit)

end Changes

/-! ## Every run -/

theorem WellQueued.advance {t : TaskId} {s s' : State σ} (h : WellQueued (t :: s.ready) s)
    (move : Advance t s s') : WellQueued (t :: s'.ready) s' := by
  have away : t ∉ s.drains := h.not_mem_drains List.mem_cons_self
  cases move with
  | occupy | answered => exact h.set rfl away (fun _ => rfl) rfl h.gates
  | unanswered =>
    rw [unanswered_eq]
    exact h.set rfl away (fun _ => rfl) rfl h.gates
  | createPermit | finalizePermit => exact h.of_eq rfl rfl h.gates
  | call here through => exact h.set rfl away (fun _ => rfl) rfl (h.gates.enter through)

section Moves

variable [PredictionStore σ]

theorem WellQueued.halt {t : TaskId} {s s' : State σ} (h : WellQueued (t :: s.ready) s)
    (move : Halt t s s') : WellQueued s'.ready s' := by
  cases move with
  | asleep => exact h.tail
  | unnamed | full | createHeld | finalizeHeld => exact h.stops rfl rfl h.gates
  | gateHeld here held => exact h.stops rfl rfl (h.gates.enter held)
  | duplicate | rolledBack | createPanicked | classifyPanicked | finalizePanicked | written
  | unwritten => exact h.ends rfl rfl h.gates
  | @launched submission record store =>
    have ended : WellQueued s.ready (s.endSubmit t submission (.returned (.ok record))) :=
      h.stops rfl rfl h.gates
    exact ended.append rfl rfl rfl h.gates
  | checked =>
    unfold State.checkIdle
    split
    · exact h.stops rfl rfl h.gates
    · exact h.waits rfl rfl h.gates

theorem Lined.polled {t : TaskId} {s s' : State σ} (h : Lined s) (poll : Polled t s s') :
    Lined s' := by
  induction poll with
  | halt last => exact h.halt last
  | advance first _ ih => exact ih (h.advance first)

theorem WellQueued.polled {t : TaskId} {s s' : State σ} (h : WellQueued (t :: s.ready) s)
    (poll : Polled t s s') : WellQueued s'.ready s' := by
  induction poll with
  | halt last => exact h.halt last
  | advance first _ ih => exact ih (h.advance first)

theorem WellQueued.outside {s s' : State σ} (h : WellQueued s.ready s) (lined : Lined s)
    (move : Outside s s') : WellQueued s'.ready s' := by
  have away : ∀ {t : TaskId} {submission : Submission} {stage : SubmitStage},
      s.tasks[t]? = some (.submit submission stage) → t ∉ s.drains := by
    intro t submission stage here mem
    have drain := (h.drains t mem).symm.trans here
    simp at drain
  cases move with
  | submit | drain => exact h.append rfl rfl rfl h.gates
  | cancelNew here => exact h.set rfl (away here) (fun _ => rfl) rfl h.gates
  | @cancelWaiting t submission here =>
    have ended : WellQueued s.ready (s.setTask t (.submit submission (.done .cancelled))) :=
      h.set rfl (away here) (fun _ => rfl) rfl h.gates
    exact ended.wake rfl rfl h.gates
  | @cancelGranted t submission here =>
    have ended : WellQueued s.ready (s.setTask t (.submit submission (.done .cancelled))) :=
      h.set rfl (away here) (fun _ => rfl) rfl h.gates
    exact ended.wake rfl rfl h.gates
  | passCreate =>
    exact h.grantNext lined .creations (Permits.waiting_eq_add _) rfl rfl rfl h.gates
  | passFinalize =>
    exact h.grantNext lined .finalizations (Permits.waiting_eq_add _) rfl rfl rfl h.gates
  | @passGate resource next gates pass =>
    have front := Gates.admitOne_waiting pass resource
    rw [if_pos rfl] at front
    exact h.grantNext lined (.gate resource) front rfl rfl rfl (h.gates.admitOne pass)
  | @openGates through gates pass =>
    have once := lined.nodup_openAll h.gates
    have all := Gates.mem_openAll lined.single
    have shut : gates.gates = [] := congrArg (fun found => found.2.gates) pass.symm
    rw [pass] at once all
    rw [ready_grants]
    refine h.grants through once (fun i hi => ?_) rfl rfl ?_
    · obtain ⟨resource, waits⟩ := (all i).1 hi
      exact ⟨.gate resource, (lined.awaits (.gate resource) i).1 waits⟩
    · show (gates.gates.map Prod.fst).Nodup
      rw [shut]
      exact List.nodup_nil
  | behave | setCreateMode | setFinalizeMode | setCreatePassage | setFinalizePassage | createDirectly
  | finalizeDirectly =>
    exact h.of_eq rfl rfl h.gates

/-- What polls and moves from outside keep holds in every reachable state. -/
theorem Reachable.of_polls {P : State σ → Prop} {initial s : State σ} (start : P initial)
    (outside : ∀ {r r' : State σ}, Outside r r' → P r → P r')
    (polled : ∀ {r : State σ} {t : TaskId} {rest : List TaskId}, r.ready = t :: rest → P r →
      P ({ r with ready := rest }.poll t))
    (h : Reachable initial s) : P s := by
  induction h with
  | start => exact start
  | @event r stimulus _ ih =>
    have chain := outside_apply r stimulus
    generalize r.apply stimulus = s' at chain
    induction chain with
    | refl => exact ih
    | tail _ last ih => exact outside last ih
  | @poll r s' _ step ih =>
    obtain ⟨t, rest, next, rfl⟩ := State.poll_of_step? step
    exact polled next ih

theorem wellQueued_of_reachable {capacity : UInt64} {table : LabelTable} {store : σ}
    {usual : Behaviour} {isOpen : Bool} {freshIds : Nat → PredictionId} {s : State σ}
    (h : Reachable (State.start capacity table store (.start usual isOpen) freshIds) s) :
    WellQueued s.ready s := by
  refine And.right <| h.of_polls (P := fun r => Lined r ∧ WellQueued r.ready r)
    ⟨lined_start .., wellQueued_start ..⟩
    (fun move both => ⟨both.1.outside move, both.2.outside both.1 move⟩)
    fun {r t rest} next both => ⟨?_, ?_⟩
  · have lined : Lined { r with ready := rest } := both.1.of_lines rfl (fun _ => rfl) both.1.single
    exact lined.polled (polled_poll _ t)
  · have queued : WellQueued (t :: rest) { r with ready := rest } :=
      (next ▸ both.2).of_eq rfl rfl both.2.gates
    exact queued.polled (polled_poll _ t)

end Moves

end Predictor.Engine
