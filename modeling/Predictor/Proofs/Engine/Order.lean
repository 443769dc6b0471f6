import Predictor.Proofs.Engine.Growth

/-!
Units of work call the classifier in the order in which they were started: those that have been
started are those that have called, and behind them those that still stand in the ready queue
(`InOrder`).
-/

namespace Predictor.Engine

variable {σ : Type}

/-! ## Units that have not called the classifier yet -/

/-- The unit of work that begins with the next poll of the task. -/
def Task.unstarted? : Task → Option Work
  | .work w .new => some w
  | _ => none

def State.unstarted? (s : State σ) (t : TaskId) : Option Work := s.tasks[t]?.bind Task.unstarted?

theorem Task.unstarted?_grant (task : Task) : task.grant.unstarted? = task.unstarted? := by
  rcases task with ⟨_, _ | _ | _⟩ | ⟨_, _ | _ | _ | _⟩ | _ <;> rfl

theorem Task.unstarted?_of_line {task : Task} {line : Line} (h : task.line? = some line) :
    task.unstarted? = none := by
  rcases task with ⟨_, _ | _ | _⟩ | ⟨_, _ | _ | _ | _⟩ | _ <;> first | rfl | simp [line?] at h

theorem Task.unstarted?_of_asleep {task : Task} (h : task.awake = false) :
    task.unstarted? = none := by
  rcases task with ⟨_, _ | _ | _⟩ | ⟨_, _ | _ | _ | _⟩ | _ <;> first | rfl | simp [awake] at h

theorem Task.unit?_of_origin {before after : Task} (h : after.origin = before.origin) :
    after.unit? = before.unit? := by
  have unit : ∀ task : Task, task.origin.unit? = task.unit? := by
    intro task
    cases task <;> rfl
  rw [← unit after, h, unit]

section Views

variable {s s' : State σ} {t i : TaskId} {old new : Task}

theorem unstarted?_of_some (here : s.tasks[t]? = some old) : s.unstarted? t = old.unstarted? := by
  rw [State.unstarted?, here, Option.bind_some]

theorem unstarted?_set_ne (tasks : s'.tasks = s.tasks.set t new) (hi : i ≠ t) :
    s'.unstarted? i = s.unstarted? i := by
  rw [State.unstarted?, getElem?_of_set_ne tasks hi, State.unstarted?]

theorem unstarted?_append (tasks : s'.tasks = s.tasks ++ [new]) (lt : i < s.tasks.length) :
    s'.unstarted? i = s.unstarted? i := by
  rw [State.unstarted?, tasks, List.getElem?_append_left lt, State.unstarted?]

theorem unstarted?_of_drain (h : s.origins[t]? = some (.drain .new)) : s.unstarted? t = none := by
  rw [State.origins, List.getElem?_map, Option.map_eq_some_iff] at h
  obtain ⟨task, here, origin⟩ := h
  rw [unstarted?_of_some here]
  cases task with
  | drain => rfl
  | submit | work => simp [Task.origin] at origin

theorem unstarted?_grants (through : List TaskId) (s : State σ) (i : TaskId) :
    (through.foldl State.grant s).unstarted? i = s.unstarted? i :=
  view_grants (f := (Option.bind · Task.unstarted?)) Task.unstarted?_grant through s i

end Views

/-! ## The order of the queue -/

structure InOrder (queue : List TaskId) (s : State σ) : Prop where
  order : s.spawned = s.calls ++ queue.filterMap s.unstarted?
  /-- Nobody who is to begin stands in the queue twice. -/
  once : (queue.filter fun t => (s.unstarted? t).isSome).Nodup
  drains : ∀ t ∈ s.drains, s.origins[t]? = some (.drain .new)
  bound : ∀ t ∈ queue, t < s.tasks.length

theorem inOrder_start (capacity : UInt64) (table : LabelTable) (store : σ)
    (surroundings : Surroundings) (freshIds : Nat → PredictionId) :
    InOrder [] (State.start capacity table store surroundings freshIds) where
  order := rfl
  once := List.nodup_nil
  drains := by simp [State.start]
  bound := by simp

section Changes

variable {s s' : State σ} {t : TaskId} {old new : Task} {queue woken : List TaskId}

/-- Nobody begins, and those who join the queue are not to begin. -/
theorem InOrder.extend (h : InOrder queue s) (same : ∀ i, s'.unstarted? i = s.unstarted? i)
    (idle : ∀ i ∈ woken, s.unstarted? i = none) (units : s'.spawned = s.spawned)
    (calls : s'.calls = s.calls) (drains : ∀ i ∈ s'.drains, s'.origins[i]? = some (.drain .new))
    (bound : ∀ i ∈ queue ++ woken, i < s'.tasks.length) : InOrder (queue ++ woken) s' := by
  have view : s'.unstarted? = s.unstarted? := funext same
  refine ⟨?_, ?_, drains, bound⟩
  · rw [units, calls, view, List.filterMap_append, List.filterMap_eq_nil_iff.2 idle,
      List.append_nil, h.order]
  · have none_woken : woken.filter (fun i => (s.unstarted? i).isSome) = [] :=
      List.filter_eq_nil_iff.2 fun i hi => by simp [idle i hi]
    rw [view, List.filter_append, none_woken, List.append_nil]
    exact h.once

/-- A task comes to another stage and is not to begin, before or after; drains are woken. -/
theorem InOrder.set (h : InOrder queue s) (here : s.tasks[t]? = some old)
    (tasks : s'.tasks = s.tasks.set t new) (same : new.origin = old.origin)
    (before : old.unstarted? = none) (after : new.unstarted? = none) (calls : s'.calls = s.calls)
    (asleep : ∀ i ∈ woken, i ∈ s.drains)
    (drains : ∀ i ∈ s'.drains, i ∈ s.drains ∨ s.origins[i]? = some (.drain .new)) :
    InOrder (queue ++ woken) s' := by
  refine h.extend (fun i => ?_) (fun i hi => unstarted?_of_drain (h.drains i (asleep i hi)))
    (spawned_set here tasks (Task.unit?_of_origin same)) calls (fun i hi => ?_) fun i hi => ?_
  · by_cases hit : i = t
    · subst hit
      rw [unstarted?_of_some (getElem?_of_set_self tasks here), after, unstarted?_of_some here,
        before]
    · exact unstarted?_set_ne tasks hit
  · rw [origins_set here tasks same]
    exact (drains i hi).elim (h.drains i) id
  · rw [tasks, List.length_set]
    rcases List.mem_append.1 hi with hi | hi
    · exact h.bound i hi
    · exact lt_of_origin (h.drains i (asleep i hi))

/-- A task comes to another stage, and nobody is woken. -/
theorem InOrder.moves (h : InOrder queue s) (here : s.tasks[t]? = some old)
    (tasks : s'.tasks = s.tasks.set t new) (same : new.origin = old.origin)
    (before : old.unstarted? = none) (after : new.unstarted? = none) (calls : s'.calls = s.calls)
    (drains : ∀ i ∈ s'.drains, i ∈ s.drains ∨ s.origins[i]? = some (.drain .new)) :
    InOrder queue s' := by
  have moved : InOrder (queue ++ []) s' := h.set here tasks same before after calls nofun drains
  rwa [List.append_nil] at moved

/-- The first of the queue calls the classifier. -/
theorem InOrder.calls {w : Work} {stage : WorkStage} (h : InOrder (t :: queue) s)
    (here : s.tasks[t]? = some (.work w .new))
    (tasks : s'.tasks = s.tasks.set t (.work w stage))
    (started : (Task.work w stage).unstarted? = none) (calls : s'.calls = s.calls ++ [w])
    (drains : s'.drains = s.drains) : InOrder (t :: queue) s' := by
  have own : s.unstarted? t = some w := unstarted?_of_some here
  have own' : s'.unstarted? t = none :=
    (unstarted?_of_some (getElem?_of_set_self tasks here)).trans started
  have once := h.once
  rw [List.filter_cons_of_pos (by simp [own]), List.nodup_cons] at once
  have absent : t ∉ queue := fun hmem => once.1 (List.mem_filter.2 ⟨hmem, by simp [own]⟩)
  have rest : ∀ i ∈ queue, s'.unstarted? i = s.unstarted? i := by
    refine fun i hi => unstarted?_set_ne tasks ?_
    rintro rfl
    exact absent hi
  refine ⟨?_, ?_, fun i hi => ?_, fun i hi => ?_⟩
  · have order := h.order
    rw [List.filterMap_cons_some own] at order
    rw [spawned_set here tasks rfl, calls, List.filterMap_cons_none own',
      List.filterMap_congr rest, order, List.append_assoc, List.singleton_append]
  · rw [List.filter_cons_of_neg (by simp [own']), List.filter_congr fun i hi => by rw [rest i hi]]
    exact once.2
  · rw [origins_set here tasks rfl]
    exact h.drains i (drains ▸ hi)
  · rw [tasks, List.length_set]
    exact h.bound i hi

/-- A task is added behind all others; a unit of work among them is to begin. -/
theorem InOrder.append (h : InOrder queue s) (tasks : s'.tasks = s.tasks ++ [new])
    (fresh : new.unstarted? = new.unit?) (calls : s'.calls = s.calls)
    (drains : s'.drains = s.drains) : InOrder (queue ++ [s.tasks.length]) s' := by
  have own : s'.unstarted? s.tasks.length = new.unit? :=
    (unstarted?_of_some (getElem?_of_append_length tasks)).trans fresh
  have rest : ∀ i ∈ queue, s'.unstarted? i = s.unstarted? i :=
    fun i hi => unstarted?_append tasks (h.bound i hi)
  refine ⟨?_, ?_, fun i hi => ?_, fun i hi => ?_⟩
  · rw [spawned_append tasks, calls, List.filterMap_append, List.filterMap_congr rest,
      h.order, List.append_assoc]
    cases unit : new.unit? <;> simp [own, unit]
  · rw [List.filter_append, List.filter_congr fun i hi => by rw [rest i hi], List.nodup_append]
    refine ⟨h.once, List.Nodup.filter _ (List.nodup_singleton _), fun i hi j hj => ?_⟩
    have lt := h.bound i (List.mem_filter.1 hi).1
    have last := List.mem_singleton.1 (List.mem_filter.1 hj).1
    exact Nat.ne_of_lt (last ▸ lt)
  · have before := h.drains i (drains ▸ hi)
    rw [origins_append tasks, List.getElem?_append_left (List.getElem?_eq_some_iff.1 before).1]
    exact before
  · rw [tasks, List.length_append]
    rcases List.mem_append.1 hi with hi | hi
    · exact Nat.lt_add_right _ (h.bound i hi)
    · exact List.mem_singleton.1 hi ▸ Nat.lt_succ_self _

/-- Those let through wait for an answer, so they have begun long ago. -/
theorem InOrder.grants {r : State σ} (h : InOrder queue s) (through : List TaskId)
    (waiting : ∀ i ∈ through, ∃ line, s.Awaits i line) (tasks : r.tasks = s.tasks)
    (calls : r.calls = s.calls) (drains : r.drains = s.drains) :
    InOrder (queue ++ through) (through.foldl State.grant r) := by
  have origins := (origins_grants through r).trans (origins_of_eq tasks)
  have awaits : ∀ i ∈ through, ∃ task, s.tasks[i]? = some task ∧ task.unstarted? = none := by
    intro i hi
    obtain ⟨line, task, here, hline⟩ := waiting i hi
    exact ⟨task, here, Task.unstarted?_of_line hline⟩
  refine h.extend (fun i => ?_) (fun i hi => ?_) ?_ ?_ (fun i hi => ?_) fun i hi => ?_
  · rw [unstarted?_grants, State.unstarted?, tasks, State.unstarted?]
  · obtain ⟨task, here, idle⟩ := awaits i hi
    exact (unstarted?_of_some here).trans idle
  · rw [spawned_grants, State.spawned, tasks, State.spawned]
  · exact (congrArg State.calls (grants_eq through r)).trans calls
  · rw [drains_grants, drains] at hi
    exact origins ▸ h.drains i hi
  · rw [length_grants, tasks]
    rcases List.mem_append.1 hi with hi | hi
    · exact h.bound i hi
    · obtain ⟨task, here, -⟩ := awaits i hi
      exact (List.getElem?_eq_some_iff.1 here).1

/-- The first of a line, if there is one, is let through. -/
theorem InOrder.grantNext {r : State σ} {next : Option TaskId} {rest : List TaskId}
    (h : InOrder s.ready s) (lined : Lined s) (line : Line)
    (front : s.surroundings.line line = next.toList ++ rest) (tasks : r.tasks = s.tasks)
    (ready : r.ready = s.ready) (calls : r.calls = s.calls) (drains : r.drains = s.drains) :
    InOrder (r.grantNext next).ready (r.grantNext next) := by
  rw [grantNext_eq, ready_grants, ready]
  refine h.grants next.toList (fun i hi => ⟨line, ?_⟩) tasks calls drains
  exact (lined.awaits line i).1 (front ▸ List.mem_append_left rest hi)

/-- The first of the queue has been polled, and is not to begin any more. -/
theorem InOrder.tail (h : InOrder (t :: queue) s) (started : s.unstarted? t = none) :
    InOrder queue s := by
  refine ⟨?_, ?_, h.drains, fun i hi => h.bound i (List.mem_cons_of_mem t hi)⟩
  · rw [h.order, List.filterMap_cons_none started]
  · have once := h.once
    rwa [List.filter_cons_of_neg (by simp [started])] at once

/-- The task that is polled stops, and nobody is woken. -/
theorem InOrder.stops (h : InOrder (t :: queue) s) (here : s.tasks[t]? = some old)
    (tasks : s'.tasks = s.tasks.set t new) (same : new.origin = old.origin)
    (before : old.unstarted? = none) (after : new.unstarted? = none) (calls : s'.calls = s.calls)
    (drains : s'.drains = s.drains) : InOrder queue s' :=
  (h.moves here tasks same before after calls fun _ hi => .inl (drains ▸ hi)).tail
    ((unstarted?_of_some (getElem?_of_set_self tasks here)).trans after)

/-- The task that is polled ends, and all drains are woken. -/
theorem InOrder.ends (h : InOrder (t :: queue) s) (here : s.tasks[t]? = some old)
    (tasks : s'.tasks = s.tasks.set t new) (same : new.origin = old.origin)
    (before : old.unstarted? = none) (after : new.unstarted? = none) (calls : s'.calls = s.calls)
    (drains : s'.drains = []) : InOrder (queue ++ s.drains) s' :=
  InOrder.tail (h.set here tasks same before after calls (fun _ hi => hi)
    fun i hi => by simp [drains] at hi)
    ((unstarted?_of_some (getElem?_of_set_self tasks here)).trans after)

end Changes

/-! ## The order is kept -/

theorem InOrder.advance {t : TaskId} {s s' : State σ} (h : InOrder (t :: s.ready) s)
    (move : Advance t s s') : InOrder (t :: s'.ready) s' := by
  cases move with
  | occupy here => exact h.moves here rfl rfl rfl rfl rfl fun _ hi => .inl hi
  | createPermit here | finalizePermit here =>
    exact h.moves here (set_same here).symm rfl rfl rfl rfl fun _ hi => .inl hi
  | call here => exact h.calls here rfl rfl rfl rfl
  | answered here => exact h.moves here rfl rfl rfl rfl rfl fun _ hi => .inl hi
  | unanswered here =>
    rw [unanswered_eq]
    exact h.moves here rfl rfl rfl rfl rfl fun _ hi => .inl hi

section Moves

variable [PredictionStore σ]

theorem InOrder.halt {t : TaskId} {s s' : State σ} (h : InOrder (t :: s.ready) s)
    (move : Halt t s s') : InOrder s'.ready s' := by
  cases move with
  | asleep still =>
    refine h.tail ?_
    cases here : s.tasks[t]? with
    | none => rw [State.unstarted?, here, Option.bind_none]
    | some task => exact (unstarted?_of_some here).trans (Task.unstarted?_of_asleep (still task here))
  | unnamed here | full here | createHeld here | finalizeHeld here =>
    exact h.stops here rfl rfl rfl rfl rfl rfl
  | duplicate here | rolledBack here | createPanicked here | classifyPanicked here
  | finalizePanicked here | written here | unwritten here => exact h.ends here rfl rfl rfl rfl rfl rfl
  | @launched submission record store here =>
    have ended : InOrder s.ready (s.endSubmit t submission (.returned (.ok record))) :=
      h.stops here rfl rfl rfl rfl rfl rfl
    exact ended.append rfl rfl rfl rfl
  | @gateHeld w gates here =>
    have called : InOrder (t :: s.ready) (s.called t w false gates) := h.calls here rfl rfl rfl rfl
    exact called.tail ((unstarted?_of_some (getElem?_of_set_self rfl here)).trans rfl)
  | checked here =>
    unfold State.checkIdle
    split
    · exact h.stops here rfl rfl rfl rfl rfl rfl
    · refine InOrder.tail (h.moves here rfl rfl rfl rfl rfl fun i hi => ?_)
        ((unstarted?_of_some (getElem?_of_set_self rfl here)).trans rfl)
      refine (List.mem_append.1 hi).imp_right fun hnew => ?_
      rw [List.mem_singleton.1 hnew]
      exact origins_of_some here

theorem InOrder.polled {t : TaskId} {s s' : State σ} (poll : Polled t s s')
    (h : InOrder (t :: s.ready) s) : InOrder s'.ready s' := by
  induction poll with
  | halt last => exact h.halt last
  | advance first _ ih => exact ih (h.advance first)

theorem InOrder.outside {s s' : State σ} (h : InOrder s.ready s) (lined : Lined s)
    (move : Outside s s') : InOrder s'.ready s' := by
  cases move with
  | submit | drain => exact h.append rfl rfl rfl rfl
  | cancelNew here =>
    exact h.moves here rfl rfl rfl rfl rfl fun _ hi => .inl hi
  | cancelWaiting here | cancelGranted here =>
    exact h.set here rfl rfl rfl rfl rfl (fun _ hi => hi) nofun
  | passCreate =>
    exact h.grantNext lined .creations (Permits.waiting_eq_add _) rfl rfl rfl rfl
  | passFinalize =>
    exact h.grantNext lined .finalizations (Permits.waiting_eq_add _) rfl rfl rfl rfl
  | @passGate resource next gates pass =>
    have front := Gates.admitOne_waiting pass resource
    rw [if_pos rfl] at front
    exact h.grantNext lined (.gate resource) front rfl rfl rfl rfl
  | @openGates through gates pass =>
    rw [ready_grants]
    refine h.grants through (fun i hi => ?_) rfl rfl rfl
    have all := (Gates.mem_openAll lined.single i).1
    rw [pass] at all
    obtain ⟨r, hr⟩ := all hi
    exact ⟨.gate r, (lined.awaits (.gate r) i).1 hr⟩
  | behave | setCreateMode | setFinalizeMode | setCreatePassage | setFinalizePassage | createDirectly
  | finalizeDirectly =>
    exact ⟨h.order, h.once, h.drains, h.bound⟩

theorem inOrder_of_reachable {initial s : State σ} (lined : Lined initial)
    (start : InOrder initial.ready initial) (h : Reachable initial s) : InOrder s.ready s := by
  induction h with
  | start => exact start
  | @event r stimulus reached ih =>
    have chain := outside_apply r stimulus
    have both : Lined r ∧ InOrder r.ready r := ⟨lined_of_reachable lined reached, ih⟩
    generalize r.apply stimulus = s' at chain
    suffices Lined s' ∧ InOrder s'.ready s' from this.2
    induction chain with
    | refl => exact both
    | tail _ last ih => exact ⟨ih.1.outside last, ih.2.outside ih.1 last⟩
  | @poll r s' _ hstep ih =>
    obtain ⟨t, rest, next, rfl⟩ := State.poll_of_step? hstep
    rw [next] at ih
    exact InOrder.polled (polled_poll _ t) ⟨ih.order, ih.once, ih.drains, ih.bound⟩

end Moves

end Predictor.Engine
