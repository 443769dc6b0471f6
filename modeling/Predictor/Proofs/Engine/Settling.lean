import Predictor.Proofs.Engine.Drain
import Predictor.Proofs.Engine.Queue

/-!
Polling comes to an end. What is ahead of an engine is measured by one number (`State.pollsAhead`),
which each poll brings down: a poll that moves a task on makes the work ahead less, and no poll
makes the queue and the waiting drains together longer. Drains cannot keep each other awake, since
only an admission or a reservation that is given back wakes them (`Stirs`), and their own polls give
nothing back.
-/

namespace Predictor.Engine

variable {σ : Type}

/-! ## What is ahead -/

namespace State

/-- A bound on the polls to come. -/
def pollsAhead (s : State σ) : Nat :=
  totalAhead s.tasks * (s.ready.length + s.drains.length + 1) + s.ready.length

/-- As many polls as so many tasks can need. -/
def mostPolls (tasks : Nat) : Nat := 6 * tasks * (tasks + 1) + tasks

theorem totalAhead_le (tasks : List Task) : totalAhead tasks ≤ 6 * tasks.length := by
  have ahead : ∀ task : Task, task.movesAhead ≤ 6 := by
    rintro (⟨_, _ | _ | _⟩ | ⟨_, _ | _ | _ | _⟩ | _) <;> simp [Task.movesAhead]
  induction tasks with
  | nil => simp [totalAhead]
  | cons task rest ih =>
    have first := ahead task
    rw [totalAhead, List.length_cons]
    omega

end State

theorem WellQueued.pollsAhead_le {s : State σ} (h : WellQueued s.ready s) :
    s.pollsAhead ≤ State.mostPolls s.tasks.length := by
  have places := h.length_le
  have moves := State.totalAhead_le s.tasks
  refine Nat.add_le_add (Nat.mul_le_mul moves ?_) ?_
  · omega
  · omega

section Polls

variable [PredictionStore σ] {s s' : State σ} {t : TaskId} {rest : List TaskId}

/-- A poll adds one task at most to those that are ready and those that wait for a release. -/
theorem Polled.places_le (poll : Polled t s s') :
    s'.ready.length + s'.drains.length ≤ s.ready.length + s.drains.length + 1 := by
  induction poll with
  | advance first _ ih =>
    cases first with
    | unanswered =>
      rw [unanswered_eq] at ih
      exact ih
    | occupy | createPermit | call | answered | finalizePermit => exact ih
  | @halt s s' last =>
    have woken : (s.ready ++ s.drains).length + 0 ≤ s.ready.length + s.drains.length + 1 := by
      rw [List.length_append]
      omega
    cases last with
    | asleep | unnamed | full | createHeld | gateHeld | finalizeHeld => exact Nat.le_succ _
    | duplicate | rolledBack | createPanicked | classifyPanicked | finalizePanicked | written
    | unwritten => exact woken
    | launched =>
      show (s.ready ++ [_]).length + s.drains.length ≤ _
      rw [List.length_append, List.length_singleton]
      omega
    | checked =>
      unfold State.checkIdle
      split
      · exact Nat.le_succ _
      · show s.ready.length + (s.drains ++ [t]).length ≤ _
        rw [List.length_append, List.length_singleton]
        omega

/-- Every poll brings the end nearer. -/
theorem State.pollsAhead_lt (next : s.ready = t :: rest) :
    ({ s with ready := rest }.poll t).pollsAhead < s.pollsAhead := by
  have places := (polled_poll { s with ready := rest } t).places_le
  have progress := poll_progress { s with ready := rest } t
  generalize State.poll { s with ready := rest } t = r at places progress
  have length : s.ready.length = rest.length + 1 := by rw [next, List.length_cons]
  simp only [pollsAhead, length]
  simp only at places progress
  rcases progress with fewer | ⟨same, ready⟩
  · calc totalAhead r.tasks * (r.ready.length + r.drains.length + 1) + r.ready.length
        < totalAhead r.tasks * (r.ready.length + r.drains.length + 1) +
            (r.ready.length + r.drains.length + 1) := by omega
      _ = (totalAhead r.tasks + 1) * (r.ready.length + r.drains.length + 1) :=
        (Nat.succ_mul _ _).symm
      _ ≤ totalAhead s.tasks * (rest.length + 1 + s.drains.length + 1) :=
        Nat.mul_le_mul fewer (by omega)
      _ ≤ _ := Nat.le_add_right _ _
  · rw [same, ready]
    rw [ready] at places
    have product := Nat.mul_le_mul_left (totalAhead s.tasks)
      (show rest.length + r.drains.length + 1 ≤ rest.length + 1 + s.drains.length + 1 by omega)
    omega

/-! ## Polls in turn -/

/-- The tasks that have been polled from one state to another, each the first of the queue in its
turn. -/
inductive PolledInTurn : State σ → List TaskId → State σ → Prop
  | none {s : State σ} : PolledInTurn s [] s
  | next {s s' : State σ} {t : TaskId} {rest later : List TaskId} (first : s.ready = t :: rest)
      (after : PolledInTurn ({ s with ready := rest }.poll t) later s') :
      PolledInTurn s (t :: later) s'

/-- Polling in turn ends at rest after at most so many polls, and there is no other way to poll in
turn. -/
def State.RestsWithin (s : State σ) (most : Nat) : Prop :=
  ∃ polled, PolledInTurn s polled s.settle ∧ s.settle.AtRest ∧ polled.length ≤ most ∧
    ∀ begun s', PolledInTurn s begun s' → begun <+: polled

theorem PolledInTurn.isPrefix {polled begun : List TaskId} {r : State σ}
    (all : PolledInTurn s polled s') (rest : s'.AtRest) (some : PolledInTurn s begun r) :
    begun <+: polled := by
  induction some generalizing polled with
  | none => exact List.nil_prefix
  | next first _ ih =>
    cases all with
    | none =>
      rw [rest] at first
      simp at first
    | next first' after =>
      obtain ⟨rfl, rfl⟩ := List.cons.inj (first.symm.trans first')
      exact List.cons_prefix_cons.2 ⟨rfl, ih after⟩

theorem polledInTurn_settle (s : State σ) :
    ∃ polled, PolledInTurn s polled s.settle ∧ polled.length ≤ s.pollsAhead := by
  fun_induction State.settle s with
  | case1 => exact ⟨[], .none, Nat.zero_le _⟩
  | case2 s s' step ih =>
    obtain ⟨t, rest, next, rfl⟩ := State.poll_of_step? step
    obtain ⟨polled, after, le⟩ := ih
    exact ⟨t :: polled, .next next after, Nat.lt_of_le_of_lt le (State.pollsAhead_lt next)⟩

theorem State.restsWithin (s : State σ) : s.RestsWithin s.pollsAhead := by
  obtain ⟨polled, all, le⟩ := polledInTurn_settle s
  exact ⟨polled, all, s.settle_atRest, le, fun _ _ some => all.isPrefix s.settle_atRest some⟩

theorem State.RestsWithin.mono {most more : Nat} (h : s.RestsWithin most) (le : most ≤ more) :
    s.RestsWithin more := by
  obtain ⟨polled, all, rest, length, only⟩ := h
  exact ⟨polled, all, rest, Nat.le_trans length le, only⟩

end Polls

/-! ## Who wakes drains -/

namespace Admission

/-- How often an admission or a reservation has been given back. -/
def givenBack (a : Admission) : Nat := a.uses.countP fun use => use.operation != .reserve

@[simp]
theorem givenBack_count (a : Admission) (operation : CounterOperation) :
    (a.count operation).givenBack =
      a.givenBack + if operation = .reserve then 0 else 1 := by
  cases operation <;> simp [givenBack, count]

theorem givenBack_release (a : Admission) (resource : String) :
    (a.release resource).givenBack = a.givenBack + 1 :=
  a.givenBack_count .release

theorem givenBack_takeBack (a : Admission) : a.reserve.unreserve.givenBack = a.givenBack + 1 := by
  simp [reserve, unreserve]

theorem givenBack_occupy {a a' : Admission} {resource : String}
    (claims : a.reserve.claim? resource = some a') : a'.givenBack = a.givenBack := by
  rw [(claim?_reserve claims).2]
  exact a.givenBack_count .reserve

end Admission

namespace State

def givenBack (s : State σ) : Nat := s.admission.givenBack

/-- Whether a task is a drain, over or not. -/
def IsDrain (s : State σ) (t : TaskId) : Prop := s.origins[t]? = some (.drain .new)

theorem IsDrain.stage {s : State σ} {t : TaskId} (h : s.IsDrain t) :
    ∃ stage, s.tasks[t]? = some (.drain stage) := by
  rw [IsDrain, origins, List.getElem?_map, Option.map_eq_some_iff] at h
  obtain ⟨task, here, origin⟩ := h
  cases task with
  | drain stage => exact ⟨stage, here⟩
  | submit | work => simp [Task.origin] at origin

end State

/-- What happens to drains from one state to a later one: none is woken, or something has been given
back and all that waited are ready. -/
inductive Stirs (s s' : State σ) : Prop
  | still (given : s'.givenBack = s.givenBack) (ready : s.ready ⊆ s'.ready)
      (drains : s.drains ⊆ s'.drains) (joined : ∀ t ∈ s'.ready, t ∈ s.ready ∨ ¬ s.IsDrain t)
  | woken (given : s.givenBack < s'.givenBack) (ready : s.ready ++ s.drains ⊆ s'.ready)

namespace Stirs

variable {s r s' : State σ} {t : TaskId}

theorem trans (first : Stirs s r) (grows : Grows s r) (second : Stirs r s') : Stirs s s' := by
  cases first with
  | still given ready drains joined =>
    cases second with
    | still given' ready' drains' joined' =>
      refine .still (given'.trans given) (List.Subset.trans ready ready')
        (List.Subset.trans drains drains') fun t ht => ?_
      rcases joined' t ht with mem | other
      · exact joined t mem
      · exact .inr fun drain => other (grows.origin_of_some drain)
    | woken given' ready' =>
      refine .woken (given ▸ given') fun t ht => ready' ?_
      rcases List.mem_append.1 ht with mem | mem
      · exact List.mem_append_left _ (ready mem)
      · exact List.mem_append_right _ (drains mem)
  | woken given ready =>
    cases second with
    | still given' ready' => exact .woken (given' ▸ given) (List.Subset.trans ready ready')
    | woken given' ready' =>
      exact .woken (Nat.lt_trans given given')
        fun t ht => ready' (List.mem_append_left _ (ready ht))

theorem of_eq (given : s'.givenBack = s.givenBack) (ready : s'.ready = s.ready)
    (drains : s.drains ⊆ s'.drains) : Stirs s s' :=
  .still given (ready ▸ fun _ => id) drains fun _ ht => .inl (ready ▸ ht)

theorem of_append (given : s'.givenBack = s.givenBack)
    (ready : s'.ready = s.ready ++ [s.tasks.length]) (drains : s'.drains = s.drains) :
    Stirs s s' := by
  refine .still given (ready ▸ List.subset_append_left _ _) (drains ▸ fun _ => id) fun t ht => ?_
  rw [ready, List.mem_append, List.mem_singleton] at ht
  exact ht.imp_right fun last drain => Nat.lt_irrefl _ (last ▸ lt_of_origin drain)

theorem of_release (given : s'.givenBack = s.givenBack + 1)
    (ready : s'.ready = s.ready ++ s.drains) : Stirs s s' :=
  .woken (by omega) (ready ▸ fun _ => id)

/-- Those who stand in a line are no drains. -/
theorem of_grants {through : List TaskId} (lines : ∀ i ∈ through, ∃ line, s.Awaits i line)
    (ready : r.ready = s.ready) (drains : r.drains = s.drains)
    (given : r.givenBack = s.givenBack) : Stirs s (through.foldl State.grant r) := by
  refine .still ?_ ?_ ?_ fun t ht => ?_
  · exact (congrArg (fun r => r.admission.givenBack) (grants_eq through r)).trans given
  · rw [ready_grants, ready]
    exact List.subset_append_left _ _
  · rw [drains_grants, drains]
    exact fun _ => id
  · rw [ready_grants, ready, List.mem_append] at ht
    refine ht.imp_right fun mem drain => ?_
    obtain ⟨line, task, here, hline⟩ := lines t mem
    rw [State.IsDrain, origins_of_some here] at drain
    cases task with
    | drain => simp [Task.line?] at hline
    | submit | work => simp [Task.origin] at drain

theorem of_grantNext {next : Option TaskId} {rest : List TaskId} (lined : Lined s) (line : Line)
    (front : s.surroundings.line line = next.toList ++ rest) (ready : r.ready = s.ready)
    (drains : r.drains = s.drains) (given : r.givenBack = s.givenBack) :
    Stirs s (r.grantNext next) := by
  rw [grantNext_eq]
  refine of_grants (fun i hi => ⟨line, ?_⟩) ready drains given
  exact (lined.awaits line i).1 (front ▸ List.mem_append_left rest hi)

/-- A drain that waits is woken exactly when something is given back. -/
theorem wakes_iff (h : Stirs s s') (waits : t ∈ s.drains) (away : t ∉ s.ready)
    (drain : s.IsDrain t) : t ∈ s'.ready ↔ s.givenBack < s'.givenBack := by
  cases h with
  | still given ready drains joined =>
    constructor
    · intro mem
      exact absurd ((joined t mem).resolve_right (not_not_intro drain)) away
    · omega
  | woken given ready => exact ⟨fun _ => given, fun _ => ready (List.mem_append_right _ waits)⟩

end Stirs

theorem Advance.stirs {t : TaskId} {s s' : State σ} (move : Advance t s s') : Stirs s s' := by
  cases move with
  | occupy _ _ _ claims => exact .of_eq (Admission.givenBack_occupy claims) rfl fun _ => id
  | unanswered =>
    rw [unanswered_eq]
    exact .of_eq rfl rfl fun _ => id
  | createPermit | call | answered | finalizePermit => exact .of_eq rfl rfl fun _ => id

section Runs

variable [PredictionStore σ] {s s' : State σ} {t : TaskId} {stage : DrainStage}

theorem Halt.stirs (move : Halt t s s') : Stirs s s' := by
  cases move with
  | asleep | unnamed | full | createHeld | gateHeld | finalizeHeld =>
    exact .of_eq rfl rfl fun _ => id
  | duplicate => exact .of_release (Admission.givenBack_takeBack _) rfl
  | rolledBack | createPanicked | classifyPanicked | finalizePanicked | written | unwritten =>
    exact .of_release (Admission.givenBack_release _ _) rfl
  | launched =>
    exact .of_append rfl (congrArg (s.ready ++ [·]) (List.length_set ..)) rfl
  | checked =>
    unfold State.checkIdle
    split
    · exact .of_eq rfl rfl fun _ => id
    · exact .of_eq rfl rfl (List.subset_append_left _ _)

theorem Polled.stirs (poll : Polled t s s') : Stirs s s' := by
  induction poll with
  | halt last => exact last.stirs
  | advance first _ ih => exact first.stirs.trans first.grows ih

theorem Outside.stirs (lined : Lined s) (move : Outside s s') : Stirs s s' := by
  cases move with
  | submit | drain => exact .of_append rfl rfl rfl
  | cancelWaiting | cancelGranted => exact .of_release (Admission.givenBack_release _ _) rfl
  | passCreate =>
    exact .of_grantNext lined .creations (Permits.waiting_eq_add _) rfl rfl rfl
  | passFinalize =>
    exact .of_grantNext lined .finalizations (Permits.waiting_eq_add _) rfl rfl rfl
  | @passGate resource next gates pass =>
    have front := Gates.admitOne_waiting pass resource
    rw [if_pos rfl] at front
    exact .of_grantNext lined (.gate resource) front rfl rfl rfl
  | @openGates through gates pass =>
    have all := Gates.mem_openAll lined.single
    rw [pass] at all
    refine .of_grants (fun i hi => ?_) rfl rfl rfl
    obtain ⟨resource, waits⟩ := (all i).1 hi
    exact ⟨.gate resource, (lined.awaits (.gate resource) i).1 waits⟩
  | cancelNew | behave | setCreateMode | setFinalizeMode | setCreatePassage | setFinalizePassage
  | createDirectly | finalizeDirectly =>
    exact .of_eq rfl rfl fun _ => id

theorem stirs_apply (lined : Lined s) (stimulus : Stimulus) : Stirs s (s.apply stimulus) := by
  have chain := outside_apply s stimulus
  generalize s.apply stimulus = s' at chain
  suffices Lined s' ∧ Grows s s' ∧ Stirs s s' from this.2.2
  induction chain with
  | refl => exact ⟨lined, .refl s, .of_eq rfl rfl fun _ => id⟩
  | tail _ last ih =>
    obtain ⟨lined, grows, stirs⟩ := ih
    exact ⟨lined.outside last, grows.trans last.grows, stirs.trans grows (last.stirs lined)⟩

omit [PredictionStore σ] in
theorem WellQueued.isDrain (h : WellQueued s.ready s) (waits : t ∈ s.drains) : s.IsDrain t :=
  origins_of_some (h.drains t waits)

/-- From one state to the next a drain that waits is woken exactly when something is given back. -/
theorem Follows.wakes_iff (lined : Lined s) (queued : WellQueued s.ready s) (next : Follows s s')
    (waits : t ∈ s.drains) : t ∈ s'.ready ↔ s.givenBack < s'.givenBack := by
  have away : t ∉ s.ready := fun mem => queued.not_mem_drains mem waits
  cases next with
  | event stimulus => exact (stirs_apply lined stimulus).wakes_iff waits away (queued.isDrain waits)
  | poll step =>
    obtain ⟨first, rest, ready, rfl⟩ := State.poll_of_step? step
    have stirs := (polled_poll { s with ready := rest } first).stirs
    refine stirs.wakes_iff waits (fun mem => away ?_) (queued.isDrain waits)
    rw [ready]
    exact List.mem_cons_of_mem first mem

/-! ## Polls of drains -/

/-- A drain that is polled makes nobody ready, gives nothing back and changes itself only. -/
theorem poll_drain (here : s.tasks[t]? = some (.drain stage)) :
    (s.poll t).ready = s.ready ∧ (s.poll t).admission = s.admission ∧
      ∀ i, i ≠ t → (s.poll t).tasks[i]? = s.tasks[i]? := by
  have looked : (s.checkIdle t).ready = s.ready ∧ (s.checkIdle t).admission = s.admission ∧
      ∀ i, i ≠ t → (s.checkIdle t).tasks[i]? = s.tasks[i]? := by
    unfold State.checkIdle
    split <;> exact ⟨rfl, rfl, fun i hi => getElem?_of_set_ne rfl hi⟩
  unfold State.poll
  rw [here]
  cases stage with
  | new | waiting => exact looked
  | done => exact ⟨rfl, rfl, fun _ _ => rfl⟩

/-- A drain is polled once when it is ready, and once more at most for each time that something is
given back. -/
theorem PolledInTurn.count_le {initial : State σ} {polled : List TaskId}
    (queued : ∀ {r : State σ}, Reachable initial r → WellQueued r.ready r)
    (h : Reachable initial s) (drain : s.IsDrain t) (polls : PolledInTurn s polled s') :
    s.givenBack + polled.count t ≤ s'.givenBack + if t ∈ s.ready then 1 else 0 := by
  induction polls with
  | none => simp
  | @next s s' first rest later ready after ih =>
    have step : s.step? = some ({ s with ready := rest }.poll first) := by
      rw [State.step?, ready]
    have stirs := (polled_poll { s with ready := rest } first).stirs
    have grows := (polled_poll { s with ready := rest } first).grows
    have bound := ih (h.poll step) (grows.origin_of_some drain)
    by_cases own : first = t
    · subst own
      obtain ⟨stage, here⟩ := drain.stage
      obtain ⟨kept, admission, -⟩ := poll_drain (s := { s with ready := rest }) here
      have given := congrArg Admission.givenBack admission
      have once := (List.nodup_append.1 (queued h).once).1
      rw [ready, List.nodup_cons] at once
      rw [kept, if_neg once.1] at bound
      rw [List.count_cons_self, ready, if_pos List.mem_cons_self]
      simp only [State.givenBack] at bound given ⊢
      omega
    · rw [List.count_cons_of_ne own]
      generalize State.poll { s with ready := rest } first = r at stirs bound
      cases stirs with
      | still given _ _ joined =>
        have kept : t ∈ r.ready → t ∈ s.ready := by
          intro mem
          rw [ready]
          exact List.mem_cons_of_mem first ((joined t mem).resolve_right (not_not_intro drain))
        have same : r.givenBack = s.givenBack := given
        by_cases mem : t ∈ r.ready
        · rw [if_pos mem] at bound
          rw [if_pos (kept mem)]
          omega
        · rw [if_neg mem] at bound
          omega
      | woken given =>
        have less : s.givenBack < r.givenBack := given
        split at bound <;> omega

/-! ## Every run -/

/-- Every engine comes to rest, as it is and after any one event: polled in turn, it is at rest
after at most so many polls as its tasks can need. A drain that waits is woken by nothing but an
admission or a reservation that is given back; when it is polled it gives nothing back and wakes
nobody, so it is polled once more at most for each that is given back. -/
theorem comes_to_rest {capacity : UInt64} {table : LabelTable} {store : σ} {usual : Behaviour}
    {isOpen : Bool} {freshIds : Nat → PredictionId}
    (h : Reachable (State.start capacity table store (.start usual isOpen) freshIds) s) :
    s.RestsWithin (State.mostPolls s.tasks.length) ∧
      (∀ stimulus, (s.apply stimulus).RestsWithin
        (State.mostPolls (s.apply stimulus).tasks.length)) ∧
      (∀ s' t, Follows s s' → t ∈ s.drains → (t ∈ s'.ready ↔ s.givenBack < s'.givenBack)) ∧
      (∀ t rest stage, s.ready = t :: rest → s.tasks[t]? = some (.drain stage) →
        ({ s with ready := rest }.poll t).ready = rest ∧
          ({ s with ready := rest }.poll t).admission = s.admission ∧
            ∀ i, i ≠ t → ({ s with ready := rest }.poll t).tasks[i]? = s.tasks[i]?) ∧
      ∀ t stage polled s', s.tasks[t]? = some (.drain stage) → PolledInTurn s polled s' →
        s.givenBack + polled.count t ≤ s'.givenBack + 1 := by
  have within : ∀ {r : State σ},
      Reachable (State.start capacity table store (.start usual isOpen) freshIds) r →
        r.RestsWithin (State.mostPolls r.tasks.length) := by
    intro r reached
    exact r.restsWithin.mono (wellQueued_of_reachable reached).pollsAhead_le
  have lined := lined_of_reachable (lined_start ..) h
  refine ⟨within h, fun stimulus => within (h.event stimulus), ?_, ?_, ?_⟩
  · intro s' t next waits
    exact next.wakes_iff lined (wellQueued_of_reachable h) waits
  · intro t rest stage _ here
    exact poll_drain (s := { s with ready := rest }) here
  · intro t stage polled s' here polls
    have bound := polls.count_le wellQueued_of_reachable h (origins_of_some here)
    split at bound <;> omega

/-- While one unit of work is about to run, a drain waits; it is woken when the unit gives back. -/
theorem comes_to_rest_drained :
    (Sample.drained true 2).ready = [2] ∧ (Sample.drained true 2).drains = [1] ∧
      (Sample.drained true 2).RestsWithin 75 ∧
      ((Sample.drained true 2).apply .drain).RestsWithin 124 ∧
      (Sample.drained true 2).givenBack < (Sample.drained true 3).givenBack := by
  have reached : Reachable (Sample.start true) (Sample.drained true 2) :=
    ((Reachable.start.event _).event _).polls 2
  obtain ⟨within, after, wakes, -⟩ := comes_to_rest reached
  have woken := (wakes (Sample.drained true 3) 1 (.poll rfl) (List.mem_singleton.2 rfl)).1
  exact ⟨rfl, rfl, within, after .drain, woken (List.mem_singleton.2 rfl)⟩

end Runs

end Predictor.Engine
