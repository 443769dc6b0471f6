import Predictor.Proofs.Engine.Acceptance

/-!
What only grows in the course of a run. A task stays what it was when it began, whatever stage it has
come to, and new tasks come behind the others; what has been done stays done (`Grows`).
-/

namespace Predictor.Engine

variable {σ : Type}

namespace Task

/-- The task as it was when it began. -/
def origin : Task → Task
  | .submit submission _ => .submit submission .new
  | .work w _ => .work w .new
  | .drain _ => .drain .new

theorem origin_grant (task : Task) : task.grant.origin = task.origin := by
  rcases task with ⟨_, _ | _ | _⟩ | ⟨_, _ | _ | _ | _⟩ | _ <;> rfl

theorem origin_eq_work {task : Task} {w : Work} (h : task.origin = .work w .new) :
    ∃ stage, task = .work w stage := by
  cases task with
  | work unit stage =>
    obtain ⟨rfl, -⟩ := Task.work.inj h
    exact ⟨stage, rfl⟩
  | submit | drain => simp [origin] at h

end Task

def State.origins (s : State σ) : List Task := s.tasks.map Task.origin

theorem origins_of_some {s : State σ} {t : TaskId} {task : Task} (here : s.tasks[t]? = some task) :
    s.origins[t]? = some task.origin := by
  rw [State.origins, List.getElem?_map, here, Option.map_some]

section Origins

variable {s s' : State σ} {t : TaskId} {old new : Task}

theorem lt_of_origin {task : Task} (h : s.origins[t]? = some task) : t < s.tasks.length := by
  have lt := (List.getElem?_eq_some_iff.1 h).1
  rwa [State.origins, List.length_map] at lt

theorem origins_of_eq (tasks : s'.tasks = s.tasks) : s'.origins = s.origins := by
  rw [State.origins, tasks, State.origins]

theorem origins_set (here : s.tasks[t]? = some old) (tasks : s'.tasks = s.tasks.set t new)
    (same : new.origin = old.origin) : s'.origins = s.origins := by
  rw [State.origins, tasks, List.map_set, same]
  exact set_same (origins_of_some here)

theorem origins_append (tasks : s'.tasks = s.tasks ++ [new]) :
    s'.origins = s.origins ++ [new.origin] := by
  rw [State.origins, tasks, List.map_append, List.map_singleton, State.origins]

theorem origins_grants (through : List TaskId) (s : State σ) :
    (through.foldl State.grant s).origins = s.origins := by
  refine List.ext_getElem? fun i => ?_
  rw [State.origins, State.origins, List.getElem?_map, List.getElem?_map]
  exact view_grants (f := Option.map Task.origin) (fun task => congrArg some task.origin_grant)
    through s i

end Origins

structure Grows (s s' : State σ) : Prop where
  origins : s.origins <+: s'.origins
  deeds : s.deeds <+: s'.deeds
  table : s'.table = s.table

namespace Grows

theorem refl (s : State σ) : Grows s s := ⟨List.prefix_rfl, List.prefix_rfl, rfl⟩

theorem trans {s r s' : State σ} (first : Grows s r) (second : Grows r s') : Grows s s' :=
  ⟨first.origins.trans second.origins, first.deeds.trans second.deeds,
    second.table.trans first.table⟩

section Changes

variable {s s' : State σ} {t : TaskId} {old new : Task}

theorem of_origins (origins : s'.origins = s.origins) (deeds : s'.deeds = s.deeds)
    (table : s'.table = s.table) : Grows s s' :=
  ⟨origins ▸ List.prefix_rfl, deeds ▸ List.prefix_rfl, table⟩

theorem of_eq (tasks : s'.tasks = s.tasks) (deeds : s'.deeds = s.deeds)
    (table : s'.table = s.table) : Grows s s' :=
  of_origins (origins_of_eq tasks) deeds table

/-- One task comes to another stage. -/
theorem of_set (here : s.tasks[t]? = some old) (tasks : s'.tasks = s.tasks.set t new)
    (same : new.origin = old.origin) (own : List (TaskId × Deed))
    (deeds : s'.deeds = s.deeds ++ own) (table : s'.table = s.table) : Grows s s' :=
  ⟨origins_set here tasks same ▸ List.prefix_rfl, deeds ▸ List.prefix_append _ _, table⟩

/-- One task comes to another stage, and does nothing that is recorded. -/
theorem of_set_still (here : s.tasks[t]? = some old) (tasks : s'.tasks = s.tasks.set t new)
    (same : new.origin = old.origin) (deeds : s'.deeds = s.deeds) (table : s'.table = s.table) :
    Grows s s' :=
  of_origins (origins_set here tasks same) deeds table

theorem of_append (tasks : s'.tasks = s.tasks ++ [new]) (deeds : s'.deeds = s.deeds)
    (table : s'.table = s.table) : Grows s s' :=
  ⟨origins_append tasks ▸ List.prefix_append _ _, deeds ▸ List.prefix_rfl, table⟩

theorem of_grants (through : List TaskId) {r : State σ} (tasks : r.tasks = s.tasks)
    (deeds : r.deeds = s.deeds) (table : r.table = s.table) :
    Grows s (through.foldl State.grant r) :=
  of_origins ((origins_grants through r).trans (origins_of_eq tasks))
    ((deeds_grants through r).trans deeds) ((table_grants through r).trans table)

theorem of_grantNext (next : Option TaskId) {r : State σ} (tasks : r.tasks = s.tasks)
    (deeds : r.deeds = s.deeds) (table : r.table = s.table) : Grows s (r.grantNext next) := by
  rw [grantNext_eq]
  exact of_grants next.toList tasks deeds table

end Changes

section Views

variable {s s' : State σ} {t : TaskId} {w : Work} {stage : WorkStage} {entry : TaskId × Deed}

theorem origin_of_some {task : Task} (h : Grows s s') (before : s.origins[t]? = some task) :
    s'.origins[t]? = some task := by
  obtain ⟨added, heq⟩ := h.origins
  rw [← heq, List.getElem?_append_left (List.getElem?_eq_some_iff.1 before).1, before]

theorem origin_eq {task : Task} (h : Grows s s') (here : s.tasks[t]? = some task) :
    s'.origins[t]? = some task.origin :=
  h.origin_of_some (origins_of_some here)

theorem mem_deeds (h : Grows s s') (mem : entry ∈ s.deeds) : entry ∈ s'.deeds :=
  h.deeds.mem mem

theorem deedsOf (h : Grows s s') (t : TaskId) : s.deedsOf t <+: s'.deedsOf t :=
  h.deeds.filterMap _

/-- A unit of work that was there before was the same one. -/
theorem work_before (h : Grows s s') (here : s'.tasks[t]? = some (.work w stage))
    (lt : t < s.tasks.length) : ∃ before, s.tasks[t]? = some (.work w before) := by
  have after := h.origin_eq (List.getElem?_eq_getElem lt)
  rw [origins_of_some here] at after
  obtain ⟨before, heq⟩ := Task.origin_eq_work (Option.some.inj after).symm
  exact ⟨before, by rw [List.getElem?_eq_getElem lt, heq]⟩

end Views

end Grows

theorem Advance.grows {t : TaskId} {s s' : State σ} (move : Advance t s s') : Grows s s' := by
  cases move with
  | occupy here | call here => exact .of_set_still here rfl rfl rfl rfl
  | createPermit | finalizePermit => exact .of_eq rfl rfl rfl
  | answered here => exact .of_set here rfl rfl _ (List.append_assoc _ _ _) rfl
  | unanswered here =>
    rw [unanswered_eq]
    exact .of_set here rfl rfl _ rfl rfl

section Runs

variable [PredictionStore σ]

theorem Halt.grows {t : TaskId} {s s' : State σ} (move : Halt t s s') : Grows s s' := by
  cases move with
  | asleep => exact .refl s
  | unnamed here | full here | duplicate here | rolledBack here | createPanicked here
  | createHeld here | gateHeld here | finalizeHeld here => exact .of_set_still here rfl rfl rfl rfl
  | @launched submission record store here =>
    have ended : Grows s (s.endSubmit t submission (.returned (.ok record))) :=
      .of_set_still here rfl rfl rfl rfl
    exact ended.trans (.of_append rfl rfl rfl)
  | classifyPanicked here | finalizePanicked here | written here | unwritten here =>
    exact .of_set here rfl rfl _ rfl rfl
  | checked here =>
    unfold State.checkIdle
    split <;> exact .of_set_still here rfl rfl rfl rfl

theorem Outside.grows {s s' : State σ} (move : Outside s s') : Grows s s' := by
  cases move with
  | submit | drain => exact .of_append rfl rfl rfl
  | cancelNew here | cancelWaiting here | cancelGranted here => exact .of_set_still here rfl rfl rfl rfl
  | passCreate | passFinalize | passGate => exact .of_grantNext _ rfl rfl rfl
  | openGates => exact .of_grants _ rfl rfl rfl
  | behave | setCreateMode | setFinalizeMode | setCreatePassage | setFinalizePassage | createDirectly
  | finalizeDirectly =>
    exact .of_eq rfl rfl rfl

theorem Transition.grows {s s' : State σ} (move : Transition s s') : Grows s s' := by
  cases move with
  | take => exact .of_eq rfl rfl rfl
  | advance first => exact first.grows
  | halt last => exact last.grows
  | outside move => exact move.grows

theorem Polled.grows {t : TaskId} {s s' : State σ} (poll : Polled t s s') : Grows s s' := by
  induction poll with
  | halt last => exact last.grows
  | advance first _ ih => exact first.grows.trans ih

/-- Whatever happens later, nothing is taken back. -/
theorem Reachable.grows {s s' : State σ} (h : Reachable s s') : Grows s s' :=
  h.invariant (.refl s) fun move hr => hr.trans move.grows

end Runs

end Predictor.Engine
