import Predictor.Proofs.Engine.Completion

/-!
An engine whose classification calls are all held back at closed gates, over a store that answers at
once. Until a call is let through its tasks come to rest at two places only: submissions have returned,
and units of work wait at their gates (`Held`). When then each call is let through in turn, no unit
waits any more (`Quiet.attended`).
-/

namespace Predictor.Engine

variable {σ : Type}

/-! ## Before the gates are passed -/

/-- Nothing is held back but classification calls, and none of these has passed its gate. -/
def Task.IsHeld (calls : List Work) : Task → Prop
  | .submit _ .new | .submit _ (.creating true) | .submit _ (.done (.returned _)) => True
  | .work _ .new => True
  | .work w (.classifying false) => w ∈ calls
  | .drain _ => True
  | _ => False

theorem Task.IsHeld.called {calls : List Work} {task : Task} (h : task.IsHeld calls) (w : Work) :
    task.IsHeld (calls ++ [w]) := by
  unfold IsHeld at h ⊢
  split at h <;> first | exact List.mem_append_left _ h | exact h

structure State.Held (s : State σ) : Prop where
  mode : s.surroundings.createMode = .ok
  passage : s.surroundings.createPassage = .proceeds
  prompt : s.surroundings.finalizeMode = .ok
  shut : s.surroundings.gates.isOpen = false
  taken : ∀ resource, (s.surroundings.gates.permits resource).free = 0
  tasks : ∀ task ∈ s.tasks, task.IsHeld s.calls
  deeds : s.deeds = []

section Changes

variable {s s' : State σ} {t : TaskId} {new : Task}

/-- One task changes, and others may be added. -/
theorem State.Held.set (h : s.Held) (surroundings : s'.surroundings = s.surroundings)
    (added : List Task) (tasks : s'.tasks = s.tasks.set t new ++ added)
    (calls : s'.calls = s.calls) (held : new.IsHeld s.calls)
    (held_added : ∀ task ∈ added, task.IsHeld s.calls) (deeds : s'.deeds = s.deeds) : s'.Held where
  mode := surroundings ▸ h.mode
  passage := surroundings ▸ h.passage
  prompt := surroundings ▸ h.prompt
  shut := surroundings ▸ h.shut
  taken := surroundings ▸ h.taken
  tasks := by
    intro task mem
    rw [tasks] at mem
    rw [calls]
    rcases List.mem_append.1 mem with old | fresh
    · rcases List.mem_or_eq_of_mem_set old with old | rfl
      · exact h.tasks task old
      · exact held
    · exact held_added task fresh
  deeds := deeds.trans h.deeds

/-- One task changes. -/
theorem State.Held.put (h : s.Held) (surroundings : s'.surroundings = s.surroundings)
    (tasks : s'.tasks = s.tasks.set t new) (calls : s'.calls = s.calls) (held : new.IsHeld s.calls)
    (deeds : s'.deeds = s.deeds) : s'.Held :=
  h.set surroundings [] (tasks.trans (List.append_nil _).symm) calls held (by simp) deeds

theorem State.Held.of_eq (h : s.Held) (surroundings : s'.surroundings = s.surroundings)
    (tasks : s'.tasks = s.tasks) (calls : s'.calls = s.calls) (deeds : s'.deeds = s.deeds) :
    s'.Held where
  mode := surroundings ▸ h.mode
  passage := surroundings ▸ h.passage
  prompt := surroundings ▸ h.prompt
  shut := surroundings ▸ h.shut
  taken := surroundings ▸ h.taken
  tasks := by
    rw [tasks, calls]
    exact h.tasks
  deeds := deeds.trans h.deeds

theorem State.Held.spawn (h : s.Held) (held : new.IsHeld s.calls) : (s.spawn new).Held where
  mode := h.mode
  passage := h.passage
  prompt := h.prompt
  shut := h.shut
  taken := h.taken
  tasks := by
    intro task mem
    rcases List.mem_append.1 mem with old | fresh
    · exact h.tasks task old
    · rw [List.mem_singleton.1 fresh]
      exact held
  deeds := h.deeds

end Changes

section Polls

variable [PredictionStore σ] {s s' : State σ}

theorem State.Held.create (h : s.Held) (t : TaskId) (submission : Submission) :
    (s.create t submission).Held := by
  unfold State.create
  split
  · exact h.set rfl [.work _ .new] rfl rfl trivial (by simp [Task.IsHeld]) rfl
  · exact h.put rfl rfl rfl trivial rfl

theorem State.Held.requestAdmission (h : s.Held) (t : TaskId) (submission : Submission) :
    (s.requestAdmission t submission).Held := by
  unfold State.requestAdmission
  split
  · exact h.put rfl rfl rfl trivial rfl
  · split
    · exact h.put rfl rfl rfl trivial rfl
    · dsimp only
      split
      · exact h.put rfl rfl rfl trivial rfl
      · rename_i admission claims
        have occupied : (s.occupy t submission admission).Held := h.put rfl rfl rfl trivial rfl
        have called : (s.occupy t submission admission).callCreate t submission =
            (s.occupy t submission admission).create t submission := by
          rw [State.callCreate, occupied.mode]
          rfl
        rw [called]
        exact occupied.create t submission

/-- A call arrives at a gate that is closed. -/
theorem State.Held.callClassify (h : s.Held) (t : TaskId) (w : Work) :
    (s.callClassify t w).Held := by
  have entered : s.surroundings.gates.enter w.resource t = (false,
      s.surroundings.gates.put w.resource { s.surroundings.gates.permits w.resource with
        waiting := (s.surroundings.gates.permits w.resource).waiting ++ [t] }) := by
    simp [Gates.enter, Permits.acquire, h.shut, h.taken]
  unfold State.callClassify
  rw [entered]
  exact {
    mode := h.mode
    passage := h.passage
    prompt := h.prompt
    shut := h.shut
    taken := by
      intro resource
      refine (congrArg Permits.free (Gates.permits_put _ _ _ _)).trans ?_
      split
      · exact h.taken w.resource
      · exact h.taken resource
    tasks := by
      intro task mem
      rcases List.mem_or_eq_of_mem_set mem with old | rfl
      · exact (h.tasks task old).called w
      · exact List.mem_append_right _ List.mem_cons_self
    deeds := h.deeds }

theorem State.Held.poll (h : s.Held) (t : TaskId) : (s.poll t).Held := by
  have checked : (s.checkIdle t).Held := by
    unfold State.checkIdle
    split <;> exact h.put rfl rfl rfl trivial rfl
  unfold State.poll
  split
  · exact h.requestAdmission t _
  · rw [h.passage]
    exact h.create t _
  · exact h.callClassify t _
  · rename_i here
    cases h.tasks _ (List.mem_of_getElem? here)
  · rename_i here
    cases h.tasks _ (List.mem_of_getElem? here)
  · exact checked
  · exact checked
  · exact h

theorem State.Held.settle (h : s.Held) : s.settle.Held := by
  fun_induction State.settle s with
  | case1 s halted => exact h
  | case2 s next step ih =>
    obtain ⟨first, rest, -, rfl⟩ := State.poll_of_step? step
    exact ih ((h.of_eq rfl rfl rfl rfl : State.Held { s with ready := rest }).poll first)

omit [PredictionStore σ] in
/-- At rest a submission has returned, and a unit of work waits for an answer to its call. -/
theorem State.Held.atRest (h : s.Held) (alert : Alert none s) (rest : s.AtRest) {t : TaskId} :
    (∀ submission stage, s.tasks[t]? = some (.submit submission stage) →
      ∃ result, stage = .done (.returned result)) ∧
    ∀ w stage, s.tasks[t]? = some (.work w stage) → stage = .classifying false ∧ w ∈ s.calls := by
  constructor
  · intro submission stage here
    have held := h.tasks _ (List.mem_of_getElem? here)
    have asleep := alert.asleep rest here nofun
    match stage with
    | .done (.returned result) => exact ⟨result, rfl⟩
  · intro w stage here
    have held := h.tasks _ (List.mem_of_getElem? here)
    have asleep := alert.asleep rest here nofun
    match stage with
    | .classifying false => exact ⟨rfl, held⟩

end Polls

/-! ## The gates are passed -/

section Passing

variable [PredictionStore σ]

/-- The engine is at rest; units of work wait at their gates or are over, none by a panic of the
classifier. -/
structure State.Quiet (s initial : State σ) : Prop where
  reached : Reachable initial s
  rest : s.AtRest
  prompt : s.surroundings.finalizeMode ≠ .hold
  shut : s.surroundings.gates.isOpen = false
  works : ∀ {t : TaskId} {w : Work} {stage : WorkStage}, s.tasks[t]? = some (.work w stage) →
    stage = .classifying false ∨ ∃ panicked, stage = .done panicked
  sane : ∀ entry ∈ s.deeds, entry.2 ≠ .heard .panics

variable {capacity : UInt64} {table : LabelTable} {store : σ} {usual : Behaviour}
  {isOpen : Bool} {freshIds : Nat → PredictionId} {s : State σ} {answer : Work → Behaviour}

theorem respond_behave (rest : s.AtRest) (resource : String) (behaviour : Behaviour) :
    s.respond (.behave resource behaviour) = { s with surroundings := { s.surroundings with
      behaviours := (resource, behaviour) :: s.surroundings.behaviours } } :=
  settle_of_atRest rest

theorem State.Quiet.behave {initial : State σ} (quiet : s.Quiet initial) (resource : String)
    (behaviour : Behaviour) : (s.respond (.behave resource behaviour)).Quiet initial where
  reached := (quiet.reached.event _).settle
  rest := State.settle_atRest _
  prompt := by
    rw [respond_behave quiet.rest]
    exact quiet.prompt
  shut := by
    rw [respond_behave quiet.rest]
    exact quiet.shut
  works := by
    rw [respond_behave quiet.rest]
    exact quiet.works
  sane := by
    rw [respond_behave quiet.rest]
    exact quiet.sane

end Passing

end Predictor.Engine
