import Predictor.Proofs.Engine.Batch
import Predictor.Proofs.Engine.Growth

/-!
What is left to do. A task that is over stays as it is, and polls begin nothing but units of work. So
when every task but one is over or a unit of work, that stays so (`Alone`), and when every task is
over nothing happens any more (`Over`).
-/

namespace Predictor.Engine

variable {σ : Type}

/-! ## Tasks that are over -/

/-- Nothing is to come for the task. -/
def Task.isOver : Task → Bool
  | .submit _ (.done _) | .work _ (.done _) | .drain .done => true
  | _ => false

theorem Task.asleep_of_isOver {task : Task} (h : task.isOver = true) : task.awake = false := by
  rcases task with ⟨_, _ | _ | _⟩ | ⟨_, _ | _ | _ | _⟩ | ⟨_ | _ | _⟩ <;> first | rfl | cases h

theorem Task.grant_of_isOver {task : Task} (h : task.isOver = true) : task.grant = task := by
  rcases task with ⟨_, _ | _ | _⟩ | ⟨_, _ | _ | _ | _⟩ | ⟨_ | _ | _⟩ <;> first | rfl | cases h

/-- A unit of work that holds no admission is over. -/
theorem Task.isOver_of_unit {task : Task} (unit : task.unit?.isSome) (released : task.held? = none) :
    task.isOver = true := by
  rcases task with _ | ⟨_, _ | _ | _ | _⟩ | _ <;> simp_all [unit?, held?, isOver]

theorem Task.unit_of_origin {old new : Task} (same : new.origin = old.origin) :
    new.unit? = old.unit? := by
  cases old <;> cases new <;> simp_all [origin, unit?]

namespace State

/-- Every task but one is over or a unit of work. -/
def Alone (s : State σ) (t : TaskId) : Prop :=
  ∀ (i : TaskId) (task : Task), s.tasks[i]? = some task → i ≠ t →
    task.isOver = true ∨ task.unit?.isSome

/-- Every task is over. -/
def Over (s : State σ) : Prop :=
  ∀ (i : TaskId) (task : Task), s.tasks[i]? = some task → task.isOver = true

/-- The store takes all finalization calls, at once or when it lets them go on. -/
def TakesFinalize (s : State σ) : Prop :=
  s.surroundings.finalizeMode.Takes ∧ s.surroundings.finalizePassage = .proceeds

/-- The store takes all finalization calls, sooner or later, and none has panicked. -/
structure Unbroken (s : State σ) : Prop where
  takes : s.TakesFinalize
  unbroken : ∀ entry ∈ s.deeds, entry.2 ≠ .broken

end State

variable {s s' : State σ} {t : TaskId}

/-- Where the store takes all finalization calls, each of them proceeds. -/
theorem State.TakesFinalize.proceeds (takes : s.TakesFinalize) {passage : Passage}
    (comes : s.FinalizeComes passage) : passage = .proceeds := by
  obtain ⟨mode, later⟩ := takes
  rcases comes with now | held
  · rw [now] at mode
    cases passage with
    | proceeds => rfl
    | fails | panics => simp [Passage.mode, CallMode.Takes] at mode
  · exact held.symm.trans later

/-- Tasks that are over are as they were after others have been let through. -/
theorem over_grants (through : List TaskId) {i : TaskId} {task : Task}
    (here : s.tasks[i]? = some task) (past : task.isOver = true) :
    (through.foldl State.grant s).tasks[i]? = some task := by
  rw [getElem?_grants, here]
  split
  · rw [Option.map_some, Task.grant_of_isOver past]
  · rfl

theorem State.Over.grants (h : s.Over) (through : List TaskId) :
    (through.foldl State.grant s).tasks = s.tasks := by
  refine List.ext_getElem? fun i => ?_
  cases here : s.tasks[i]? with
  | some task => exact over_grants through here (h i task here)
  | none =>
    rw [List.getElem?_eq_none_iff] at here ⊢
    rwa [length_grants]

theorem State.Alone.grants (h : s.Alone t) (through : List TaskId) :
    (through.foldl State.grant s).Alone t := by
  intro i task here other
  rw [getElem?_grants] at here
  split at here
  · obtain ⟨before, hbefore, rfl⟩ := Option.map_eq_some_iff.1 here
    rcases h i before hbefore other with past | unit
    · rw [Task.grant_of_isOver past]
      exact .inl past
    · exact .inr (before.unit?_grant ▸ unit)
  · exact h i task here other

/-! ## Moves -/

section Moves

theorem Advance.length_eq (move : Advance t s s') : s'.tasks.length = s.tasks.length := by
  cases move with
  | occupy | call | answered | unanswered => exact List.length_set
  | createPermit | finalizePermit => rfl

/-- The deeds that are added tell of no panic. -/
theorem State.Unbroken.add (h : s.Unbroken) (own : List (TaskId × Deed))
    (takes : s.TakesFinalize → s'.TakesFinalize)
    (deeds : s'.deeds = s.deeds ++ own) (fine : ∀ entry ∈ own, entry.2 ≠ .broken) :
    s'.Unbroken := by
  refine ⟨takes h.takes, fun entry mem => ?_⟩
  rw [deeds] at mem
  exact (List.mem_append.1 mem).elim (h.unbroken entry) (fine entry)

theorem State.Unbroken.of_eq (h : s.Unbroken) (takes : s.TakesFinalize → s'.TakesFinalize)
    (deeds : s'.deeds = s.deeds) : s'.Unbroken :=
  ⟨takes h.takes, deeds ▸ h.unbroken⟩

theorem State.Unbroken.advance (h : s.Unbroken) (move : Advance t s s') : s'.Unbroken := by
  cases move with
  | occupy | createPermit | call | finalizePermit => exact h.of_eq id rfl
  | @answered _ raw =>
    exact h.add [(t, .heard (.answers raw)), (t, .asked _)] id (List.append_assoc _ _ _) (by simp)
  | unanswered =>
    rw [unanswered_eq]
    exact h.add _ id rfl (by simp)

variable [PredictionStore σ]

theorem State.Unbroken.halt (h : s.Unbroken) (move : Halt t s s') : s'.Unbroken := by
  cases move with
  | asleep => exact h
  | unnamed | full | duplicate | launched | rolledBack | createPanicked | createHeld | gateHeld
  | finalizeHeld => exact h.of_eq id rfl
  | classifyPanicked => exact h.add [(t, .heard .panics)] id rfl (by simp)
  | finalizePanicked _ comes => cases h.takes.proceeds comes
  | written => exact h.add [(t, .told (.ok ()))] id rfl (by simp)
  | @unwritten _ _ error => exact h.add [(t, .told (.error error))] id rfl (by simp)
  | checked =>
    unfold State.checkIdle
    split <;> exact h.of_eq id rfl

/-- A task that a move adds is a unit of work. -/
theorem Halt.added (move : Halt t s s') {i : TaskId} {task : Task} (here : s'.tasks[i]? = some task)
    (new : s.tasks.length ≤ i) : task.unit?.isSome := by
  have absent : ∀ {replaced : Task}, s'.tasks ≠ s.tasks.set t replaced := by
    intro replaced tasks
    have lt := (List.getElem?_eq_some_iff.1 here).1
    rw [tasks, List.length_set] at lt
    exact Nat.not_le_of_lt lt new
  cases move with
  | asleep => exact absurd (List.getElem?_eq_some_iff.1 here).1 (Nat.not_lt_of_le new)
  | @launched submission record =>
    rcases cases_of_append rfl here with ⟨-, rfl⟩ | old
    · rfl
    · have lt : i < (s.tasks.set t _).length := (List.getElem?_eq_some_iff.1 old).1
      rw [List.length_set] at lt
      exact absurd new (Nat.not_le_of_lt lt)
  | checked =>
    unfold State.checkIdle at absent
    split at absent <;> exact absurd rfl absent
  | unnamed | full | duplicate | rolledBack | createPanicked | createHeld | gateHeld
  | classifyPanicked | finalizePanicked | written | unwritten | finalizeHeld =>
    exact absurd rfl absent

theorem Polled.added (poll : Polled t s s') {i : TaskId} {task : Task}
    (here : s'.tasks[i]? = some task) (new : s.tasks.length ≤ i) : task.unit?.isSome := by
  induction poll with
  | halt last => exact last.added here new
  | advance first _ ih => exact ih here (first.length_eq ▸ new)

theorem State.Unbroken.polled (h : s.Unbroken) (poll : Polled t s s') : s'.Unbroken := by
  induction poll with
  | halt last => exact h.halt last
  | advance first _ ih => exact ih (h.advance first)

/-! ## Polls -/

theorem State.Unbroken.step (h : s.Unbroken) (step : s.step? = some s') : s'.Unbroken := by
  obtain ⟨first, rest, -, rfl⟩ := State.poll_of_step? step
  have taken : State.Unbroken { s with ready := rest } := ⟨h.takes, h.unbroken⟩
  exact taken.polled (polled_poll _ first)

theorem State.Alone.step (h : s.Alone t) (step : s.step? = some s') : s'.Alone t := by
  intro i task here other
  obtain ⟨first, rest, -, next⟩ := State.poll_of_step? step
  have poll : Polled first { s with ready := rest } s' := next ▸ polled_poll _ first
  by_cases new : s.tasks.length ≤ i
  · exact .inr (poll.added here new)
  · have old := List.getElem?_eq_getElem (Nat.lt_of_not_le new)
    rcases h i _ old other with past | unit
    · have kept := step?_asleep step old (Task.asleep_of_isOver past)
      exact .inl (Option.some.inj (here.symm.trans kept) ▸ past)
    · have same := poll.grows.origin_eq old
      rw [origins_of_some here] at same
      rw [Task.unit_of_origin (Option.some.inj same)]
      exact .inr unit

/-- Where every task is over a poll does nothing. -/
theorem State.Over.step (h : s.Over) (step : s.step? = some s') :
    ∃ rest, s' = { s with ready := rest } := by
  obtain ⟨first, rest, -, rfl⟩ := State.poll_of_step? step
  refine ⟨rest, ?_⟩
  cases here : s.tasks[first]? with
  | some task => exact poll_asleep here (Task.asleep_of_isOver (h first task here))
  | none => rw [State.poll, here]

end Moves

end Predictor.Engine
