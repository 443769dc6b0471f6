import Predictor.Engine.Poll

/-!
Running until nothing can move. A submission or a unit of work has only so many polls ahead of it
that move it on, and every other poll only takes a task from the ready queue; so the pair of the work
ahead and the length of the queue goes down with every poll, and `settle` polls until the queue is
empty.
-/

namespace Predictor.Engine

open Telemetry

namespace Task

/-- A bound on the moves that a task has ahead, those of the unit of work it starts included. -/
def movesAhead : Task → Nat
  | .submit _ .new => 6
  | .submit _ (.creating _) => 5
  | .submit _ (.done _) => 0
  | .work _ .new => 4
  | .work _ (.classifying _) => 3
  | .work _ (.finalizing _ _) => 2
  | .work _ (.done _) => 0
  | .drain _ => 0

end Task

namespace State

variable {σ : Type}

def totalAhead : List Task → Nat
  | [] => 0
  | task :: rest => task.movesAhead + totalAhead rest

theorem totalAhead_append (front back : List Task) :
    totalAhead (front ++ back) = totalAhead front + totalAhead back := by
  induction front with
  | nil => simp [totalAhead]
  | cons task rest ih => simp [totalAhead, ih, Nat.add_assoc]

theorem totalAhead_set {tasks : List Task} {t : TaskId} {old : Task} (new : Task)
    (h : tasks[t]? = some old) :
    totalAhead (tasks.set t new) + old.movesAhead = totalAhead tasks + new.movesAhead := by
  induction tasks generalizing t with
  | nil => simp at h
  | cons first rest ih =>
    cases t with
    | zero =>
      simp only [List.getElem?_cons_zero, Option.some.injEq] at h
      subst h
      simp [totalAhead]
      omega
    | succ t =>
      simp only [List.getElem?_cons_succ] at h
      have := ih h
      simp only [totalAhead, List.set_cons_succ] at this ⊢
      omega

/-- From `s` to `s'` the task `t` changed and tasks were added; together they have at most `most`
moves ahead. -/
def Moves (s s' : State σ) (t : TaskId) (most : Nat) : Prop :=
  ∃ task added, s'.tasks = s.tasks.set t task ++ added ∧
    task.movesAhead + totalAhead added ≤ most

theorem Moves.totalAhead_lt {s s' : State σ} {t : TaskId} {most : Nat} {old : Task}
    (m : Moves s s' t most) (h : s.tasks[t]? = some old) (hlt : most < old.movesAhead) :
    totalAhead s'.tasks < totalAhead s.tasks := by
  obtain ⟨task, added, htasks, hle⟩ := m
  have hset := totalAhead_set task h
  rw [htasks]
  simp only [totalAhead_append] at hset hle ⊢
  omega

/-- A move stays one when the state it starts from is replaced by one with the same tasks. -/
theorem Moves.of_tasks_eq {s r s' : State σ} {t : TaskId} {most : Nat} (m : Moves r s' t most)
    (h : r.tasks = s.tasks) : Moves s s' t most := by
  obtain ⟨task, added, htasks, hle⟩ := m
  exact ⟨task, added, by rw [htasks, h], hle⟩

/-- A move stays one when the task itself was moved before. -/
theorem Moves.of_setTask {s r s' : State σ} {t : TaskId} {most : Nat} {before : Task}
    (m : Moves r s' t most) (h : r.tasks = s.tasks.set t before) : Moves s s' t most := by
  obtain ⟨task, added, htasks, hle⟩ := m
  exact ⟨task, added, by rw [htasks, h, List.set_set], hle⟩

theorem Moves.mono {s s' : State σ} {t : TaskId} {k l : Nat} (m : Moves s s' t k) (h : k ≤ l) :
    Moves s s' t l := by
  obtain ⟨task, added, htasks, hle⟩ := m
  exact ⟨task, added, htasks, Nat.le_trans hle h⟩

/-- Only the task itself changed. -/
theorem moves_set {s s' : State σ} {t : TaskId} {most : Nat} (task : Task)
    (h : s'.tasks = s.tasks.set t task) (hle : task.movesAhead ≤ most) : Moves s s' t most :=
  ⟨task, [], by simp [h], by simpa [totalAhead] using hle⟩

theorem moves_reject (s : State σ) (t : TaskId) (submission : Submission)
    (result : SubmissionResult) (error : Error) :
    Moves s (s.reject t submission result error) t 0 :=
  moves_set (.submit submission (.done _)) rfl (Nat.le_refl 0)

theorem moves_rollBack (s : State σ) (t : TaskId) (submission : Submission) (error : Error) :
    Moves s (s.rollBack t submission error) t 0 :=
  moves_set (.submit submission (.done _)) rfl (Nat.le_refl 0)

theorem moves_launch (s : State σ) (t : TaskId) (submission : Submission) (record : Prediction) :
    Moves s (s.launch t submission record) t 4 :=
  ⟨.submit submission (.done _), [.work _ .new], rfl, Nat.le_refl 4⟩

theorem moves_endWork (s : State σ) (t : TaskId) (w : Work) (status : Option Status)
    (panicked : Bool) : Moves s (s.endWork t w status panicked) t 0 :=
  moves_set (.work w (.done panicked)) rfl (Nat.le_refl 0)

theorem moves_finalized (s : State σ) (t : TaskId) (w : Work) (status : Status)
    (result : Except Error Unit) : Moves s (s.finalized t w status result) t 0 := by
  cases result with
  | ok _ => exact moves_set (.work w (.done false)) rfl (Nat.le_refl 0)
  | error _ => exact moves_set (.work w (.done false)) rfl (Nat.le_refl 0)

/-- A look at the counter changes no task that has moves ahead and makes nothing ready. -/
theorem checkIdle_keeps {s : State σ} {t : TaskId} {stage : DrainStage}
    (h : s.tasks[t]? = some (.drain stage)) :
    totalAhead (s.checkIdle t).tasks = totalAhead s.tasks ∧ (s.checkIdle t).ready = s.ready := by
  unfold checkIdle
  split
  · exact ⟨by simpa [setTask, Task.movesAhead] using totalAhead_set (.drain .done) h, rfl⟩
  · exact ⟨by simpa [setTask, Task.movesAhead] using totalAhead_set (.drain .waiting) h, rfl⟩

variable [PredictionStore σ]

theorem moves_create (s : State σ) (t : TaskId) (submission : Submission) :
    Moves s (s.create t submission) t 4 := by
  unfold create
  split
  · exact (moves_launch _ t submission _).of_tasks_eq rfl
  · exact ((moves_rollBack _ t submission _).of_tasks_eq rfl).mono (Nat.zero_le 4)

theorem moves_endCreate (s : State σ) (t : TaskId) (submission : Submission) (passage : Passage) :
    Moves s (s.endCreate t submission passage) t 4 := by
  cases passage with
  | proceeds => exact moves_create s t submission
  | fails => exact (moves_rollBack s t submission _).mono (Nat.zero_le 4)
  | panics => exact moves_set (.submit submission (.done .panicked)) rfl (Nat.zero_le 4)

theorem moves_callCreate (s : State σ) (t : TaskId) (submission : Submission) :
    Moves s (s.callCreate t submission) t 5 := by
  unfold callCreate
  split
  · exact (moves_endCreate s t submission _).mono (by omega)
  · exact (moves_endCreate s t submission _).mono (by omega)
  · exact (moves_endCreate s t submission _).mono (by omega)
  · dsimp only
    split
    · exact ((moves_endCreate _ t submission _).of_tasks_eq rfl).mono (by omega)
    · exact moves_set (.submit submission (.creating false)) rfl (Nat.le_refl 5)

theorem moves_requestAdmission (s : State σ) (t : TaskId) (submission : Submission) :
    Moves s (s.requestAdmission t submission) t 5 := by
  unfold requestAdmission
  split
  · exact (moves_reject s t submission _ _).mono (by omega)
  · split
    · exact (moves_reject s t submission _ _).mono (by omega)
    · dsimp only
      split
      · exact ((moves_reject _ t submission _ _).of_tasks_eq rfl).mono (by omega)
      · exact (moves_callCreate _ t submission).of_setTask rfl

theorem moves_finalize (s : State σ) (t : TaskId) (w : Work) (outcome : Outcome) :
    Moves s (s.finalize t w outcome) t 0 :=
  (moves_finalized _ t w _ _).of_tasks_eq rfl

theorem moves_endFinalize (s : State σ) (t : TaskId) (w : Work) (outcome : Outcome)
    (passage : Passage) : Moves s (s.endFinalize t w outcome passage) t 0 := by
  cases passage with
  | proceeds => exact moves_finalize s t w outcome
  | fails => exact moves_finalized s t w _ _
  | panics => exact moves_set (.work w (.done true)) rfl (Nat.le_refl 0)

theorem moves_callFinalize (s : State σ) (t : TaskId) (w : Work) (outcome : Outcome) :
    Moves s (s.callFinalize t w outcome) t 2 := by
  unfold callFinalize
  split
  · exact (moves_endFinalize s t w outcome _).mono (by omega)
  · exact (moves_endFinalize s t w outcome _).mono (by omega)
  · exact (moves_endFinalize s t w outcome _).mono (by omega)
  · dsimp only
    split
    · exact ((moves_endFinalize _ t w outcome _).of_tasks_eq rfl).mono (by omega)
    · exact moves_set (.work w (.finalizing outcome false)) rfl (Nat.le_refl 2)

theorem moves_hear (s : State σ) (t : TaskId) (w : Work) : Moves s (s.hear t w) t 2 := by
  unfold hear
  split
  · exact (moves_callFinalize _ t w _).of_setTask rfl
  · exact (moves_callFinalize _ t w _).of_setTask rfl
  · exact (moves_endWork s t w none true).mono (by omega)

theorem moves_callClassify (s : State σ) (t : TaskId) (w : Work) :
    Moves s (s.callClassify t w) t 3 := by
  unfold callClassify
  dsimp only
  split
  · exact ((moves_hear _ t w).of_setTask rfl).mono (by omega)
  · exact moves_set (.work w (.classifying _)) rfl (Nat.le_refl 3)

/-- A poll brings the end of the work ahead nearer, or it leaves both that and the queue alone. -/
theorem poll_progress (s : State σ) (t : TaskId) :
    totalAhead (s.poll t).tasks < totalAhead s.tasks ∨
      (totalAhead (s.poll t).tasks = totalAhead s.tasks ∧ (s.poll t).ready = s.ready) := by
  unfold poll
  split
  · rename_i submission h
    exact .inl ((moves_requestAdmission s t submission).totalAhead_lt h (by simp [Task.movesAhead]))
  · rename_i submission h
    exact .inl ((moves_endCreate s t submission _).totalAhead_lt h (by simp [Task.movesAhead]))
  · rename_i w h
    exact .inl ((moves_callClassify s t w).totalAhead_lt h (by simp [Task.movesAhead]))
  · rename_i w h
    exact .inl ((moves_hear s t w).totalAhead_lt h (by simp [Task.movesAhead]))
  · rename_i w outcome h
    exact .inl ((moves_endFinalize s t w outcome _).totalAhead_lt h (by simp [Task.movesAhead]))
  · rename_i h
    exact .inr (checkIdle_keeps h)
  · rename_i h
    exact .inr (checkIdle_keeps h)
  · exact .inr ⟨rfl, rfl⟩

/-- A step takes the first task from the ready queue and polls it. -/
theorem poll_of_step? {s s' : State σ} (h : s.step? = some s') :
    ∃ t rest, s.ready = t :: rest ∧ s' = { s with ready := rest }.poll t := by
  unfold step? at h
  split at h
  · simp at h
  · rename_i t rest ready
    exact ⟨t, rest, ready, (Option.some.inj h).symm⟩

theorem step?_progress {s s' : State σ} (h : s.step? = some s') :
    totalAhead s'.tasks < totalAhead s.tasks ∨
      (totalAhead s'.tasks = totalAhead s.tasks ∧ s'.ready.length < s.ready.length) := by
  obtain ⟨t, rest, hready, rfl⟩ := poll_of_step? h
  rcases poll_progress { s with ready := rest } t with hlt | ⟨heq, hready'⟩
  · exact .inl hlt
  · exact .inr ⟨heq, by rw [hready', hready]; simp⟩

/-- Polls in the order of the ready queue until no task can move. -/
def settle (s : State σ) : State σ :=
  match _h : s.step? with
  | none => s
  | some s' => settle s'
termination_by (totalAhead s.tasks, s.ready.length)
decreasing_by
  rcases step?_progress _h with hlt | ⟨heq, hlt⟩
  · exact Prod.Lex.left _ _ hlt
  · rw [heq]; exact Prod.Lex.right _ hlt

theorem settle_atRest (s : State σ) : s.settle.AtRest := by
  fun_induction settle s with
  | case1 s h =>
    unfold step? at h
    split at h
    · assumption
    · simp at h
  | case2 s s' h ih => exact ih

end State

end Predictor.Engine
