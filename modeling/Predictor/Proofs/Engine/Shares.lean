import Predictor.Proofs.Engine.Alike
import Predictor.Proofs.Engine.Deeds

/-!
Which measurements a unit of work makes: its deeds determine them (`sharesOf`), and what has been
measured is what admissions and units of work have measured (`Metered`).
-/

namespace Predictor.Engine

open Telemetry

variable {σ : Type}

/-- What a unit of work measures in the course of its deeds. -/
def sharesOf : List Deed → List Measurement
  | .heard (.answers _) :: rest => .classified none :: sharesOf rest
  | .heard (.fails error) :: rest => .classified (some error.kind) :: sharesOf rest
  | .asked outcome :: .told (.ok _) :: rest => .finalized outcome.status :: sharesOf rest
  | .told (.error _) :: rest => .finalizeFailure :: sharesOf rest
  | _ :: rest => sharesOf rest
  | [] => []

/-- What the units of work of these tasks have measured. -/
def State.sharesFor (s : State σ) (mine : TaskId → Bool) : List Measurement :=
  ((List.range s.tasks.length).filter mine).flatMap fun t => sharesOf (s.deedsOf t)

/-- What has been measured apart from admissions is what the units of work have measured. -/
def Metered (s : State σ) : Prop :=
  (s.measured.filter fun m => !m.ofAdmission).Perm
    ((List.range s.tasks.length).flatMap fun t => sharesOf (s.deedsOf t))

/-! ## Shares and deeds -/

theorem Did.shares_heard {table : LabelTable} {w : Work} {g : Bool} {deeds : List Deed}
    (h : Did table (.work w (.classifying g)) deeds) (own : List Deed) :
    sharesOf (deeds ++ own) = sharesOf deeds ++ sharesOf own := by
  cases h
  rfl

theorem Did.shares_told {table : LabelTable} {w : Work} {outcome : Outcome} {g : Bool}
    {deeds : List Deed} (h : Did table (.work w (.finalizing outcome g)) deeds)
    (result : Except Error Unit) :
    sharesOf (deeds ++ [.told result]) = sharesOf deeds ++
      match result with
      | .ok _ => [.finalized outcome.status]
      | .error _ => [.finalizeFailure] := by
  cases h with
  | finalizing w answer g => cases answer <;> cases result <;> rfl

theorem Did.shares_broken {table : LabelTable} {w : Work} {outcome : Outcome} {g : Bool}
    {deeds : List Deed} (h : Did table (.work w (.finalizing outcome g)) deeds) :
    sharesOf (deeds ++ [.broken]) = sharesOf deeds := by
  cases h with
  | finalizing w answer g => cases answer <;> rfl

/-! ## Changes -/

/-- One of the lists that are strung together gets longer. -/
theorem perm_flatMap_update {α β : Type} [DecidableEq α] {f g : α → List β} {a : α} {more : List β}
    {l : List α} (distinct : l.Nodup) (mem : a ∈ l) (own : g a = f a ++ more)
    (others : ∀ b ∈ l, b ≠ a → g b = f b) : (l.flatMap g).Perm (l.flatMap f ++ more) := by
  induction l with
  | nil => cases mem
  | cons b rest ih =>
    obtain ⟨fresh, distinct⟩ := List.nodup_cons.1 distinct
    rw [List.flatMap_cons, List.flatMap_cons]
    by_cases hit : b = a
    · subst hit
      have same : rest.flatMap g = rest.flatMap f :=
        List.flatMap_congr fun c hc =>
          others c (List.mem_cons_of_mem _ hc) fun heq => fresh (heq ▸ hc)
      rw [own, same, List.append_assoc, List.append_assoc]
      exact List.perm_append_comm.append_left _
    · rw [others b List.mem_cons_self hit, List.append_assoc]
      exact (ih distinct (List.mem_of_ne_of_mem (Ne.symm hit) mem) fun c hc =>
        others c (List.mem_cons_of_mem _ hc)).append_left _

section Changes

variable {s s' : State σ} {t : TaskId} {old : Task}

/-- Nothing is done; tasks may have been added. -/
theorem Metered.still (h : Metered s) (recorded : Recorded s)
    (grown : s.tasks.length ≤ s'.tasks.length) (deeds : s'.deeds = s.deeds)
    (ms : List Measurement) (measured : s'.measured = s.measured ++ ms)
    (apart : ms.all Measurement.ofAdmission = true) : Metered s' := by
  obtain ⟨added, length⟩ := Nat.exists_eq_add_of_le grown
  have same (i : TaskId) : s'.deedsOf i = s.deedsOf i := by
    rw [State.deedsOf, deeds, State.deedsOf]
  have none_new : (ms.filter fun m => !m.ofAdmission) = [] :=
    List.filter_eq_nil_iff.2 fun m hm => by simp [List.all_eq_true.1 apart m hm]
  have idle : ((List.range added).map (s.tasks.length + ·)).flatMap
      (fun i => sharesOf (s.deedsOf i)) = [] := by
    refine List.flatMap_eq_nil_iff.2 fun i hi => ?_
    obtain ⟨k, -, rfl⟩ := List.mem_map.1 hi
    rw [recorded.idle (Nat.le_add_right _ k), sharesOf]
  unfold Metered
  simp only [measured, List.filter_append, none_new, List.append_nil, length, List.range_add,
    List.flatMap_append, same, idle]
  exact h

/-- A task does something, and measures its share. -/
theorem Metered.did (h : Metered s) (here : s.tasks[t]? = some old)
    (length : s'.tasks.length = s.tasks.length) (own : List Deed)
    (deeds : s'.deeds = s.deeds ++ own.map fun deed => (t, deed)) (ms : List Measurement)
    (measured : s'.measured = s.measured ++ ms)
    (share : sharesOf (s.deedsOf t ++ own) =
      sharesOf (s.deedsOf t) ++ ms.filter fun m => !m.ofAdmission) : Metered s' := by
  have split (i : TaskId) :
      s'.deedsOf i = s.deedsOf i ++ deedsIn i (own.map fun deed => (t, deed)) := by
    rw [State.deedsOf, deeds, deedsIn_append, State.deedsOf]
  have more := perm_flatMap_update (f := fun i => sharesOf (s.deedsOf i))
    (g := fun i => sharesOf (s'.deedsOf i)) List.nodup_range
    (List.mem_range.2 (List.getElem?_eq_some_iff.1 here).1)
    ((congrArg sharesOf ((split t).trans (by rw [deedsIn_own]))).trans share)
    fun i _ other => congrArg sharesOf ((split i).trans (by rw [deedsIn_other other, List.append_nil]))
  unfold Metered
  rw [measured, List.filter_append, length]
  exact (h.append_right _).trans more.symm

theorem Metered.of_grants (through : List TaskId) (h : Metered s) :
    Metered (through.foldl State.grant s) := by
  unfold Metered State.deedsOf
  rw [grants_eq, length_grants]
  exact h

theorem Metered.grantNext (h : Metered s) (next : Option TaskId) : Metered (s.grantNext next) := by
  rw [grantNext_eq]
  exact h.of_grants next.toList

end Changes

variable {s s' : State σ} {t : TaskId}

/-! ## Two groups of tasks -/

theorem Metered.perm (h : Metered s) (mine : TaskId → Bool) :
    s.measured.Perm (s.measured.filter Measurement.ofAdmission ++
      s.sharesFor (fun t => !mine t) ++ s.sharesFor mine) := by
  have units : (s.measured.filter fun m => !m.ofAdmission).Perm
      (s.sharesFor (fun t => !mine t) ++ s.sharesFor mine) := by
    refine h.trans ?_
    rw [State.sharesFor, State.sharesFor, ← List.flatMap_append]
    exact ((List.filter_append_perm mine _).symm.trans List.perm_append_comm).flatMap_right _
  rw [List.append_assoc]
  exact (List.filter_append_perm Measurement.ofAdmission s.measured).symm.trans
    (units.append_left _)

theorem deedsIn_filter {mine : TaskId → Bool} (other : mine t = false)
    (entries : List (TaskId × Deed)) :
    deedsIn t (entries.filter fun entry => !mine entry.1) = deedsIn t entries := by
  rw [deedsIn, List.filterMap_filter, deedsIn]
  refine List.filterMap_congr fun entry _ => ?_
  by_cases own : entry.1 = t
  · simp [own, other]
  · simp [own]

/-! ## Runs -/

theorem Metered.advance (h : Metered s) (recorded : Recorded s) (move : Advance t s s') :
    Metered s' := by
  cases move with
  | occupy => exact h.still recorded List.length_set.ge rfl [.inFlight true] rfl rfl
  | createPermit | finalizePermit => exact h.still recorded le_rfl rfl [] (List.append_nil _).symm rfl
  | call => exact h.still recorded List.length_set.ge rfl [] (List.append_nil _).symm rfl
  | @answered w raw here =>
    exact h.did here List.length_set [.heard (.answers raw), .asked _] (List.append_assoc _ _ _)
      [.classified none] rfl ((recorded.did here).shares_heard _)
  | @unanswered w error here =>
    rw [unanswered_eq]
    exact h.did here List.length_set [.heard (.fails error), .asked _] rfl
      [.classified (some error.kind)] rfl ((recorded.did here).shares_heard _)

variable [PredictionStore σ]

theorem Metered.halt (h : Metered s) (recorded : Recorded s) (move : Halt t s s') :
    Metered s' := by
  cases move with
  | asleep => exact h
  | unnamed | full | duplicate =>
    exact h.still recorded List.length_set.ge rfl [.submitted _] rfl rfl
  | @launched submission record store =>
    have grown : s.tasks.length ≤
        (State.launch { s with store } t submission record).tasks.length := by
      show _ ≤ (s.tasks.set t _ ++ [_]).length
      rw [List.length_append, List.length_set]
      exact Nat.le_add_right _ _
    exact h.still recorded grown rfl [.submitted .admitted] rfl rfl
  | rolledBack =>
    exact h.still recorded List.length_set.ge rfl [.inFlight false, .submitted .error]
      (List.append_assoc _ _ _) rfl
  | createPanicked => exact h.still recorded List.length_set.ge rfl [.inFlight false] rfl rfl
  | createHeld | gateHeld | finalizeHeld =>
    exact h.still recorded List.length_set.ge rfl [] (List.append_nil _).symm rfl
  | classifyPanicked here =>
    exact h.did here List.length_set [.heard .panics] rfl [.inFlight false] rfl
      ((recorded.did here).shares_heard _)
  | finalizePanicked here =>
    exact h.did here List.length_set [.broken] rfl [.inFlight false] rfl
      ((recorded.did here).shares_broken.trans (List.append_nil _).symm)
  | @written w outcome _ here =>
    exact h.did here List.length_set [.told (.ok ())] rfl [.finalized outcome.status, .inFlight false]
      (List.append_assoc _ _ _) ((recorded.did here).shares_told _)
  | @unwritten _ _ error _ here =>
    exact h.did here List.length_set [.told (.error error)] rfl [.finalizeFailure, .inFlight false]
      (List.append_assoc _ _ _) ((recorded.did here).shares_told _)
  | checked =>
    unfold State.checkIdle
    split <;> exact h.still recorded List.length_set.ge rfl [] (List.append_nil _).symm rfl

theorem Metered.outside (h : Metered s) (recorded : Recorded s) (move : Outside s s') :
    Metered s' := by
  have nothing : s.measured = s.measured ++ [] := (List.append_nil _).symm
  cases move with
  | submit | drain =>
    exact h.still recorded (List.length_append ▸ Nat.le_add_right _ _) rfl [] nothing rfl
  | cancelNew => exact h.still recorded List.length_set.ge rfl [] nothing rfl
  | cancelWaiting | cancelGranted =>
    exact h.still recorded List.length_set.ge rfl [.inFlight false] rfl rfl
  | passCreate | passFinalize | passGate =>
    refine Metered.grantNext ?_ _
    exact h.still recorded le_rfl rfl [] nothing rfl
  | openGates =>
    refine Metered.of_grants _ ?_
    exact h.still recorded le_rfl rfl [] nothing rfl
  | behave | setCreateMode | setFinalizeMode | setCreatePassage | setFinalizePassage | createDirectly
  | finalizeDirectly =>
    exact h.still recorded le_rfl rfl [] nothing rfl

theorem Metered.transition (h : Metered s) (recorded : Recorded s) (move : Transition s s') :
    Metered s' := by
  cases move with
  | take => exact h.still recorded le_rfl rfl [] (List.append_nil _).symm rfl
  | advance first => exact h.advance recorded first
  | halt last => exact h.halt recorded last
  | outside move => exact h.outside recorded move

omit [PredictionStore σ] in
theorem metered_start (capacity : UInt64) (table : LabelTable) (store : σ)
    (surroundings : Surroundings) (freshIds : Nat → PredictionId) :
    Metered (State.start capacity table store surroundings freshIds) :=
  .nil

theorem metered_of_reachable {capacity : UInt64} {table : LabelTable} {store : σ}
    {surroundings : Surroundings} {freshIds : Nat → PredictionId}
    (h : Reachable (State.start capacity table store surroundings freshIds) s) : Metered s := by
  have both := h.invariant (P := fun r => Recorded r ∧ Metered r)
    ⟨recorded_start .., metered_start ..⟩ fun move ⟨recorded, metered⟩ =>
      ⟨recorded.transition move, metered.transition recorded move⟩
  exact both.2

end Predictor.Engine
