import Mathlib.Data.List.Nodup
import Predictor.Proofs.Engine.Effect
import Predictor.Store.Memory

/-!
The admission counter, the set of claimed resources and the admissions that tasks hold always agree.
`Admission.Sound` is what the counter and the set keep by themselves, as long as nothing is released
that is not claimed; `Accounted` ties them to the tasks, and so gives that promise.
-/

namespace Predictor.Engine

open Telemetry

/-! ## The counter and the set -/

namespace CounterUse

/-- Counting up needs a free slot, and counting down needs a slot in use. -/
def Safe (capacity : UInt64) (use : CounterUse) : Prop :=
  match use.operation with
  | .reserve => use.found < capacity
  | .unreserve => 1 ≤ use.found
  | .release => 1 ≤ use.found

/-- The counter has moved by exactly one: nothing wrapped around. -/
def Exact (use : CounterUse) : Prop :=
  match use.operation with
  | .reserve => (use.operation.apply use.found).toNat = use.found.toNat + 1
  | .unreserve => (use.operation.apply use.found).toNat + 1 = use.found.toNat
  | .release => (use.operation.apply use.found).toNat + 1 = use.found.toNat

theorem add_one_toNat {n capacity : UInt64} (h : n < capacity) : (n + 1).toNat = n.toNat + 1 := by
  have hlt := UInt64.lt_iff_toNat_lt.1 h
  have hcap := capacity.toNat_lt
  rw [UInt64.toNat_add, UInt64.toNat_one]
  omega

theorem sub_one_toNat {n : UInt64} (h : 1 ≤ n) : (n - 1).toNat + 1 = n.toNat := by
  have hle := UInt64.le_iff_toNat_le.1 h
  rw [UInt64.toNat_sub_of_le _ _ h, UInt64.toNat_one]
  exact Nat.sub_add_cancel hle

theorem Safe.exact {capacity : UInt64} {use : CounterUse} (h : use.Safe capacity) : use.Exact := by
  obtain ⟨operation, found⟩ := use
  cases operation with
  | reserve => exact add_one_toNat h
  | unreserve => exact sub_one_toNat h
  | release => exact sub_one_toNat h

/-- Each use found what the one before it left, from the first value to the last. -/
def Chain (first : UInt64) : List CounterUse → UInt64 → Prop
  | [], last => first = last
  | use :: rest, last => use.found = first ∧ Chain (use.operation.apply use.found) rest last

theorem Chain.concat {first last : UInt64} {uses : List CounterUse} (h : Chain first uses last)
    (operation : CounterOperation) :
    Chain first (uses ++ [⟨operation, last⟩]) (operation.apply last) := by
  induction uses generalizing first with
  | nil => exact ⟨h.symm, rfl⟩
  | cons use rest ih => exact ⟨h.1, ih h.2⟩

end CounterUse

namespace Admission

structure Sound (a : Admission) : Prop where
  distinct : a.claimed.Nodup
  counted : a.inFlight.toNat = a.claimed.length
  bounded : a.inFlight ≤ a.capacity
  safe : ∀ use ∈ a.uses, use.Safe a.capacity
  chain : CounterUse.Chain 0 a.uses a.inFlight

theorem sound_empty (capacity : UInt64) : (empty capacity).Sound where
  distinct := List.nodup_nil
  counted := rfl
  bounded := UInt64.zero_le
  safe := by simp [empty]
  chain := rfl

variable {a : Admission} {resource : String}

theorem lt_capacity (free : a.atCapacity = false) : a.inFlight < a.capacity := by
  simpa [atCapacity] using free

/-- A use of the counter is safe if it is where it happens. -/
theorem safe_count {used : CounterOperation} (safe : ∀ use ∈ a.uses, use.Safe a.capacity)
    (here : CounterUse.Safe a.capacity ⟨used, a.inFlight⟩) :
    ∀ use ∈ (a.count used).uses, use.Safe a.capacity := by
  intro use huse
  rcases List.mem_append.1 huse with hold | hnew
  · exact safe use hold
  · obtain rfl := List.mem_singleton.1 hnew
    exact here

/-- A claim succeeds on a resource that is not claimed. -/
theorem claim?_reserve {a' : Admission} (claims : a.reserve.claim? resource = some a') :
    resource ∉ a.claimed ∧ a' = { a.reserve with claimed := a.claimed ++ [resource] } := by
  unfold claim? at claims
  split at claims
  · simp at claims
  · rename_i unclaimed
    exact ⟨fun hmem => unclaimed (List.contains_iff_mem.2 hmem), (Option.some.inj claims).symm⟩

theorem Sound.occupy {a' : Admission} (h : a.Sound) (free : a.atCapacity = false)
    (claims : a.reserve.claim? resource = some a') : a'.Sound := by
  obtain ⟨hnew, rfl⟩ := claim?_reserve claims
  have hcount := CounterUse.add_one_toNat (lt_capacity free)
  exact {
    distinct := List.Nodup.append h.distinct (List.nodup_singleton _)
      (List.disjoint_singleton.2 hnew)
    counted := by
      rw [List.length_append, ← h.counted]
      exact hcount
    bounded := UInt64.le_iff_toNat_le.2 (hcount ▸ UInt64.lt_iff_toNat_lt.1 (lt_capacity free))
    safe := safe_count h.safe (lt_capacity free)
    chain := h.chain.concat .reserve }

/-- A reservation that is taken back leaves the counter as it was. -/
theorem unreserve_reserve (a : Admission) : a.reserve.unreserve.inFlight = a.inFlight :=
  UInt64.add_sub_cancel _ _

theorem Sound.takeBack (h : a.Sound) (free : a.atCapacity = false) :
    a.reserve.unreserve.Sound := by
  have hcount := CounterUse.add_one_toNat (lt_capacity free)
  have hone : 1 ≤ a.inFlight + 1 := UInt64.le_iff_toNat_le.2 (by rw [hcount]; simp)
  exact {
    distinct := h.distinct
    counted := by
      rw [unreserve_reserve]
      exact h.counted
    bounded := by
      rw [unreserve_reserve]
      exact h.bounded
    safe := safe_count (safe_count h.safe (lt_capacity free)) hone
    chain := (h.chain.concat .reserve).concat .unreserve }

theorem Sound.release (h : a.Sound) (claimed : resource ∈ a.claimed) :
    (a.release resource).Sound := by
  have hpos := List.length_pos_of_mem claimed
  have hone : 1 ≤ a.inFlight := UInt64.le_iff_toNat_le.2 (by rw [h.counted]; exact hpos)
  have hcount : (a.release resource).inFlight.toNat + 1 = a.inFlight.toNat :=
    CounterUse.sub_one_toNat hone
  exact {
    distinct := h.distinct.erase _
    counted := by
      have hlen := List.length_erase_of_mem claimed
      have hcounted := h.counted
      show (a.release resource).inFlight.toNat = (a.claimed.erase resource).length
      omega
    bounded := by
      have hbounded := UInt64.le_iff_toNat_le.1 h.bounded
      refine UInt64.le_iff_toNat_le.2 (Nat.le_trans ?_ hbounded)
      omega
    safe := safe_count h.safe hone
    chain := h.chain.concat .release }

end Admission

/-! ## The admissions that tasks hold -/

variable {σ : Type}

/-- Task `t` holds the admission of a resource. -/
def State.Holds (s : State σ) (t : TaskId) (resource : String) : Prop :=
  ∃ task, s.tasks[t]? = some task ∧ task.held? = some resource

structure Accounted (s : State σ) : Prop where
  sound : s.admission.Sound
  claims : ∀ resource, resource ∈ s.admission.claimed ↔ ∃ t, s.Holds t resource
  single : ∀ {t t' resource}, s.Holds t resource → s.Holds t' resource → t = t'
  turns : s.turns true = s.turns false + s.admission.claimed.length

theorem Carries.held_eq {old new : Task} {es : List Event} (h : Carries old new es) :
    new.held? = old.held? := by
  cases h <;> rfl

theorem Finishes.held_eq_none {old new : Task} {es : List Event} (h : Finishes old new es) :
    new.held? = none := by
  cases h <;> rfl

section Holders

variable {s s' : State σ} {t : TaskId} {old new : Task}

theorem Holds.here {resource : String} (here : s.tasks[t]? = some old)
    (held : old.held? = some resource) : s.Holds t resource :=
  ⟨old, here, held⟩

theorem holds_iff_of_some (here : s.tasks[t]? = some old) (resource : String) :
    s.Holds t resource ↔ old.held? = some resource := by
  constructor
  · rintro ⟨task, htask, hheld⟩
    obtain rfl := Option.some.inj (here.symm.trans htask)
    exact hheld
  · exact Holds.here here

theorem holds_set_self (here : s.tasks[t]? = some old) (tasks : s'.tasks = s.tasks.set t new)
    (resource : String) : s'.Holds t resource ↔ new.held? = some resource := by
  exact holds_iff_of_some (getElem?_of_set_self tasks here) resource

theorem holds_set_ne (tasks : s'.tasks = s.tasks.set t new) {i : TaskId} (hi : i ≠ t)
    (resource : String) : s'.Holds i resource ↔ s.Holds i resource := by
  rw [State.Holds, State.Holds, getElem?_of_set_ne tasks hi]

theorem holds_carry (here : s.tasks[t]? = some old) (same : new.held? = old.held?)
    (tasks : s'.tasks = s.tasks.set t new) (i : TaskId) (resource : String) :
    s'.Holds i resource ↔ s.Holds i resource := by
  by_cases hi : i = t
  · subst hi
    rw [holds_set_self here tasks, holds_iff_of_some here, same]
  · exact holds_set_ne tasks hi resource

theorem holds_occupy {claimed : String} (here : s.tasks[t]? = some old)
    (before : old.held? = none) (after : new.held? = some claimed)
    (tasks : s'.tasks = s.tasks.set t new) (i : TaskId) (resource : String) :
    s'.Holds i resource ↔ s.Holds i resource ∨ i = t ∧ resource = claimed := by
  by_cases hi : i = t
  · subst hi
    simp [holds_set_self here tasks, holds_iff_of_some here, before, after, eq_comm]
  · simp [holds_set_ne tasks hi resource, hi]

theorem holds_finish (here : s.tasks[t]? = some old) (after : new.held? = none)
    (tasks : s'.tasks = s.tasks.set t new) (i : TaskId) (resource : String) :
    s'.Holds i resource ↔ i ≠ t ∧ s.Holds i resource := by
  by_cases hi : i = t
  · subst hi
    simp [holds_set_self here tasks, after]
  · simp [holds_set_ne tasks hi resource, hi]

theorem holds_launch {added : Task} {claimed : String} (here : s.tasks[t]? = some old)
    (after : new.held? = none) (launched : added.held? = some claimed)
    (tasks : s'.tasks = s.tasks.set t new ++ [added]) (i : Nat) (resource : String) :
    s'.Holds i resource ↔
      i ≠ t ∧ s.Holds i resource ∨ i = s.tasks.length ∧ resource = claimed := by
  by_cases hi : i = s.tasks.length
  · subst hi
    have hnone : ¬ s.Holds s.tasks.length resource := by simp [State.Holds]
    simp [holds_iff_of_some (getElem?_launch_length tasks), hnone, launched, eq_comm]
  · have hside := getElem?_launch_ne tasks hi
    let ended : State σ := { s with tasks := s.tasks.set t new }
    have hfinish : ended.Holds i resource ↔ i ≠ t ∧ s.Holds i resource :=
      holds_finish here after rfl i resource
    simp only [State.Holds, hside, hi, false_and, or_false, ended] at hfinish ⊢
    exact hfinish

end Holders

theorem accounted_start (capacity : UInt64) (table : LabelTable) (store : σ)
    (surroundings : Surroundings) (freshIds : Nat → PredictionId) :
    Accounted (State.start capacity table store surroundings freshIds) where
  sound := Admission.sound_empty capacity
  claims := by simp [State.start, Admission.empty, State.Holds]
  single := by simp [State.start, State.Holds]
  turns := rfl

/-- Where the same tasks hold the same admissions, the account stays. -/
theorem Accounted.of_holds {s s' : State σ} (h : Accounted s)
    (holds : ∀ t resource, s'.Holds t resource ↔ s.Holds t resource)
    (sound : s'.admission.Sound) (claimed : s'.admission.claimed = s.admission.claimed)
    (turns : ∀ up, s'.turns up = s.turns up) : Accounted s' where
  sound := sound
  claims resource := by simp only [claimed, h.claims, holds]
  single ht ht' := h.single ((holds _ _).1 ht) ((holds _ _).1 ht')
  turns := by rw [turns, turns, claimed, h.turns]

/-- An admission begins: nobody held its resource before. -/
theorem Accounted.occupied {s s' : State σ} {t : TaskId} {resource : String} (h : Accounted s)
    (holds : ∀ i r, s'.Holds i r ↔ s.Holds i r ∨ i = t ∧ r = resource)
    (sound : s'.admission.Sound) (new : resource ∉ s.admission.claimed)
    (claimed : s'.admission.claimed = s.admission.claimed ++ [resource])
    (up : s'.turns true = s.turns true + 1) (down : s'.turns false = s.turns false) :
    Accounted s' := by
  have free : ∀ i, ¬ s.Holds i resource := fun i hi => new ((h.claims _).2 ⟨i, hi⟩)
  refine ⟨sound, fun r => ?_, fun {i j r} hi hj => ?_, ?_⟩
  · simp [claimed, holds, h.claims, exists_or]
  · rcases (holds i r).1 hi with hi | ⟨rfl, rfl⟩ <;> rcases (holds j r).1 hj with hj | ⟨rfl, hr⟩
    · exact h.single hi hj
    · exact absurd (hr ▸ hi) (free i)
    · exact absurd hj (free j)
    · rfl
  · rw [up, down, claimed, List.length_append, h.turns]
    simp
    omega

/-- An admission passes from one task to another. -/
theorem Accounted.passed {s s' : State σ} {t t' : TaskId} {resource : String} (h : Accounted s)
    (here : ∀ r, s.Holds t r ↔ r = resource) (vacant : ∀ r, ¬ s.Holds t' r)
    (holds : ∀ i r, s'.Holds i r ↔ i ≠ t ∧ s.Holds i r ∨ i = t' ∧ r = resource)
    (admission : s'.admission = s.admission) (turns : ∀ up, s'.turns up = s.turns up) :
    Accounted s' := by
  refine ⟨admission ▸ h.sound, fun r => ?_, fun {i j r} hi hj => ?_, ?_⟩
  · rw [admission, h.claims]
    by_cases hr : r = resource
    · subst hr
      exact ⟨fun _ => ⟨t', (holds _ _).2 (.inr ⟨rfl, rfl⟩)⟩, fun _ => ⟨t, (here r).2 rfl⟩⟩
    · simp only [holds, hr, and_false, or_false]
      constructor
      · rintro ⟨i, hi⟩
        refine ⟨i, ?_, hi⟩
        rintro rfl
        exact hr ((here r).1 hi)
      · rintro ⟨i, -, hi⟩
        exact ⟨i, hi⟩
  · have other : ∀ i, i ≠ t → s.Holds i r → r ≠ resource := by
      rintro i hne hi rfl
      exact hne (h.single hi ((here r).2 rfl))
    rcases (holds i r).1 hi with ⟨hit, hi⟩ | ⟨rfl, hir⟩ <;>
      rcases (holds j r).1 hj with ⟨hjt, hj⟩ | ⟨rfl, hjr⟩
    · exact h.single hi hj
    · exact absurd hjr (other i hit hi)
    · exact absurd hir (other j hjt hj)
    · rfl
  · rw [turns, turns, admission, h.turns]

/-- An admission is given back. -/
theorem Accounted.released {s s' : State σ} {t : TaskId} {resource : String} (h : Accounted s)
    (here : ∀ r, s.Holds t r ↔ r = resource)
    (holds : ∀ i r, s'.Holds i r ↔ i ≠ t ∧ s.Holds i r)
    (admission : s'.admission = s.admission.release resource)
    (up : s'.turns true = s.turns true) (down : s'.turns false = s.turns false + 1) :
    Accounted s' := by
  have hmem : resource ∈ s.admission.claimed := (h.claims _).2 ⟨t, (here _).2 rfl⟩
  have hclaimed : s'.admission.claimed = s.admission.claimed.erase resource := by
    rw [admission]
    rfl
  refine ⟨admission ▸ h.sound.release hmem, fun r => ?_, fun {i j r} hi hj => ?_, ?_⟩
  · rw [hclaimed, h.sound.distinct.mem_erase_iff, h.claims]
    constructor
    · rintro ⟨hr, i, hi⟩
      refine ⟨i, (holds i r).2 ⟨?_, hi⟩⟩
      rintro rfl
      exact hr ((here r).1 hi)
    · rintro ⟨i, hi⟩
      obtain ⟨hit, hi⟩ := (holds i r).1 hi
      refine ⟨?_, i, hi⟩
      rintro rfl
      exact hit (h.single hi ((here r).2 rfl))
  · exact h.single ((holds i r).1 hi).2 ((holds j r).1 hj).2
  · have hpos := List.length_pos_of_mem hmem
    rw [up, down, hclaimed, List.length_erase_of_mem hmem, h.turns]
    omega

theorem Accounted.effect {s s' : State σ} (e : Effect s s') (h : Accounted s) : Accounted s' := by
  cases e with
  | inert admission _ turns events kept old =>
    have holds : ∀ t resource, s'.Holds t resource ↔ s.Holds t resource := by
      intro t resource
      constructor
      · rintro ⟨task, htask, hheld⟩
        exact ⟨task, old t task htask (.inl (by simp [hheld])), hheld⟩
      · rintro ⟨task, htask, hheld⟩
        exact ⟨task, kept t task htask (.inl (by simp [hheld])), hheld⟩
    rcases admission with same | ⟨free, back⟩
    · exact h.of_holds holds (same ▸ h.sound) (by rw [same]) turns
    · exact h.of_holds holds (back ▸ h.sound.takeBack free) (by rw [back]; rfl) turns
  | occupy here free claims tasks _ up down =>
    obtain ⟨hnew, hadmission⟩ := Admission.claim?_reserve claims
    exact h.occupied (holds_occupy here rfl rfl tasks) (h.sound.occupy free claims) hnew
      (by rw [hadmission]) up down
  | carry here carries admission tasks _ turns =>
    exact h.of_holds (holds_carry here carries.held_eq tasks) (admission ▸ h.sound)
      (by rw [admission]) turns
  | @launch t submission _ w here about admission tasks _ turns =>
    have launched : (Task.work w .new).held? = some submission.resource := congrArg some about
    have hhere : ∀ r, s.Holds t r ↔ r = submission.resource := fun r => by
      simp [holds_iff_of_some here, Task.held?, eq_comm]
    exact h.passed hhere (fun r => by simp [State.Holds])
      (holds_launch here rfl launched tasks) admission turns
  | @finish t _ _ resource _ here finishes held admission tasks _ up down =>
    have hhere : ∀ r, s.Holds t r ↔ r = resource := fun r => by
      simp [holds_iff_of_some here, held, eq_comm]
    exact h.released hhere (holds_finish here finishes.held_eq_none tasks) admission up down

/-! ## Every run -/

/-- Task `t` is in a classification call for a resource. -/
def State.Classifies (s : State σ) (t : TaskId) (resource : String) : Prop :=
  ∃ w granted, s.tasks[t]? = some (.work w (.classifying granted)) ∧ w.resource = resource

theorem State.Classifies.holds {s : State σ} {t : TaskId} {resource : String}
    (h : s.Classifies t resource) : s.Holds t resource := by
  obtain ⟨w, granted, here, rfl⟩ := h
  exact ⟨_, here, rfl⟩

theorem mem_live {s : State σ} {resource : String} :
    resource ∈ s.live ↔ ∃ t, s.Holds t resource := by
  rw [State.live, List.mem_filterMap]
  constructor
  · rintro ⟨task, hmem, hheld⟩
    obtain ⟨t, htask⟩ := List.mem_iff_getElem?.1 hmem
    exact ⟨t, task, htask, hheld⟩
  · rintro ⟨t, task, htask, hheld⟩
    exact ⟨task, List.mem_of_getElem? htask, hheld⟩

theorem Accounted.nodup_live {s : State σ} (h : Accounted s) : s.live.Nodup := by
  refine List.pairwise_filterMap.2 (List.pairwise_iff_getElem.2 fun i j hi hj hij => ?_)
  rintro r hr r' hr' rfl
  have hi' : s.Holds i r := ⟨_, List.getElem?_eq_getElem hi, hr⟩
  have hj' : s.Holds j r := ⟨_, List.getElem?_eq_getElem hj, hr'⟩
  exact absurd (h.single hi' hj') (Nat.ne_of_lt hij)

theorem Accounted.perm_live {s : State σ} (h : Accounted s) : s.admission.claimed.Perm s.live :=
  (List.perm_ext_iff_of_nodup h.sound.distinct h.nodup_live).2 fun r => by rw [h.claims, mem_live]

/-! ## A run -/

namespace Sample

def supplies : Supplies :=
  ⟨fun n => ⟨BitVec.ofNat 128 n⟩, fun n => ⟨n, 0, 0, by decide, by decide⟩⟩

/-- An engine with two slots, whose classifier lets calls through or holds them back. -/
def start (isOpen : Bool) : State MemoryStore :=
  .start 2 ⟨[]⟩ (.empty supplies) (.start (.answers ⟨none⟩) isOpen) supplies.ids

def submission : Submission := ⟨⟨some "request", []⟩, "owner", "scan.png"⟩

/-- A resource is submitted twice: one submission is admitted, the other one refused, and then the
unit of work of the first one runs. -/
def run (isOpen : Bool) : State MemoryStore :=
  ((start isOpen).apply (.submitAll [submission, submission])).polls 3

theorem reachable_run (isOpen : Bool) : Reachable (start isOpen) (run isOpen) :=
  (Reachable.start.event _).polls 3

end Sample

section Runs

variable [PredictionStore σ] {capacity : UInt64} {table : LabelTable} {store : σ}
  {surroundings : Surroundings} {freshIds : Nat → PredictionId} {s : State σ}

theorem accounted_of_reachable
    (h : Reachable (State.start capacity table store surroundings freshIds) s) : Accounted s :=
  h.of_effects (accounted_start ..) fun e hr => hr.effect e

theorem capacity_of_reachable
    (h : Reachable (State.start capacity table store surroundings freshIds) s) :
    s.admission.capacity = capacity := by
  refine h.of_effects (P := fun r => r.admission.capacity = capacity) rfl fun e hr => ?_
  cases e with
  | inert admission =>
    rcases admission with same | ⟨-, back⟩
    · rw [same, hr]
    · rw [back]
      exact hr
  | occupy _ _ claims =>
    rw [(Admission.claim?_reserve claims).2]
    exact hr
  | carry _ _ admission => rw [admission, hr]
  | launch _ _ admission => rw [admission, hr]
  | finish _ _ _ admission =>
    rw [admission]
    exact hr

/-- The counter, the claimed resources and the admissions held by tasks agree in number and kind; no
two tasks hold the admission of one resource, so no two calls for it wait at the classifier. -/
theorem admissions_agree
    (h : Reachable (State.start capacity table store surroundings freshIds) s) :
    s.admission.inFlight.toNat = s.live.length ∧
      s.admission.claimed.length = s.live.length ∧
      s.turns true = s.turns false + s.live.length ∧
      s.admission.claimed.Nodup ∧ (∀ r, r ∈ s.admission.claimed ↔ r ∈ s.live) ∧
      (∀ t t' r, s.Holds t r → s.Holds t' r → t = t') ∧
      (∀ t t' r, s.Classifies t r → s.Classifies t' r → t = t') ∧
      ∀ r, s.admission.isClaimed r = true ↔ ∃! t, s.Holds t r := by
  have acc := accounted_of_reachable h
  have hlen := acc.perm_live.length_eq
  refine ⟨acc.sound.counted.trans hlen, hlen, hlen ▸ acc.turns, acc.sound.distinct,
    fun r => acc.perm_live.mem_iff, fun _ _ _ => acc.single,
    fun _ _ _ ht ht' => acc.single ht.holds ht'.holds, fun r => ?_⟩
  rw [Admission.isClaimed, List.contains_iff_mem, acc.claims]
  constructor
  · rintro ⟨t, ht⟩
    exact ⟨t, ht, fun t' ht' => acc.single ht' ht⟩
  · rintro ⟨t, ht, -⟩
    exact ⟨t, ht⟩

theorem admissions_agree_sample : Reachable (Sample.start false) (Sample.run false) ∧
    (Sample.run false).live = ["scan.png"] ∧ (Sample.run false).admission.claimed.length = 1 ∧
      ∃! t, (Sample.run false).Holds t "scan.png" := by
  have reached := Sample.reachable_run false
  obtain ⟨-, claims, -, -, -, -, -, holder⟩ := admissions_agree reached
  exact ⟨reached, rfl, claims, (holder "scan.png").1 rfl⟩

/-- The capacity is never exceeded, and no use of the counter wraps around: from zero to its present
value it was counted up only below the capacity and counted down only above zero. -/
theorem counter_within_capacity
    (h : Reachable (State.start capacity table store surroundings freshIds) s) :
    s.admission.inFlight ≤ capacity ∧ s.live.length ≤ capacity.toNat ∧
      CounterUse.Chain 0 s.admission.uses s.admission.inFlight ∧
      ∀ use ∈ s.admission.uses, use.Safe capacity ∧ use.Exact := by
  have acc := accounted_of_reachable h
  have hcap := capacity_of_reachable h
  have hle : s.admission.inFlight ≤ capacity := hcap ▸ acc.sound.bounded
  have hlen : s.admission.inFlight.toNat = s.live.length :=
    acc.sound.counted.trans acc.perm_live.length_eq
  refine ⟨hle, hlen ▸ UInt64.le_iff_toNat_le.1 hle, acc.sound.chain, fun use huse => ?_⟩
  have safe := acc.sound.safe use huse
  exact ⟨hcap ▸ safe, safe.exact⟩

theorem counter_within_capacity_sample : Reachable (Sample.start true) (Sample.run true) ∧
    (Sample.run true).admission.uses =
        [⟨.reserve, 0⟩, ⟨.reserve, 1⟩, ⟨.unreserve, 2⟩, ⟨.release, 1⟩] ∧
      ∀ use ∈ (Sample.run true).admission.uses, use.Safe 2 ∧ use.Exact := by
  have reached := Sample.reachable_run true
  exact ⟨reached, rfl, (counter_within_capacity reached).2.2.2⟩

end Runs

end Predictor.Engine
