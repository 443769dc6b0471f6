import Predictor.Proofs.Engine.Effect

/-!
The lines in which tasks wait for the answer to a call: one for creation calls, one at each gate of
the classifier, and one for finalization calls. In every reachable state those who stand in a line
are the tasks that are inside such a call (`Lined`).
-/

namespace Predictor.Engine

variable {σ : Type}

/-! ## Permits and gates -/

namespace Permits

theorem acquire_waiting {p q : Permits} {t : TaskId} {taken : Bool}
    (h : p.acquire t = (taken, q)) :
    q.waiting = if taken then p.waiting else p.waiting ++ [t] := by
  unfold acquire at h
  split at h <;> obtain ⟨rfl, rfl⟩ := Prod.mk.inj h <;> rfl

theorem waiting_eq_add (p : Permits) : p.waiting = p.add.1.toList ++ p.add.2.waiting := by
  unfold add
  split <;> simp [*]

end Permits

namespace Gates

theorem lookup_filter_ne (gates : List (String × Permits)) {resource r : String}
    (h : r ≠ resource) :
    (gates.filter fun gate => gate.1 != resource).lookup r = gates.lookup r := by
  induction gates with
  | nil => rfl
  | cons gate rest ih =>
    obtain ⟨name, p⟩ := gate
    by_cases hname : name = resource
    · subst hname
      simp [List.lookup_cons, ih, beq_false_of_ne h]
    · simp [hname, List.lookup_cons, ih]

theorem permits_put (g : Gates) (resource r : String) (p : Permits) :
    (g.put resource p).permits r = if r = resource then p else g.permits r := by
  unfold put permits
  split
  · rename_i h
    simp [h]
  · rename_i h
    simp [List.lookup_cons, beq_false_of_ne h, lookup_filter_ne g.gates h]

/-- Each resource has one gate. -/
def Single (g : Gates) : Prop := ∀ gate ∈ g.gates, g.permits gate.1 = gate.2

theorem Single.put {g : Gates} (h : g.Single) (resource : String) (p : Permits) :
    (g.put resource p).Single := by
  intro gate hgate
  rw [permits_put]
  rcases List.mem_cons.1 hgate with rfl | hgate
  · simp
  · obtain ⟨hgate, hname⟩ := List.mem_filter.1 hgate
    rw [if_neg (by simpa using hname), h gate hgate]

theorem enter_cases {g g' : Gates} {resource : String} {t : TaskId} {through : Bool}
    (h : g.enter resource t = (through, g')) :
    through = true ∧ g' = g ∨
      ∃ p, (g.permits resource).acquire t = (through, p) ∧ g' = g.put resource p := by
  unfold enter at h
  split at h
  · obtain ⟨rfl, rfl⟩ := Prod.mk.inj h
    exact .inl ⟨rfl, rfl⟩
  · obtain ⟨rfl, rfl⟩ := Prod.mk.inj h
    exact .inr ⟨_, rfl, rfl⟩

theorem Single.enter {g g' : Gates} {resource : String} {t : TaskId} {through : Bool}
    (hg : g.Single) (h : g.enter resource t = (through, g')) : g'.Single := by
  rcases enter_cases h with ⟨-, rfl⟩ | ⟨p, -, rfl⟩
  · exact hg
  · exact hg.put resource p

/-- A call that arrives waits at its own gate unless it goes through. -/
theorem enter_waiting {g g' : Gates} {resource : String} {t : TaskId} {through : Bool}
    (h : g.enter resource t = (through, g')) (r : String) :
    (g'.permits r).waiting =
      if r = resource ∧ through = false then (g.permits r).waiting ++ [t]
      else (g.permits r).waiting := by
  rcases enter_cases h with ⟨rfl, rfl⟩ | ⟨p, hacquire, rfl⟩
  · simp
  · rw [permits_put]
    by_cases hr : r = resource
    · subst hr
      rw [if_pos rfl, Permits.acquire_waiting hacquire]
      cases through <;> simp
    · simp [hr]

theorem admitOne_cases {g g' : Gates} {resource : String} {t : Option TaskId}
    (h : g.admitOne resource = (t, g')) :
    t = none ∧ g' = g ∨
      t = (g.permits resource).add.1 ∧ g' = g.put resource (g.permits resource).add.2 := by
  unfold admitOne at h
  split at h
  · obtain ⟨rfl, rfl⟩ := Prod.mk.inj h
    exact .inl ⟨rfl, rfl⟩
  · obtain ⟨rfl, rfl⟩ := Prod.mk.inj h
    exact .inr ⟨rfl, rfl⟩

theorem Single.admitOne {g g' : Gates} {resource : String} {t : Option TaskId}
    (hg : g.Single) (h : g.admitOne resource = (t, g')) : g'.Single := by
  rcases admitOne_cases h with ⟨-, rfl⟩ | ⟨-, rfl⟩
  · exact hg
  · exact hg.put resource _

/-- The one let through is the first who waits at the gate. -/
theorem admitOne_waiting {g g' : Gates} {resource : String} {t : Option TaskId}
    (h : g.admitOne resource = (t, g')) (r : String) :
    (g.permits r).waiting =
      (if r = resource then t.toList else []) ++ (g'.permits r).waiting := by
  rcases admitOne_cases h with ⟨rfl, rfl⟩ | ⟨rfl, rfl⟩
  · simp
  · rw [permits_put]
    by_cases hr : r = resource
    · subst hr
      rw [if_pos rfl, if_pos rfl]
      exact Permits.waiting_eq_add _
    · simp [hr]

/-- Those let through are all who wait at some gate. -/
theorem mem_openAll {g : Gates} (hg : g.Single) (i : TaskId) :
    i ∈ g.openAll.1 ↔ ∃ r, i ∈ (g.permits r).waiting := by
  have hmem : i ∈ g.openAll.1 ↔ ∃ gate ∈ g.gates, i ∈ gate.2.waiting := by
    simp only [openAll, List.mem_flatMap, (List.mergeSort_perm _ _).mem_iff]
  rw [hmem]
  constructor
  · rintro ⟨gate, hgate, hi⟩
    exact ⟨gate.1, by rwa [hg gate hgate]⟩
  · rintro ⟨r, hi⟩
    unfold permits at hi
    cases hlookup : g.gates.lookup r with
    | none => simp [hlookup, Permits.none] at hi
    | some p =>
      obtain ⟨front, back, heq, -⟩ := List.lookup_eq_some_iff.1 hlookup
      rw [hlookup] at hi
      exact ⟨(r, p), heq ▸ List.mem_append_right _ List.mem_cons_self, hi⟩

end Gates

/-! ## Grants -/

theorem Task.grant_grant (task : Task) : task.grant.grant = task.grant := by
  rcases task with ⟨_, _ | _ | _⟩ | ⟨_, _ | _ | _ | _⟩ | _ <;> rfl

theorem grantNext_eq (s : State σ) (t : Option TaskId) :
    s.grantNext t = t.toList.foldl State.grant s := by
  cases t <;> rfl

/-- Those let through change their stages and become ready; nothing else changes. -/
theorem grants_eq (through : List TaskId) (s : State σ) :
    through.foldl State.grant s =
      { s with tasks := (through.foldl State.grant s).tasks, ready := s.ready ++ through } := by
  induction through generalizing s with
  | nil => simp only [List.foldl_nil, List.append_nil]
  | cons t rest ih =>
    refine (ih (s.grant t)).trans ?_
    simp only [List.foldl_cons, State.grant, List.append_assoc, List.singleton_append]

theorem surroundings_grants (through : List TaskId) (s : State σ) :
    (through.foldl State.grant s).surroundings = s.surroundings := by
  rw [grants_eq]

theorem drains_grants (through : List TaskId) (s : State σ) :
    (through.foldl State.grant s).drains = s.drains := by
  rw [grants_eq]

theorem ready_grants (through : List TaskId) (s : State σ) :
    (through.foldl State.grant s).ready = s.ready ++ through := by
  rw [grants_eq]

theorem getElem?_grants (through : List TaskId) (s : State σ) (i : TaskId) :
    (through.foldl State.grant s).tasks[i]? =
      if i ∈ through then s.tasks[i]?.map Task.grant else s.tasks[i]? := by
  induction through generalizing s with
  | nil => simp
  | cons t rest ih =>
    rw [List.foldl_cons, ih, State.grant, List.getElem?_modify]
    by_cases hi : i = t
    · subst hi
      simp [Function.comp_def, Task.grant_grant]
    · simp [hi, Ne.symm hi]

/-- What a grant does not change in a task is seen as before. -/
theorem view_grants {α : Type} {f : Option Task → α}
    (kept : ∀ task : Task, f (some task.grant) = f (some task)) (through : List TaskId)
    (s : State σ) (i : TaskId) :
    f (through.foldl State.grant s).tasks[i]? = f s.tasks[i]? := by
  rw [getElem?_grants]
  split
  · cases s.tasks[i]? with
    | none => rfl
    | some task => exact kept task
  · rfl

/-! ## Lines -/

/-- A line in which tasks stand until the call that they are in is answered. -/
inductive Line
  | creations
  | gate (resource : String)
  | finalizations
  deriving DecidableEq

def Surroundings.line (w : Surroundings) : Line → List TaskId
  | .creations => w.createPermits.waiting
  | .gate resource => (w.gates.permits resource).waiting
  | .finalizations => w.finalizePermits.waiting

/-- The line of a task that is inside a call which has not been answered. -/
def Task.line? : Task → Option Line
  | .submit _ (.creating false) => some .creations
  | .work unit (.classifying false) => some (.gate unit.resource)
  | .work _ (.finalizing _ false) => some .finalizations
  | _ => none

theorem Task.line?_grant (task : Task) : task.grant.line? = none := by
  rcases task with ⟨_, _ | _ | _⟩ | ⟨_, _ | _ | _ | _⟩ | _ <;> rfl

/-- Task `t` is inside a call and belongs to the line `line`. -/
def State.Awaits (s : State σ) (t : TaskId) (line : Line) : Prop :=
  ∃ task, s.tasks[t]? = some task ∧ task.line? = some line

/-- In each line stand, once, those who belong to it. -/
structure Lined (s : State σ) : Prop where
  awaits : ∀ line t, t ∈ s.surroundings.line line ↔ s.Awaits t line
  once : ∀ line, (s.surroundings.line line).Nodup
  single : s.surroundings.gates.Single

theorem line_withCreatePermits (w : Surroundings) (permits : Permits) (line : Line) :
    ({ w with createPermits := permits }).line line =
      if line = .creations then permits.waiting else w.line line := by
  cases line <;> rfl

theorem line_withFinalizePermits (w : Surroundings) (permits : Permits) (line : Line) :
    ({ w with finalizePermits := permits }).line line =
      if line = .finalizations then permits.waiting else w.line line := by
  cases line <;> rfl

theorem awaits_iff_of_some {s : State σ} {t : TaskId} {task : Task}
    (here : s.tasks[t]? = some task) (line : Line) :
    s.Awaits t line ↔ task.line? = some line := by
  constructor
  · rintro ⟨task', here', hline⟩
    obtain rfl := Option.some.inj (here.symm.trans here')
    exact hline
  · exact fun hline => ⟨task, here, hline⟩

/-- Nobody stands in two lines. -/
theorem Lined.line_eq {s : State σ} (h : Lined s) {t : TaskId} {line line' : Line}
    (ht : t ∈ s.surroundings.line line) (ht' : t ∈ s.surroundings.line line') : line = line' := by
  obtain ⟨task, here, hline⟩ := (h.awaits line t).1 ht
  have hline' := (awaits_iff_of_some here line').1 ((h.awaits line' t).1 ht')
  exact Option.some.inj (hline.symm.trans hline')

section Changes

variable {s s' : State σ} {t : TaskId} {old new : Task}

/-- One task changes, and with it the lines, for that task only. -/
theorem Lined.set (h : Lined s) (here : s.tasks[t]? = some old)
    (tasks : s'.tasks = s.tasks.set t new)
    (own : ∀ line, t ∈ s'.surroundings.line line ↔ new.line? = some line)
    (others : ∀ line i, i ≠ t → (i ∈ s'.surroundings.line line ↔ i ∈ s.surroundings.line line))
    (once : ∀ line, (s'.surroundings.line line).Nodup)
    (single : s'.surroundings.gates.Single) : Lined s' := by
  refine ⟨fun line i => ?_, once, single⟩
  by_cases hi : i = t
  · subst hi
    rw [own, awaits_iff_of_some (getElem?_of_set_self tasks here)]
  · rw [others line i hi, h.awaits, State.Awaits, State.Awaits, getElem?_of_set_ne tasks hi]

/-- Nothing changes in the tasks and the lines. -/
theorem Lined.of_lines (h : Lined s) (tasks : s'.tasks = s.tasks)
    (lines : ∀ line, s'.surroundings.line line = s.surroundings.line line)
    (single : s'.surroundings.gates.Single) : Lined s' where
  awaits line i := by rw [lines, h.awaits, State.Awaits, State.Awaits, tasks]
  once line := lines line ▸ h.once line
  single := single

/-- One task changes, and nothing in the lines. -/
theorem Lined.set_of_line_eq (h : Lined s) (here : s.tasks[t]? = some old)
    (tasks : s'.tasks = s.tasks.set t new) (same : new.line? = old.line?)
    (lines : ∀ line, s'.surroundings.line line = s.surroundings.line line)
    (single : s'.surroundings.gates.Single) : Lined s' := by
  refine h.set here tasks (fun line => ?_) (fun line i _ => by rw [lines]) (fun line => ?_) single
  · rw [lines, h.awaits, awaits_iff_of_some here, same]
  · rw [lines]
    exact h.once line

/-- A task that waits for nothing goes on to wait for nothing. -/
theorem Lined.set_idle (h : Lined s) (here : s.tasks[t]? = some old)
    (tasks : s'.tasks = s.tasks.set t new) (before : old.line? = none) (after : new.line? = none)
    (surroundings : s'.surroundings = s.surroundings) : Lined s' :=
  h.set_of_line_eq here tasks (after.trans before.symm) (fun _ => by rw [surroundings])
    (surroundings ▸ h.single)

/-- A task joins a line. -/
theorem Lined.join (h : Lined s) {line : Line} (here : s.tasks[t]? = some old)
    (tasks : s'.tasks = s.tasks.set t new) (before : old.line? = none)
    (after : new.line? = some line)
    (lines : ∀ line', s'.surroundings.line line' =
      if line' = line then s.surroundings.line line' ++ [t] else s.surroundings.line line')
    (single : s'.surroundings.gates.Single) : Lined s' := by
  have absent : ∀ line', t ∉ s.surroundings.line line' := by
    intro line'
    simp [h.awaits, awaits_iff_of_some here, before]
  refine h.set here tasks (fun line' => ?_) (fun line' i hi => ?_) (fun line' => ?_) single
  · rw [lines, after]
    split
    · rename_i hline
      simp [hline]
    · rename_i hline
      simp [absent line', Ne.symm hline]
  · rw [lines]
    split <;> simp [hi]
  · rw [lines]
    split
    · rw [List.nodup_append]
      refine ⟨h.once line', by simp, ?_⟩
      rintro i hi j hj rfl
      exact absent line' (List.mem_singleton.1 hj ▸ hi)
    · exact h.once line'

/-- A task leaves the line of creation calls. -/
theorem Lined.leave (h : Lined s) (here : s.tasks[t]? = some old)
    (tasks : s'.tasks = s.tasks.set t new) (before : old.line? = some .creations)
    (after : new.line? = none)
    (surroundings : s'.surroundings =
      { s.surroundings with createPermits := s.surroundings.createPermits.leave t }) :
    Lined s' := by
  have lines : ∀ line, s'.surroundings.line line =
      if line = .creations then (s.surroundings.line line).erase t
      else s.surroundings.line line := by
    intro line
    rw [surroundings]
    cases line <;> rfl
  refine h.set here tasks (fun line => ?_) (fun line i hi => ?_) (fun line => ?_) ?_
  · rw [lines, after]
    split
    · simp [(h.once line).mem_erase_iff]
    · rename_i hline
      simp [h.awaits, awaits_iff_of_some here, before, Ne.symm hline]
  · rw [lines]
    split
    · exact List.mem_erase_of_ne hi
    · rfl
  · rw [lines]
    split
    · exact (h.once line).erase t
    · exact h.once line
  · rw [surroundings]
    exact h.single

theorem Lined.append {added : Task} (h : Lined s) (tasks : s'.tasks = s.tasks ++ [added])
    (idle : added.line? = none) (surroundings : s'.surroundings = s.surroundings) : Lined s' := by
  refine ⟨fun line i => ?_, surroundings ▸ h.once, surroundings ▸ h.single⟩
  rw [surroundings, h.awaits]
  constructor
  · rintro ⟨task, here, hline⟩
    exact ⟨task, getElem?_of_append tasks here, hline⟩
  · rintro ⟨task, here, hline⟩
    rcases cases_of_append tasks here with ⟨-, rfl⟩ | hold
    · simp [idle] at hline
    · exact ⟨task, hold, hline⟩

/-- Those let through leave their lines. -/
theorem Lined.grants {through : List TaskId} (h : Lined s) (tasks : s'.tasks = s.tasks)
    (lines : ∀ line i, i ∈ s'.surroundings.line line ↔
      i ∈ s.surroundings.line line ∧ i ∉ through)
    (once : ∀ line, (s'.surroundings.line line).Nodup) (single : s'.surroundings.gates.Single) :
    Lined (through.foldl State.grant s') := by
  refine ⟨fun line i => ?_, surroundings_grants through s' ▸ once,
    surroundings_grants through s' ▸ single⟩
  rw [surroundings_grants, lines, h.awaits, State.Awaits, State.Awaits, getElem?_grants, tasks]
  by_cases hi : i ∈ through
  · simp [hi, Task.line?_grant]
  · simp [hi]

/-- The first of a line, if there is one, is let through. -/
theorem Lined.pass {first : Option TaskId} (h : Lined s) (line : Line) (tasks : s'.tasks = s.tasks)
    (front : s.surroundings.line line = first.toList ++ s'.surroundings.line line)
    (others : ∀ line', line' ≠ line → s'.surroundings.line line' = s.surroundings.line line')
    (single : s'.surroundings.gates.Single) : Lined (s'.grantNext first) := by
  have once := h.once line
  rw [front, List.nodup_append] at once
  rw [grantNext_eq]
  refine h.grants tasks (fun line' i => ?_) (fun line' => ?_) single
  · by_cases hline : line' = line
    · subst hline
      rw [front, List.mem_append]
      constructor
      · exact fun hi => ⟨.inr hi, fun hfirst => once.2.2 i hfirst i hi rfl⟩
      · exact fun ⟨hi, hnot⟩ => hi.resolve_left hnot
    · rw [others line' hline]
      refine ⟨fun hi => ⟨hi, fun hfirst => hline ?_⟩, And.left⟩
      exact h.line_eq hi (front ▸ List.mem_append_left _ hfirst)
  · by_cases hline : line' = line
    · subst hline
      exact once.2.1
    · rw [others line' hline]
      exact h.once line'

/-- All who wait at a gate are let through. -/
theorem Lined.openAll {through : List TaskId} {gates : Gates} (h : Lined s)
    (pass : s.surroundings.gates.openAll = (through, gates)) :
    Lined (through.foldl State.grant (s.withGates gates)) := by
  have all : ∀ i, i ∈ through ↔ ∃ r, i ∈ s.surroundings.line (.gate r) := by
    intro i
    have hmem := Gates.mem_openAll h.single i
    rwa [pass] at hmem
  obtain ⟨-, rfl⟩ := Prod.mk.inj pass
  have apart : ∀ line i, (∀ r, line ≠ .gate r) → i ∈ s.surroundings.line line → i ∉ through := by
    intro line i hline hi hthrough
    obtain ⟨r, hr⟩ := (all i).1 hthrough
    exact hline r (h.line_eq hi hr)
  refine h.grants rfl (fun line i => ?_) (fun line => ?_) nofun
  · cases line with
    | creations => exact ⟨fun hi => ⟨hi, apart .creations i nofun hi⟩, And.left⟩
    | finalizations => exact ⟨fun hi => ⟨hi, apart .finalizations i nofun hi⟩, And.left⟩
    | gate r =>
      constructor
      · intro hi
        exact absurd hi List.not_mem_nil
      · exact fun ⟨hi, hnot⟩ => absurd ((all i).2 ⟨r, hi⟩) hnot
  · cases line with
    | creations => exact h.once .creations
    | finalizations => exact h.once .finalizations
    | gate r => exact List.nodup_nil

end Changes

theorem Lined.advance {t : TaskId} {s s' : State σ} (h : Lined s) (move : Advance t s s') :
    Lined s' := by
  cases move with
  | occupy here => exact h.set_idle here rfl rfl rfl rfl
  | createPermit here taken =>
    refine h.set_of_line_eq here (set_same here).symm rfl (fun line => ?_) h.single
    have waiting := Permits.acquire_waiting taken
    cases line <;> first | rfl | exact waiting
  | @call w gates here through =>
    have entered := Gates.enter_waiting through
    refine h.set_of_line_eq here rfl rfl (fun line => ?_) (h.single.enter through)
    cases line with
    | gate r => exact (entered r).trans (by simp; rfl)
    | creations | finalizations => rfl
  | answered here => exact h.set_idle here rfl rfl rfl rfl
  | unanswered here =>
    rw [unanswered_eq]
    exact h.set_idle here rfl rfl rfl rfl
  | finalizePermit here taken =>
    refine h.set_of_line_eq here (set_same here).symm rfl (fun line => ?_) h.single
    have waiting := Permits.acquire_waiting taken
    cases line <;> first | rfl | exact waiting

theorem lined_start (capacity : UInt64) (table : LabelTable) (store : σ) (usual : Behaviour)
    (isOpen : Bool) (freshIds : Nat → PredictionId) :
    Lined (State.start capacity table store (.start usual isOpen) freshIds) where
  awaits line t := by cases line <;> simp [State.Awaits, State.start, Surroundings.start,
    Surroundings.line, Gates.permits, Permits.none]
  once line := by cases line <;> exact List.nodup_nil
  single := nofun

section Moves

variable [PredictionStore σ]

theorem Lined.halt {t : TaskId} {s s' : State σ} (h : Lined s) (move : Halt t s s') :
    Lined s' := by
  cases move with
  | asleep => exact h
  | unnamed here => exact h.set_idle here rfl rfl rfl rfl
  | full here => exact h.set_idle here rfl rfl rfl rfl
  | duplicate here => exact h.set_idle here rfl rfl rfl rfl
  | @launched submission record store here =>
    have ended : Lined (s.endSubmit t submission (.returned (.ok record))) :=
      h.set_idle here rfl rfl rfl rfl
    exact ended.append rfl rfl rfl
  | rolledBack here => exact h.set_idle here rfl rfl rfl rfl
  | createPanicked here => exact h.set_idle here rfl rfl rfl rfl
  | createHeld here held =>
    refine h.join here rfl rfl rfl (fun line => ?_) h.single
    have waiting := Permits.acquire_waiting held
    cases line <;> first | rfl | exact waiting
  | @gateHeld w gates here held =>
    have entered := Gates.enter_waiting held
    refine h.join here rfl rfl rfl (fun line => ?_) (h.single.enter held)
    cases line with
    | gate r => exact (entered r).trans (by simp; rfl)
    | creations | finalizations => rfl
  | classifyPanicked here => exact h.set_idle here rfl rfl rfl rfl
  | finalizePanicked here => exact h.set_idle here rfl rfl rfl rfl
  | written here => exact h.set_idle here rfl rfl rfl rfl
  | unwritten here => exact h.set_idle here rfl rfl rfl rfl
  | finalizeHeld here held =>
    refine h.join here rfl rfl rfl (fun line => ?_) h.single
    have waiting := Permits.acquire_waiting held
    cases line <;> first | rfl | exact waiting
  | @checked stage here =>
    have idle : (Task.drain stage).line? = none := rfl
    unfold State.checkIdle
    split
    · exact h.set_idle here rfl idle rfl rfl
    · exact h.set_idle here rfl idle rfl rfl

theorem Lined.outside {s s' : State σ} (h : Lined s) (move : Outside s s') : Lined s' := by
  cases move with
  | submit => exact h.append rfl rfl rfl
  | drain => exact h.append rfl rfl rfl
  | cancelNew here => exact h.set_idle here rfl rfl rfl rfl
  | cancelWaiting here => exact h.leave here rfl rfl rfl rfl
  | cancelGranted here => exact h.set_idle here rfl rfl rfl rfl
  | passCreate =>
    refine h.pass .creations rfl (Permits.waiting_eq_add _) (fun line hline => ?_) h.single
    exact (line_withCreatePermits _ _ line).trans (if_neg hline)
  | passFinalize =>
    refine h.pass .finalizations rfl (Permits.waiting_eq_add _) (fun line hline => ?_)
      h.single
    exact (line_withFinalizePermits _ _ line).trans (if_neg hline)
  | @passGate resource _ _ pass =>
    have admitted := Gates.admitOne_waiting pass
    refine h.pass (.gate resource) rfl ?_ (fun line hline => ?_) (h.single.admitOne pass)
    · exact (admitted resource).trans (by rw [if_pos rfl]; rfl)
    · cases line with
      | gate r =>
        have hr : r ≠ resource := fun hr => hline (congrArg Line.gate hr)
        exact ((admitted r).trans (by rw [if_neg hr]; rfl)).symm
      | creations | finalizations => rfl
  | openGates pass => exact h.openAll pass
  | behave | setCreateMode | setFinalizeMode | setCreatePassage | setFinalizePassage =>
    exact h.of_lines rfl (fun line => by cases line <;> rfl) h.single
  | createDirectly | finalizeDirectly => exact h.of_lines rfl (fun _ => rfl) h.single

theorem lined_of_reachable {initial s : State σ} (start : Lined initial)
    (h : Reachable initial s) : Lined s := by
  refine h.invariant start fun move hr => ?_
  cases move with
  | take => exact hr.of_lines rfl (fun _ => rfl) hr.single
  | advance first => exact hr.advance first
  | halt last => exact hr.halt last
  | outside move => exact hr.outside move

end Moves

end Predictor.Engine
