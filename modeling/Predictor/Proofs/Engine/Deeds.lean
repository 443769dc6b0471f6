import Predictor.Proofs.Engine.Lines

/-!
What a unit of work has heard from the classifier, asked of the store and been told by it, in order.
The stage of the unit determines the form of this list (`Did`), so the store is asked at most once for
each unit, and only after the classifier has answered (`Recorded.asked`); what a unit that is over has
done is one of four fates.
-/

namespace Predictor.Engine

variable {σ : Type}

/-! ## Deeds -/

/-- What the classifier returns when it does not panic. -/
abbrev Answer := Except ClassifyError RawResult

namespace Answer

def behaviour : Answer → Behaviour
  | .ok raw => .answers raw
  | .error error => .fails error

/-- The outcome to be written: the decoded scores, or the text of the error. -/
def outcome (table : LabelTable) : Answer → Outcome
  | .ok raw => .classified (table.decode raw)
  | .error error => .failed error.message

theorem behaviour_inj {a b : Answer} (h : a.behaviour = b.behaviour) : a = b := by
  cases a <;> cases b <;> simp_all [behaviour]

end Answer

/-- The deeds of one task in a list of them, in order. -/
def deedsIn (t : TaskId) (entries : List (TaskId × Deed)) : List Deed :=
  entries.filterMap fun entry => if entry.1 = t then some entry.2 else none

theorem deedsIn_append (t : TaskId) (front back : List (TaskId × Deed)) :
    deedsIn t (front ++ back) = deedsIn t front ++ deedsIn t back :=
  List.filterMap_append

theorem deedsIn_cons_self (t : TaskId) (deed : Deed) (rest : List (TaskId × Deed)) :
    deedsIn t ((t, deed) :: rest) = deed :: deedsIn t rest := by
  simp [deedsIn]

theorem deedsIn_own (t : TaskId) (deeds : List Deed) :
    deedsIn t (deeds.map fun deed => (t, deed)) = deeds := by
  induction deeds with
  | nil => rfl
  | cons deed rest ih => rw [List.map_cons, deedsIn_cons_self, ih]

theorem deedsIn_other {t i : TaskId} (h : i ≠ t) (deeds : List Deed) :
    deedsIn i (deeds.map fun deed => (t, deed)) = [] := by
  simp [deedsIn, Ne.symm h]

theorem mem_deedsIn {t : TaskId} {deed : Deed} {entries : List (TaskId × Deed)} :
    deed ∈ deedsIn t entries ↔ (t, deed) ∈ entries := by
  simp [deedsIn, List.mem_filterMap]

def State.deedsOf (s : State σ) (t : TaskId) : List Deed := deedsIn t s.deeds

/-! ## Deeds and stages -/

/-- What a task has done when it is where it is. -/
inductive Did (table : LabelTable) : Task → List Deed → Prop
  | submit (submission : Submission) (stage : SubmitStage) :
      Did table (.submit submission stage) []
  | drain (stage : DrainStage) : Did table (.drain stage) []
  | new (w : Work) : Did table (.work w .new) []
  | classifying (w : Work) (g : Bool) : Did table (.work w (.classifying g)) []
  | finalizing (w : Work) (answer : Answer) (g : Bool) :
      Did table (.work w (.finalizing (answer.outcome table) g))
        [.heard answer.behaviour, .asked (answer.outcome table)]
  | classifyPanicked (w : Work) : Did table (.work w (.done true)) [.heard .panics]
  | finalizePanicked (w : Work) (answer : Answer) :
      Did table (.work w (.done true))
        [.heard answer.behaviour, .asked (answer.outcome table), .broken]
  | finalized (w : Work) (answer : Answer) (result : Except Error Unit) :
      Did table (.work w (.done false))
        [.heard answer.behaviour, .asked (answer.outcome table), .told result]

theorem Did.grant {table : LabelTable} {task : Task} {deeds : List Deed}
    (h : Did table task deeds) : Did table task.grant deeds := by
  cases h with
  | submit submission stage =>
    cases stage with
    | new | creating | done => exact .submit submission _
  | drain stage => exact .drain stage
  | new w => exact .new w
  | classifying w g => exact .classifying w true
  | finalizing w answer g => exact .finalizing w answer true
  | classifyPanicked w => exact .classifyPanicked w
  | finalizePanicked w answer => exact .finalizePanicked w answer
  | finalized w answer result => exact .finalized w answer result

structure Recorded (s : State σ) : Prop where
  did : ∀ {t : TaskId} {task : Task}, s.tasks[t]? = some task → Did s.table task (s.deedsOf t)
  /-- Only tasks that exist have done anything. -/
  bound : ∀ entry ∈ s.deeds, entry.1 < s.tasks.length

theorem recorded_start (capacity : UInt64) (table : LabelTable) (store : σ)
    (surroundings : Surroundings) (freshIds : Nat → PredictionId) :
    Recorded (State.start capacity table store surroundings freshIds) where
  did := by simp [State.start]
  bound := by simp [State.start]

section Changes

variable {s s' : State σ} {t : TaskId} {old new : Task}

/-- One task changes; the new deeds are its own. -/
theorem Recorded.set (h : Recorded s) (here : s.tasks[t]? = some old)
    (tasks : s'.tasks = s.tasks.set t new) (table : s'.table = s.table) (own : List Deed)
    (deeds : s'.deeds = s.deeds ++ own.map fun deed => (t, deed))
    (did : Did s.table old (s.deedsOf t) → Did s.table new (s.deedsOf t ++ own)) :
    Recorded s' := by
  have hsplit : ∀ i, s'.deedsOf i = s.deedsOf i ++ deedsIn i (own.map fun deed => (t, deed)) := by
    intro i
    rw [State.deedsOf, deeds, deedsIn_append, State.deedsOf]
  refine ⟨fun {i task} hi => ?_, fun entry hentry => ?_⟩
  · rw [table, hsplit]
    rcases cases_of_set tasks hi with ⟨rfl, rfl⟩ | ⟨hit, hold⟩
    · rw [deedsIn_own]
      exact did (h.did here)
    · rw [deedsIn_other hit, List.append_nil]
      exact h.did hold
  · rw [tasks, List.length_set]
    rw [deeds, List.mem_append] at hentry
    rcases hentry with hold | hnew
    · exact h.bound entry hold
    · obtain ⟨deed, -, rfl⟩ := List.mem_map.1 hnew
      exact (List.getElem?_eq_some_iff.1 here).1

/-- A task changes that does nothing which is recorded. -/
theorem Recorded.set_still (h : Recorded s) (here : s.tasks[t]? = some old)
    (tasks : s'.tasks = s.tasks.set t new) (table : s'.table = s.table)
    (deeds : s'.deeds = s.deeds)
    (did : ∀ {list : List Deed}, Did s.table old list → Did s.table new list) : Recorded s' :=
  h.set here tasks table [] (deeds.trans (List.append_nil _).symm) fun hold =>
    (List.append_nil _).symm ▸ did hold

/-- Nothing that is recorded changes. -/
theorem Recorded.of_eq (h : Recorded s) (tasks : s'.tasks = s.tasks) (table : s'.table = s.table)
    (deeds : s'.deeds = s.deeds) : Recorded s' := by
  refine ⟨fun {t task} here => ?_, ?_⟩
  · rw [table, State.deedsOf, deeds]
    exact h.did (tasks ▸ here)
  · rw [deeds, tasks]
    exact h.bound

theorem Recorded.idle (h : Recorded s) (absent : s.tasks.length ≤ t) : s.deedsOf t = [] := by
  rw [State.deedsOf, deedsIn, List.filterMap_eq_nil_iff]
  exact fun entry mem => if_neg (Nat.ne_of_lt (Nat.lt_of_lt_of_le (h.bound entry mem) absent))

/-- A task is added that has done nothing yet. -/
theorem Recorded.append {added : Task} (h : Recorded s) (tasks : s'.tasks = s.tasks ++ [added])
    (table : s'.table = s.table) (deeds : s'.deeds = s.deeds) (did : Did s.table added []) :
    Recorded s' := by
  refine ⟨fun {t task} here => ?_, fun entry hentry => ?_⟩
  · have same : s'.deedsOf t = s.deedsOf t := by rw [State.deedsOf, deeds, State.deedsOf]
    rw [table, same]
    rcases cases_of_append tasks here with ⟨rfl, rfl⟩ | hold
    · exact h.idle (Nat.le_refl _) ▸ did
    · exact h.did hold
  · rw [tasks, List.length_append]
    exact Nat.lt_add_right _ (h.bound entry (deeds ▸ hentry))

theorem length_grants (through : List TaskId) (s : State σ) :
    (through.foldl State.grant s).tasks.length = s.tasks.length := by
  induction through generalizing s with
  | nil => rfl
  | cons t rest ih => exact (ih (s.grant t)).trans (List.length_modify ..)

theorem table_grants (through : List TaskId) (s : State σ) :
    (through.foldl State.grant s).table = s.table := by
  rw [grants_eq]

theorem deeds_grants (through : List TaskId) (s : State σ) :
    (through.foldl State.grant s).deeds = s.deeds := by
  rw [grants_eq]

theorem Recorded.grants (h : Recorded s) (through : List TaskId) :
    Recorded (through.foldl State.grant s) := by
  refine ⟨fun {t task} here => ?_, ?_⟩
  · rw [table_grants, State.deedsOf, deeds_grants]
    rw [getElem?_grants] at here
    split at here
    · obtain ⟨before, hbefore, rfl⟩ := Option.map_eq_some_iff.1 here
      exact (h.did hbefore).grant
    · exact h.did here
  · rw [deeds_grants, length_grants]
    exact h.bound

theorem Recorded.grantNext (h : Recorded s) (t : Option TaskId) : Recorded (s.grantNext t) := by
  rw [grantNext_eq]
  exact h.grants t.toList

end Changes

/-- A submission does nothing that is recorded. -/
theorem Did.submit_any {table : LabelTable} {submission : Submission} {before after : SubmitStage}
    {deeds : List Deed} (h : Did table (.submit submission before) deeds) :
    Did table (.submit submission after) deeds := by
  cases h
  exact .submit submission after

theorem Did.heard {table : LabelTable} {w : Work} {g : Bool} {deeds : List Deed}
    (h : Did table (.work w (.classifying g)) deeds) (answer : Answer) :
    Did table (.work w (.finalizing (answer.outcome table) true))
      (deeds ++ [.heard answer.behaviour, .asked (answer.outcome table)]) := by
  cases h
  exact .finalizing w answer true

theorem Did.told {table : LabelTable} {w : Work} {outcome : Outcome} {g : Bool}
    {deeds : List Deed} (h : Did table (.work w (.finalizing outcome g)) deeds)
    (result : Except Error Unit) :
    Did table (.work w (.done false)) (deeds ++ [.told result]) := by
  cases h with
  | finalizing w answer g => exact .finalized w answer result

theorem Did.broken {table : LabelTable} {w : Work} {outcome : Outcome} {g : Bool}
    {deeds : List Deed} (h : Did table (.work w (.finalizing outcome g)) deeds) :
    Did table (.work w (.done true)) (deeds ++ [.broken]) := by
  cases h with
  | finalizing w answer g => exact .finalizePanicked w answer

theorem Recorded.advance {t : TaskId} {s s' : State σ} (h : Recorded s) (move : Advance t s s') :
    Recorded s' := by
  cases move with
  | occupy here => exact h.set_still here rfl rfl rfl Did.submit_any
  | createPermit | finalizePermit => exact h.of_eq rfl rfl rfl
  | call here =>
    refine h.set_still here rfl rfl rfl fun hold => ?_
    cases hold
    exact .classifying _ true
  | @answered w raw here =>
    exact h.set here rfl rfl [.heard (.answers raw), .asked _] (List.append_assoc _ _ _)
      fun hold => hold.heard (.ok raw)
  | @unanswered w error here =>
    rw [unanswered_eq]
    exact h.set here rfl rfl [.heard (.fails error), .asked _] rfl
      fun hold => hold.heard (.error error)

section Moves

variable [PredictionStore σ]

theorem Recorded.halt {t : TaskId} {s s' : State σ} (h : Recorded s) (move : Halt t s s') :
    Recorded s' := by
  cases move with
  | asleep => exact h
  | unnamed here => exact h.set_still here rfl rfl rfl Did.submit_any
  | full here => exact h.set_still here rfl rfl rfl Did.submit_any
  | duplicate here => exact h.set_still here rfl rfl rfl Did.submit_any
  | @launched submission record store here =>
    have ended : Recorded (s.endSubmit t submission (.returned (.ok record))) :=
      h.set_still here rfl rfl rfl Did.submit_any
    exact ended.append rfl rfl rfl (.new _)
  | rolledBack here => exact h.set_still here rfl rfl rfl Did.submit_any
  | createPanicked here => exact h.set_still here rfl rfl rfl Did.submit_any
  | createHeld here => exact h.set_still here rfl rfl rfl Did.submit_any
  | gateHeld here =>
    refine h.set_still here rfl rfl rfl fun hold => ?_
    cases hold
    exact .classifying _ false
  | classifyPanicked here =>
    refine h.set here rfl rfl [.heard .panics] rfl fun hold => ?_
    generalize s.deedsOf t = deeds at hold ⊢
    cases hold
    exact .classifyPanicked _
  | finalizePanicked here => exact h.set here rfl rfl [.broken] rfl Did.broken
  | written here => exact h.set here rfl rfl [.told (.ok ())] rfl fun hold => hold.told _
  | @unwritten _ _ error _ here =>
    exact h.set here rfl rfl [.told (.error error)] rfl fun hold => hold.told _
  | finalizeHeld here =>
    refine h.set_still here rfl rfl rfl fun hold => ?_
    cases hold
    exact .finalizing _ _ false
  | @checked stage here =>
    have checked : ∀ {after : DrainStage} {deeds : List Deed},
        Did s.table (.drain stage) deeds → Did s.table (.drain after) deeds := by
      intro after deeds hold
      cases hold
      exact .drain after
    unfold State.checkIdle
    split
    · exact h.set_still here rfl rfl rfl checked
    · exact h.set_still here rfl rfl rfl checked

theorem Recorded.outside {s s' : State σ} (h : Recorded s) (move : Outside s s') :
    Recorded s' := by
  cases move with
  | submit submission => exact h.append rfl rfl rfl (.submit submission .new)
  | drain => exact h.append rfl rfl rfl (.drain .new)
  | cancelNew here => exact h.set_still here rfl rfl rfl Did.submit_any
  | cancelWaiting here => exact h.set_still here rfl rfl rfl Did.submit_any
  | cancelGranted here => exact h.set_still here rfl rfl rfl Did.submit_any
  | passCreate | passFinalize | passGate =>
    refine Recorded.grantNext ?_ _
    exact h.of_eq rfl rfl rfl
  | openGates =>
    refine Recorded.grants ?_ _
    exact h.of_eq rfl rfl rfl
  | behave | setCreateMode | setFinalizeMode | setCreatePassage | setFinalizePassage | createDirectly
  | finalizeDirectly =>
    exact h.of_eq rfl rfl rfl

theorem Recorded.transition {s s' : State σ} (h : Recorded s) (move : Transition s s') :
    Recorded s' := by
  cases move with
  | take => exact h.of_eq rfl rfl rfl
  | advance first => exact h.advance first
  | halt last => exact h.halt last
  | outside move => exact h.outside move

theorem recorded_of_reachable {capacity : UInt64} {table : LabelTable} {store : σ}
    {surroundings : Surroundings} {freshIds : Nat → PredictionId} {s : State σ}
    (h : Reachable (State.start capacity table store surroundings freshIds) s) : Recorded s :=
  h.invariant (recorded_start ..) fun move hr => hr.transition move

end Moves

/-! ## What a unit asks of the store -/

/-- Either nothing is asked, or it is asked once, right after the answer. -/
theorem Did.form {table : LabelTable} {task : Task} {deeds : List Deed} (h : Did table task deeds) :
    (∀ outcome, .asked outcome ∉ deeds) ∨ ∃ (answer : Answer) (rest : List Deed),
      deeds = .heard answer.behaviour :: .asked (answer.outcome table) :: rest ∧
        ∀ outcome, .asked outcome ∉ rest := by
  cases h with
  | submit | drain | new | classifying | classifyPanicked => exact .inl (by simp)
  | finalizing w answer g => exact .inr ⟨answer, [], rfl, by simp⟩
  | finalizePanicked w answer => exact .inr ⟨answer, [.broken], rfl, by simp⟩
  | finalized w answer result => exact .inr ⟨answer, [.told result], rfl, by simp⟩

theorem Did.asked_split {table : LabelTable} {task : Task} {front back : List Deed}
    {outcome : Outcome} (h : Did table task (front ++ .asked outcome :: back)) :
    ∃ answer : Answer, front = [.heard answer.behaviour] ∧ outcome = answer.outcome table ∧
      ∀ other, .asked other ∉ back := by
  rcases h.form with nothing | ⟨answer, rest, split, last⟩
  · exact absurd (List.mem_append_right _ List.mem_cons_self) (nothing outcome)
  · refine ⟨answer, ?_⟩
    match front with
    | [] => simp at split
    | [first] =>
      obtain ⟨rfl, hasked, rfl⟩ : first = .heard answer.behaviour ∧
          outcome = answer.outcome table ∧ back = rest := by simpa using split
      exact ⟨rfl, hasked, last⟩
    | first :: second :: more =>
      obtain ⟨-, -, hrest⟩ : first = .heard answer.behaviour ∧
          second = .asked (answer.outcome table) ∧ more ++ .asked outcome :: back = rest := by
        simpa using split
      exact absurd (hrest ▸ List.mem_append_right _ List.mem_cons_self) (last outcome)

/-- The store is asked for a unit after the classifier has answered, and only once. -/
theorem Recorded.asked {s : State σ} (h : Recorded s) {t : TaskId} {outcome : Outcome}
    {front back : List (TaskId × Deed)} (split : s.deeds = front ++ (t, .asked outcome) :: back) :
    ∃ answer : Answer, (t, .heard answer.behaviour) ∈ front ∧ outcome = answer.outcome s.table ∧
      ∀ other, (t, .asked other) ∉ front ++ back := by
  have hlt : t < s.tasks.length := h.bound (t, .asked outcome) (by simp [split])
  have did := h.did (List.getElem?_eq_getElem hlt)
  rw [State.deedsOf, split, deedsIn_append, deedsIn_cons_self] at did
  obtain ⟨answer, hfront, houtcome, hback⟩ := did.asked_split
  refine ⟨answer, mem_deedsIn.1 (by simp [hfront]), houtcome, fun other hmem => ?_⟩
  rcases List.mem_append.1 hmem with hmem | hmem
  · have := mem_deedsIn.2 hmem
    simp [hfront] at this
  · exact hback other (mem_deedsIn.2 hmem)

/-! ## Fates -/

/-- How a unit of work can end. -/
inductive Fate
  /-- The store has taken the outcome. -/
  | written (answer : Answer)
  /-- The store has returned an error. -/
  | unwritten (answer : Answer) (error : Error)
  | finalizePanicked (answer : Answer)
  | classifyPanicked

/-- The deeds of a unit that has come to such an end. -/
def Fate.deeds (table : LabelTable) : Fate → List Deed
  | .written answer =>
    [.heard answer.behaviour, .asked (answer.outcome table), .told (.ok ())]
  | .unwritten answer error =>
    [.heard answer.behaviour, .asked (answer.outcome table), .told (.error error)]
  | .finalizePanicked answer => [.heard answer.behaviour, .asked (answer.outcome table), .broken]
  | .classifyPanicked => [.heard .panics]

theorem Fate.deeds_inj {table : LabelTable} {f g : Fate} (h : f.deeds table = g.deeds table) :
    f = g := by
  cases f <;> cases g <;> simp only [Fate.deeds, List.cons.injEq, Deed.heard.injEq, reduceCtorEq,
    Deed.told.injEq, Except.error.injEq, and_true, and_false] at h
  case written.written => rw [Answer.behaviour_inj h.1]
  case unwritten.unwritten => rw [Answer.behaviour_inj h.1, h.2.2]
  case finalizePanicked.finalizePanicked => rw [Answer.behaviour_inj h.1]
  case classifyPanicked.classifyPanicked => rfl

theorem Did.fate {table : LabelTable} {w : Work} {panicked : Bool} {deeds : List Deed}
    (h : Did table (.work w (.done panicked)) deeds) :
    ∃ fate : Fate, deeds = fate.deeds table := by
  cases h with
  | classifyPanicked => exact ⟨.classifyPanicked, rfl⟩
  | finalizePanicked _ answer => exact ⟨.finalizePanicked answer, rfl⟩
  | finalized _ answer result =>
    cases result with
    | ok _ => exact ⟨.written answer, rfl⟩
    | error error => exact ⟨.unwritten answer error, rfl⟩

end Predictor.Engine
