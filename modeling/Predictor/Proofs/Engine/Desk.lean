import Mathlib.Data.Finset.Dedup
import Mathlib.Data.Finset.Insert
import Predictor.Proofs.Engine.Accounting

/-!
Admission one by one. A desk keeps the number of slots in use, the claimed resources and what creation
calls depend on; it decides a submission on what the earlier ones left (`Desk.take`). The first poll
of a submission decides it in the same way (`decided_requestAdmission`).
-/

namespace Predictor.Engine

variable {σ : Type}

/-! ## The desk -/

/-- How a submission fares: it passes admission, or it is refused with an error, or it panics. -/
inductive Verdict
  | passes
  | refused (error : Error)
  | panics

structure Desk (σ : Type) where
  /-- Slots in use. -/
  count : Nat
  claimed : Finset String
  createMode : CallMode
  /-- Free permits for creation calls. -/
  free : Nat
  /-- What comes of a creation call that uses a permit. -/
  passage : Passage
  store : σ

namespace Desk

variable [PredictionStore σ]

/-- What the store makes of a creation call: it stands, or it has failed. -/
def file (desk : Desk σ) (submission : Submission) : Verdict × Desk σ :=
  match PredictionStore.create desk.store submission.owner submission.resource with
  | (.ok _, store) => (.passes, { desk with store })
  | (.error error, store) => (.refused error, { desk with store })

/-- What comes of a creation call that is not held back. -/
def endCreate (desk : Desk σ) (submission : Submission) : Passage → Verdict × Desk σ
  | .proceeds => desk.file submission
  | .fails => (.refused State.createUnavailable, desk)
  | .panics => (.panics, desk)

/-- What a creation call comes to at once; a call that is held back stands. -/
def create (desk : Desk σ) (submission : Submission) : Verdict × Desk σ :=
  match desk.createMode with
  | .ok => desk.endCreate submission .proceeds
  | .fail => desk.endCreate submission .fails
  | .panic => desk.endCreate submission .panics
  | .hold =>
    if 0 < desk.free then { desk with free := desk.free - 1 }.endCreate submission desk.passage
    else (.passes, desk)

/-- One slot and one resource more. -/
def occupy (desk : Desk σ) (resource : String) : Desk σ :=
  { desk with count := desk.count + 1, claimed := insert resource desk.claimed }

/-- A slot and the resource are kept unless the creation call fails or panics. -/
def keep (submission : Submission) : Verdict × Desk σ → Verdict × Desk σ
  | (.passes, desk) => (.passes, desk.occupy submission.resource)
  | (verdict, desk) => (verdict, desk)

/-- Decides one submission. -/
def take (limit : Nat) (desk : Desk σ) (submission : Submission) : Verdict × Desk σ :=
  if submission.resource = "" then
    (.refused (.invalidResource "resource must not be empty"), desk)
  else if limit ≤ desk.count then (.refused (.capacityExceeded limit), desk)
  else if submission.resource ∈ desk.claimed then
    (.refused (.duplicateInProgress submission.resource), desk)
  else keep submission (desk.create submission)

/-- Decides submissions in turn, each on what the earlier ones left. -/
def verdicts (limit : Nat) : Desk σ → List Submission → List Verdict
  | _, [] => []
  | desk, submission :: rest =>
    let (verdict, desk) := desk.take limit submission
    verdict :: desk.verdicts limit rest

end Desk

/-- What the engine's next submission finds. -/
def State.desk (s : State σ) : Desk σ where
  count := s.admission.inFlight.toNat
  claimed := s.admission.claimed.toFinset
  createMode := s.surroundings.createMode
  free := s.surroundings.createPermits.free
  passage := s.surroundings.createPassage
  store := s.store

/-- The verdict on a submission that has been decided. -/
def SubmitStage.verdict? : SubmitStage → Option Verdict
  | .creating false | .done (.returned (.ok _)) => some .passes
  | .done (.returned (.error error)) => some (.refused error)
  | .done .panicked => some .panics
  | .new | .creating true | .done .cancelled => none

theorem asleep_of_verdict? {submission : Submission} {stage : SubmitStage} {verdict : Verdict}
    (h : stage.verdict? = some verdict) : (Task.submit submission stage).awake = false := by
  rcases stage with _ | ⟨_ | _⟩ | _
  · simp [SubmitStage.verdict?] at h
  · rfl
  · simp [SubmitStage.verdict?] at h
  · rfl

theorem atCapacity_iff (s : State σ) :
    s.admission.atCapacity = true ↔ s.admission.capacity.toNat ≤ s.desk.count := by
  rw [Admission.atCapacity, decide_eq_true_iff, UInt64.le_iff_toNat_le]
  rfl

theorem mem_claimed {s : State σ} {resource : String} :
    resource ∈ s.desk.claimed ↔ resource ∈ s.admission.claimed :=
  List.mem_toFinset

/-! ## The admission of one submission -/

namespace Admission

variable {a a' : Admission} {resource : String}

theorem claim?_eq_none (h : a.reserve.claim? resource = none) : resource ∈ a.claimed := by
  unfold claim? at h
  split at h
  · rename_i claimed
    exact List.contains_iff_mem.1 claimed
  · simp at h

/-- An admission that is given back at once leaves everything as it was. -/
theorem release_claim (claims : a.reserve.claim? resource = some a') :
    (a'.release resource).inFlight = a.inFlight ∧ (a'.release resource).claimed = a.claimed := by
  obtain ⟨new, rfl⟩ := claim?_reserve claims
  refine ⟨unreserve_reserve a, ?_⟩
  show (a.claimed ++ [resource]).erase resource = a.claimed
  rw [List.erase_append_right _ new, List.erase_cons_head, List.append_nil]

end Admission

section Polls

variable [PredictionStore σ] {s x : State σ} {t : TaskId} {submission : Submission}
  {desk : Desk σ}

/-- From `s` to `s'` the submission of task `t` has been decided with this result. -/
structure Decided (s s' : State σ) (t : TaskId) (submission : Submission)
    (result : Verdict × Desk σ) : Prop where
  stage : ∃ stage, s'.tasks[t]? = some (.submit submission stage) ∧
    stage.verdict? = some result.1
  desk : s'.desk = result.2
  ready : s.ready <+: s'.ready
  capacity : s'.admission.capacity = s.admission.capacity

/-- In `x` the submission of task `t` has its slot and its resource on top of what the desk keeps. -/
structure Occupies (x : State σ) (t : TaskId) (submission : Submission) (desk : Desk σ) : Prop where
  here : x.tasks[t]? = some (.submit submission (.creating true))
  on : x.desk = desk.occupy submission.resource
  back : { x with admission := x.admission.release submission.resource }.desk = desk

omit [PredictionStore σ] in
theorem occupies_occupy {admission : Admission} (here : s.tasks[t]? = some (.submit submission .new))
    (free : s.admission.atCapacity = false)
    (claims : s.admission.reserve.claim? submission.resource = some admission) :
    Occupies (s.occupy t submission admission) t submission s.desk where
  here := getElem?_of_set_self rfl here
  on := by
    obtain ⟨-, rfl⟩ := Admission.claim?_reserve claims
    have counted := CounterUse.add_one_toNat (Admission.lt_capacity free)
    have claimed : (s.admission.claimed ++ [submission.resource]).toFinset =
        insert submission.resource s.admission.claimed.toFinset := by
      ext r
      rw [List.mem_toFinset, Finset.mem_insert, List.mem_toFinset, List.mem_append, List.mem_singleton,
        or_comm]
    simp only [State.desk, Desk.occupy, ← claimed, ← counted]
    rfl
  back := by
    obtain ⟨inFlight, claimed⟩ := Admission.release_claim claims
    simp only [State.desk, ← inFlight, ← claimed]
    rfl

omit [PredictionStore σ] in
theorem Occupies.store_eq (h : Occupies x t submission desk) : x.store = desk.store :=
  congrArg Desk.store h.back

omit [PredictionStore σ] in
/-- The admission is given back, and the submission ends. -/
theorem Occupies.fails (h : Occupies x t submission desk) (error : Error) (store : σ) :
    Decided x ({ x with store }.rollBack t submission error) t submission
      (.refused error, { desk with store }) where
  stage := ⟨.done (.returned (.error error)), getElem?_of_set_self rfl h.here, rfl⟩
  desk := congrArg (fun d : Desk σ => { d with store }) h.back
  ready := List.prefix_append _ _
  capacity := rfl

theorem Occupies.create (h : Occupies x t submission desk) :
    Decided x (x.create t submission) t submission (Desk.keep submission (desk.file submission)) := by
  cases created : PredictionStore.create desk.store submission.owner submission.resource with
  | mk result store =>
    cases result with
    | ok record =>
      have polled : x.create t submission = { x with store }.launch t submission record := by
        simp only [State.create, h.store_eq, created]
      have filed : desk.file submission = (.passes, { desk with store }) := by
        simp only [Desk.file, created]
      rw [polled, filed]
      exact {
        stage := ⟨.done (.returned (.ok record)),
          getElem?_of_append rfl (getElem?_of_set_self rfl h.here), rfl⟩
        desk := congrArg (fun d : Desk σ => { d with store }) h.on
        ready := List.prefix_append _ _
        capacity := rfl }
    | error error =>
      have polled : x.create t submission = { x with store }.rollBack t submission error := by
        simp only [State.create, h.store_eq, created]
      have filed : desk.file submission = (.refused error, { desk with store }) := by
        simp only [Desk.file, created]
      rw [polled, filed]
      exact h.fails error store

theorem Occupies.endCreate (h : Occupies x t submission desk) (passage : Passage) :
    Decided x (x.endCreate t submission passage) t submission
      (Desk.keep submission (desk.endCreate submission passage)) := by
  cases passage with
  | proceeds => exact h.create
  | fails =>
    have failed := h.fails State.createUnavailable x.store
    have same : { desk with store := x.store } = desk := by rw [h.store_eq]
    rwa [same] at failed
  | panics =>
    exact {
      stage := ⟨.done .panicked, getElem?_of_set_self rfl h.here, rfl⟩
      desk := h.back
      ready := List.prefix_append _ _
      capacity := rfl }

/-- A creation call for which there is a permit. -/
theorem Occupies.permitted (h : Occupies x t submission desk) (permits : Permits)
    (passage : Passage) :
    Decided x ((x.withCreatePermits permits).endCreate t submission passage) t submission
      (Desk.keep submission ({ desk with free := permits.free }.endCreate submission passage)) := by
  have occupies : Occupies (x.withCreatePermits permits) t submission
      { desk with free := permits.free } := {
    here := h.here
    on := congrArg (fun d : Desk σ => { d with free := permits.free }) h.on
    back := congrArg (fun d : Desk σ => { d with free := permits.free }) h.back }
  obtain ⟨stage, after, ready, capacity⟩ := occupies.endCreate passage
  exact ⟨stage, after, ready, capacity⟩

omit [PredictionStore σ] in
/-- A creation call that is held back. -/
theorem Occupies.held (h : Occupies x t submission desk) (permits : Permits)
    (free : permits.free = desk.free) :
    Decided x ((x.withCreatePermits permits).setTask t (.submit submission (.creating false))) t
      submission (.passes, desk.occupy submission.resource) where
  stage := ⟨.creating false, getElem?_of_set_self rfl h.here, rfl⟩
  desk := by
    have kept := congrArg (fun d : Desk σ => { d with free := permits.free }) h.on
    refine kept.trans ?_
    simp only [free]
    rfl
  ready := List.prefix_rfl
  capacity := rfl

theorem Occupies.callCreate (h : Occupies x t submission desk) :
    Decided x (x.callCreate t submission) t submission
      (Desk.keep submission (desk.create submission)) := by
  have mode : x.surroundings.createMode = desk.createMode := congrArg Desk.createMode h.back
  have free : x.surroundings.createPermits.free = desk.free := congrArg Desk.free h.back
  have passage : x.surroundings.createPassage = desk.passage := congrArg Desk.passage h.back
  cases chosen : desk.createMode with
  | ok =>
    simp only [State.callCreate, Desk.create, mode, chosen]
    exact h.endCreate .proceeds
  | fail =>
    simp only [State.callCreate, Desk.create, mode, chosen]
    exact h.endCreate .fails
  | panic =>
    simp only [State.callCreate, Desk.create, mode, chosen]
    exact h.endCreate .panics
  | hold =>
    by_cases permitted : 0 < desk.free
    · have polled : x.callCreate t submission = (x.withCreatePermits
          { x.surroundings.createPermits with free := desk.free - 1 }).endCreate t submission
            desk.passage := by
        simp [State.callCreate, State.withCreatePermits, mode, chosen, Permits.acquire, free, permitted,
          passage]
      have decided : desk.create submission =
          { desk with free := desk.free - 1 }.endCreate submission desk.passage := by
        simp only [Desk.create, chosen, permitted, if_true]
      rw [polled, decided]
      exact h.permitted _ _
    · have polled : x.callCreate t submission = (x.withCreatePermits
          { x.surroundings.createPermits with
            waiting := x.surroundings.createPermits.waiting ++ [t] }).setTask t
          (.submit submission (.creating false)) := by
        simp [State.callCreate, mode, chosen, Permits.acquire, free, permitted]
      have decided : desk.create submission = (.passes, desk) := by
        simp only [Desk.create, chosen, permitted, if_false]
      rw [polled, decided]
      exact h.held _ free

omit [PredictionStore σ] in
/-- A submission that is refused leaves the desk as it was. -/
theorem decided_reject {old : Task} (here : x.tasks[t]? = some old)
    (result : Telemetry.SubmissionResult) (error : Error) (desk : x.desk = s.desk)
    (ready : s.ready <+: x.ready) (capacity : x.admission.capacity = s.admission.capacity) :
    Decided s (x.reject t submission result error) t submission (.refused error, s.desk) where
  stage := ⟨.done (.returned (.error error)), getElem?_of_set_self rfl here, rfl⟩
  desk := desk
  ready := ready
  capacity := capacity

omit [PredictionStore σ] in
/-- A reservation that is taken back leaves the desk as it was. -/
theorem desk_takeBack (s : State σ) :
    ({ s with admission := s.admission.reserve.unreserve }.wakeDrains).desk = s.desk := by
  simp only [State.desk, ← Admission.unreserve_reserve s.admission]
  rfl

/-- The first poll of a submission decides it as the desk does. -/
theorem decided_requestAdmission (here : s.tasks[t]? = some (.submit submission .new)) :
    Decided s (s.requestAdmission t submission) t submission
      (s.desk.take s.admission.capacity.toNat submission) := by
  unfold State.requestAdmission Desk.take
  by_cases unnamed : submission.resource = ""
  · rw [if_pos (by simpa using unnamed), if_pos unnamed]
    exact decided_reject here _ _ rfl List.prefix_rfl rfl
  rw [if_neg (by simpa using unnamed), if_neg unnamed]
  by_cases full : s.admission.atCapacity = true
  · rw [if_pos full, if_pos ((atCapacity_iff s).1 full)]
    exact decided_reject here _ _ rfl List.prefix_rfl rfl
  rw [if_neg full, if_neg (mt (atCapacity_iff s).2 full)]
  cases claims : s.admission.reserve.claim? submission.resource with
  | none =>
    rw [if_pos (mem_claimed.2 (Admission.claim?_eq_none claims))]
    simp only [claims]
    exact decided_reject (s := s)
      (x := { s with admission := s.admission.reserve.unreserve }.wakeDrains) here _ _
      (desk_takeBack s) (List.prefix_append _ _) rfl
  | some admission =>
    obtain ⟨new, extended⟩ := Admission.claim?_reserve claims
    rw [if_neg (mt mem_claimed.1 new)]
    simp only [claims]
    have occupies := occupies_occupy here (Bool.eq_false_iff.2 full) claims
    obtain ⟨stage, after, ready, capacity⟩ := occupies.callCreate
    refine ⟨stage, after, ready, capacity.trans ?_⟩
    rw [extended]
    rfl

end Polls

end Predictor.Engine
