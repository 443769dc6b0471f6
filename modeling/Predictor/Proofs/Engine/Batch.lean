import Predictor.Proofs.Engine.Desk

/-!
Submissions that begin together. They stand in the ready queue one behind the other, before all tasks
that their polls wake or start, so they are decided one by one as the desk decides them in turn
(`settle_batch`); what follows until the engine is at rest leaves the verdicts as they are.
-/

namespace Predictor.Engine

variable {σ : Type}

/-! ## The batch in the queue -/

/-- Submissions that have begun together, at the places from `first` on. -/
structure Queued (s : State σ) (first : TaskId) (submissions : List Submission)
    (behind : List TaskId) : Prop where
  ready : s.ready = List.range' first submissions.length ++ behind
  new : ∀ (i : Nat) (submission : Submission), submissions[i]? = some submission →
    s.tasks[first + i]? = some (.submit submission .new)

theorem tasks_beginAll (s : State σ) (submissions : List Submission) :
    (submissions.foldl State.beginSubmit s).tasks =
      s.tasks ++ submissions.map fun submission => .submit submission .new := by
  induction submissions generalizing s with
  | nil => exact (List.append_nil _).symm
  | cons submission rest ih =>
    rw [List.foldl_cons, ih, List.map_cons]
    exact List.append_assoc _ _ _

theorem ready_beginAll (s : State σ) (submissions : List Submission) :
    (submissions.foldl State.beginSubmit s).ready =
      s.ready ++ List.range' s.tasks.length submissions.length := by
  induction submissions generalizing s with
  | nil => exact (List.append_nil _).symm
  | cons submission rest ih =>
    have longer : (s.beginSubmit submission).tasks.length = s.tasks.length + 1 :=
      List.length_append
    rw [List.foldl_cons, ih, longer, List.length_cons, List.range'_succ]
    exact List.append_assoc _ _ _

theorem desk_beginAll (s : State σ) (submissions : List Submission) :
    (submissions.foldl State.beginSubmit s).desk = s.desk ∧
      (submissions.foldl State.beginSubmit s).admission = s.admission := by
  induction submissions generalizing s with
  | nil => exact ⟨rfl, rfl⟩
  | cons submission rest ih => exact ih (s.beginSubmit submission)

theorem queued_beginAll {s : State σ} (rest : s.AtRest) (submissions : List Submission) :
    Queued (submissions.foldl State.beginSubmit s) s.tasks.length submissions [] where
  ready := by
    rw [ready_beginAll, rest, List.nil_append, List.append_nil]
  new i submission hi := by
    rw [tasks_beginAll, List.getElem?_append_right (Nat.le_add_right _ _), Nat.add_sub_cancel_left,
      List.getElem?_map, hi, Option.map_some]

section Runs

variable [PredictionStore σ] {s s' : State σ} {t : TaskId}

/-! ## Until rest -/

theorem settle_of_step? (h : s.step? = some s') : s.settle = s'.settle := by
  rw [State.settle]
  split
  · rename_i halted
    simp [h] at halted
  · rename_i next step
    rw [Option.some.inj (h.symm.trans step)]

theorem settle_of_halted (h : s.step? = none) : s.settle = s := by
  rw [State.settle]
  split
  · rfl
  · rename_i next step
    simp [h] at step

theorem poll_asleep {task : Task} (here : s.tasks[t]? = some task) (asleep : task.awake = false) :
    s.poll t = s := by
  rw [State.poll, here]
  rcases task with ⟨_, _ | ⟨_ | _⟩ | _⟩ | ⟨_, _ | ⟨_ | _⟩ | ⟨_, _ | _⟩ | _⟩ | ⟨_ | _ | _⟩ <;>
    first | rfl | nomatch asleep

theorem step?_asleep {task : Task} (h : s.step? = some s') (here : s.tasks[t]? = some task)
    (asleep : task.awake = false) : s'.tasks[t]? = some task := by
  obtain ⟨first, rest, ready, rfl⟩ := State.poll_of_step? h
  by_cases own : t = first
  · subst own
    have idle : { s with ready := rest }.poll t = { s with ready := rest } :=
      poll_asleep here asleep
    rw [idle]
    exact here
  · exact (polled_poll { s with ready := rest } first).other own here

/-- A task for which a poll would do nothing stays where it is. -/
theorem settle_asleep {task : Task} (here : s.tasks[t]? = some task)
    (asleep : task.awake = false) : s.settle.tasks[t]? = some task := by
  fun_induction State.settle s with
  | case1 s halted => exact here
  | case2 s next step ih => exact ih (step?_asleep step here asleep)

/-- The first of a batch is decided, and the others move up. -/
theorem Queued.step {first : TaskId} {submission : Submission} {rest : List Submission}
    {behind : List TaskId} (h : Queued s first (submission :: rest) behind) :
    ∃ s' more, s.step? = some s' ∧ Queued s' (first + 1) rest (behind ++ more) ∧
      ∃ stage, s'.tasks[first]? = some (.submit submission stage) ∧
        stage.verdict? = some (s.desk.take s.admission.capacity.toNat submission).1 ∧
        s'.desk = (s.desk.take s.admission.capacity.toNat submission).2 ∧
        s'.admission.capacity = s.admission.capacity := by
  let taken : State σ := { s with ready := List.range' (first + 1) rest.length ++ behind }
  have here : taken.tasks[first]? = some (.submit submission .new) := h.new 0 submission rfl
  have polled : taken.poll first = taken.requestAdmission first submission := by
    simp only [State.poll, here]
  have step : s.step? = some (taken.poll first) := by
    simp only [State.step?, h.ready, List.length_cons, List.range'_succ, List.cons_append, taken]
  obtain ⟨⟨stage, after, verdict⟩, desk, ⟨more, ready⟩, capacity⟩ := decided_requestAdmission here
  refine ⟨taken.poll first, more, step, ⟨?_, fun i other hi => ?_⟩, stage, polled ▸ after, verdict,
    polled ▸ desk, polled ▸ capacity⟩
  · rw [polled, ← ready, ← List.append_assoc]
  · have before := h.new (i + 1) other hi
    rw [Nat.add_assoc, Nat.add_comm 1 i]
    exact (polled_poll taken first).other (Nat.ne_of_gt (Nat.lt_add_of_pos_right i.succ_pos)) before

/-- At rest each submission of a batch has the verdict that the desk gives it in its turn. -/
theorem settle_batch {first : TaskId} {submissions : List Submission} {behind : List TaskId}
    (h : Queued s first submissions behind) (i : Nat) {submission : Submission}
    (hi : submissions[i]? = some submission) :
    ∃ stage verdict, s.settle.tasks[first + i]? = some (.submit submission stage) ∧
      stage.verdict? = some verdict ∧
      (s.desk.verdicts s.admission.capacity.toNat submissions)[i]? = some verdict := by
  induction submissions generalizing s first behind i with
  | nil => simp at hi
  | cons item rest ih =>
    obtain ⟨s', more, step, queued, stage, after, verdict, desk, capacity⟩ := h.step
    rw [settle_of_step? step]
    cases i with
    | zero =>
      obtain rfl := Option.some.inj hi
      exact ⟨stage, _, settle_asleep after (asleep_of_verdict? verdict), verdict, rfl⟩
    | succ i =>
      obtain ⟨stage, verdict, here, hverdict, heq⟩ := ih queued i hi
      rw [desk, capacity] at heq
      refine ⟨stage, verdict, ?_, hverdict, heq⟩
      rwa [Nat.add_assoc, Nat.add_comm 1 i] at here

end Runs

/-! ## Distinct resources -/

section Distinct

variable [PredictionStore σ]

/-- The store never fails: creation calls are taken, at once or later, and they create a record. -/
structure Desk.Obliging (desk : Desk σ) : Prop where
  mode : desk.createMode = .ok ∨ desk.createMode = .hold ∧ desk.passage = .proceeds
  creates : ∀ (store : σ) (owner resource : String), ∃ record after,
    PredictionStore.create store owner resource = (.ok record, after)

theorem Desk.Obliging.file {desk : Desk σ} (h : desk.Obliging) (submission : Submission) :
    ∃ store, desk.file submission = (.passes, { desk with store }) := by
  obtain ⟨record, store, created⟩ :=
    h.creates desk.store submission.owner submission.resource
  exact ⟨store, by simp only [Desk.file, created]⟩

theorem Desk.Obliging.create {desk : Desk σ} (h : desk.Obliging) (submission : Submission) :
    ∃ free store, desk.create submission = (.passes, { desk with free, store }) := by
  rcases h.mode with mode | ⟨mode, later⟩
  · obtain ⟨store, filed⟩ := h.file submission
    exact ⟨desk.free, store, by simp only [Desk.create, mode, Desk.endCreate, filed]⟩
  · by_cases permitted : 0 < desk.free
    · have rest : ({ desk with free := desk.free - 1 } : Desk σ).Obliging := ⟨h.mode, h.creates⟩
      obtain ⟨store, filed⟩ := rest.file submission
      have called : desk.create submission =
          { desk with free := desk.free - 1 }.file submission := by
        simp only [Desk.create, mode, permitted, if_true, later, Desk.endCreate]
      exact ⟨desk.free - 1, store, called.trans filed⟩
    · have held : desk.create submission = (.passes, desk) := by
        simp only [Desk.create, mode, permitted, if_false]
      exact ⟨desk.free, desk.store, held⟩

/-- Of submissions of distinct resources that nobody has claimed, the first ones take the free slots,
and the others find the engine full. -/
theorem Desk.Obliging.verdicts {desk : Desk σ} (h : desk.Obliging) (limit : Nat)
    {submissions : List Submission}
    (named : ∀ submission ∈ submissions, submission.resource ≠ "")
    (distinct : (submissions.map Submission.resource).Nodup)
    (unclaimed : ∀ submission ∈ submissions, submission.resource ∉ desk.claimed) :
    desk.verdicts limit submissions =
      List.replicate (min submissions.length (limit - desk.count)) .passes ++
        List.replicate (submissions.length - (limit - desk.count))
          (.refused (.capacityExceeded limit)) := by
  induction submissions generalizing desk with
  | nil => simp [Desk.verdicts]
  | cons first rest ih =>
    rw [List.forall_mem_cons] at named unclaimed
    rw [List.map_cons, List.nodup_cons] at distinct
    rw [Desk.verdicts, Desk.take, if_neg named.1]
    by_cases full : limit ≤ desk.count
    · rw [if_pos full]
      show Verdict.refused (.capacityExceeded limit) :: desk.verdicts limit rest = _
      rw [ih h named.2 distinct.2 unclaimed.2, Nat.sub_eq_zero_of_le full]
      simp [List.replicate_succ]
    · obtain ⟨free, store, created⟩ := h.create first
      rw [if_neg full, if_neg unclaimed.1, created]
      let after : Desk σ := { desk with free, store }.occupy first.resource
      have obliging : after.Obliging := ⟨h.mode, h.creates⟩
      have open_ : ∀ submission ∈ rest, submission.resource ∉ after.claimed := by
        intro submission hmem
        refine fun claimed => (Finset.mem_insert.1 claimed).elim (fun same => ?_)
          (unclaimed.2 submission hmem)
        exact distinct.1 (same ▸ List.mem_map_of_mem hmem)
      have slots : limit - desk.count = limit - after.count + 1 := by
        show limit - desk.count = limit - (desk.count + 1) + 1
        omega
      show Verdict.passes :: after.verdicts limit rest = _
      rw [ih obliging named.2 distinct.2 open_, slots, List.length_cons, Nat.add_min_add_right,
        Nat.add_sub_add_right, List.replicate_succ, List.cons_append]

end Distinct

/-! ## Every run -/

/-- The verdict on the submission of task `t`. -/
def State.verdict? (s : State σ) (t : TaskId) : Option Verdict :=
  match s.tasks[t]? with
  | some (.submit _ stage) => stage.verdict?
  | _ => none

section Verdicts

variable [PredictionStore σ]

/-- The verdicts on submissions that begin together, once the engine is at rest again. -/
def State.batchVerdicts (s : State σ) (submissions : List Submission) : List (Option Verdict) :=
  (List.range submissions.length).map fun i =>
    (s.respond (.submitAll submissions)).verdict? (s.tasks.length + i)

theorem Desk.length_verdicts (limit : Nat) (desk : Desk σ) (submissions : List Submission) :
    (desk.verdicts limit submissions).length = submissions.length := by
  induction submissions generalizing desk with
  | nil => rfl
  | cons first rest ih => exact congrArg (· + 1) (ih _)

/-- Submissions that begin together while the engine is at rest are decided as the desk decides them
in turn. -/
theorem respond_submitAll {s : State σ} (rest : s.AtRest) (submissions : List Submission) (i : Nat)
    {submission : Submission} (hi : submissions[i]? = some submission) :
    ∃ stage verdict, (s.respond (.submitAll submissions)).tasks[s.tasks.length + i]? =
        some (.submit submission stage) ∧ stage.verdict? = some verdict ∧
      (s.desk.verdicts s.admission.capacity.toNat submissions)[i]? = some verdict := by
  have decided := settle_batch (queued_beginAll rest submissions) i hi
  obtain ⟨desk, admission⟩ := desk_beginAll s submissions
  rwa [desk, admission] at decided

theorem batchVerdicts_eq {s : State σ} (rest : s.AtRest) (submissions : List Submission) :
    s.batchVerdicts submissions =
      (s.desk.verdicts s.admission.capacity.toNat submissions).map some := by
  refine List.ext_getElem? fun i => ?_
  rw [State.batchVerdicts, List.getElem?_map, List.getElem?_map]
  cases hi : submissions[i]? with
  | none =>
    have le := List.getElem?_eq_none_iff.1 hi
    rw [List.getElem?_eq_none (by simpa using le),
      List.getElem?_eq_none (by rw [Desk.length_verdicts]; exact le)]
    rfl
  | some submission =>
    obtain ⟨lt, -⟩ := List.getElem?_eq_some_iff.1 hi
    obtain ⟨stage, verdict, here, hstage, hverdict⟩ := respond_submitAll rest submissions i hi
    rw [List.getElem?_range lt, hverdict]
    simp only [Option.map_some, State.verdict?, here, hstage]

variable {capacity : UInt64} {table : LabelTable} {store : σ} {surroundings : Surroundings}
  {freshIds : Nat → PredictionId} {s : State σ}

/-- Submissions that begin together while the engine is at rest are decided in turn, by the number in
flight, the claimed resources and the state of creation calls alone: whatever else differs, such as
the classifier and the drains, the verdicts are the same. Of submissions of distinct resources that
nobody has claimed, the first ones take the free slots and the others find the engine full. -/
theorem batch_decided_in_turn
    (h : Reachable (State.start capacity table store surroundings freshIds) s) (rest : s.AtRest)
    (submissions : List Submission) :
    (∀ (i : Nat) (submission : Submission), submissions[i]? = some submission → ∃ stage,
      (s.respond (.submitAll submissions)).tasks[s.tasks.length + i]? =
        some (.submit submission stage)) ∧
    s.desk.count = s.live.length ∧ s.desk.claimed = s.live.toFinset ∧
    s.batchVerdicts submissions = (s.desk.verdicts capacity.toNat submissions).map some ∧
    (∀ other : State σ, other.AtRest → other.admission.capacity = capacity →
      other.desk = s.desk → other.batchVerdicts submissions = s.batchVerdicts submissions) ∧
    (s.desk.Obliging → (∀ submission ∈ submissions, submission.resource ≠ "") →
      (submissions.map Submission.resource).Nodup →
      (∀ submission ∈ submissions, submission.resource ∉ s.live) →
      s.batchVerdicts submissions =
        List.replicate (min submissions.length (capacity.toNat - s.live.length)) (some .passes) ++
          List.replicate (submissions.length - (capacity.toNat - s.live.length))
            (some (.refused (.capacityExceeded capacity.toNat)))) := by
  have acc := accounted_of_reachable h
  have limit := capacity_of_reachable h
  have count : s.desk.count = s.live.length := acc.sound.counted.trans acc.perm_live.length_eq
  have claimed : s.desk.claimed = s.live.toFinset := List.toFinset_eq_of_perm _ _ acc.perm_live
  have decided := batchVerdicts_eq rest submissions
  rw [limit] at decided
  refine ⟨fun i submission hi => ?_, count, claimed, decided, fun other atRest cap desk => ?_,
    fun obliging named distinct unclaimed => ?_⟩
  · obtain ⟨stage, -, here, -⟩ := respond_submitAll rest submissions i hi
    exact ⟨stage, here⟩
  · rw [decided, batchVerdicts_eq atRest, cap, desk]
  · have free := obliging.verdicts capacity.toNat named distinct
      fun submission hmem => by simpa [claimed] using unclaimed submission hmem
    rw [decided, free, List.map_append, List.map_replicate, List.map_replicate, count]

/-- A slot is taken, and the other one is free. -/
theorem batch_decided_in_turn_sample : (Sample.run false).AtRest ∧
    (Sample.run false).batchVerdicts [Sample.submission, ⟨⟨none, []⟩, "owner", "page.png"⟩,
        ⟨⟨none, []⟩, "owner", ""⟩, Sample.submission] =
      [some (.refused (.duplicateInProgress "scan.png")), some .passes,
        some (.refused (.invalidResource "resource must not be empty")),
        some (.refused (.capacityExceeded 2))] ∧
    (Sample.run false).desk.Obliging ∧
    (Sample.run false).batchVerdicts [⟨⟨none, []⟩, "owner", "page.png"⟩,
        ⟨⟨none, []⟩, "owner", "cover.png"⟩] =
      [some .passes, some (.refused (.capacityExceeded 2))] := by
  have rest : (Sample.run false).AtRest := rfl
  have obliging : (Sample.run false).desk.Obliging := ⟨.inl rfl, fun _ _ _ => ⟨_, _, rfl⟩⟩
  obtain ⟨-, -, -, decided, -⟩ := batch_decided_in_turn (Sample.reachable_run false) rest
    [Sample.submission, ⟨⟨none, []⟩, "owner", "page.png"⟩, ⟨⟨none, []⟩, "owner", ""⟩,
      Sample.submission]
  obtain ⟨-, -, -, -, -, distinct⟩ := batch_decided_in_turn (Sample.reachable_run false) rest
    [⟨⟨none, []⟩, "owner", "page.png"⟩, ⟨⟨none, []⟩, "owner", "cover.png"⟩]
  exact ⟨rest, decided.trans rfl, obliging,
    (distinct obliging (by decide) (by decide) (by decide)).trans rfl⟩

end Verdicts

end Predictor.Engine
