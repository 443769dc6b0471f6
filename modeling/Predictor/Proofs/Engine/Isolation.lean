import Predictor.Proofs.Engine.Lockstep
import Predictor.Proofs.Engine.Shares

/-!
Isolation of resources. Two runs of the same script, of which only the answers of the classifier for
one resource differ, are alike after every event (`isolated`): the answers for a resource show in
records of that resource, in the log of their units of work and in what these measure, and nowhere
else.
-/

namespace Predictor.Engine

/-! ## Scripts -/

section Scripts

variable {σ : Type} [PredictionStore σ] {s s' : State σ} {t : TaskId}

/-- The events of a script, each followed by polls until the engine is at rest. -/
def State.play (s : State σ) (script : List Stimulus) : State σ := script.foldl State.respond s

theorem Reachable.settle {initial : State σ} (h : Reachable initial s) :
    Reachable initial s.settle := by
  fun_induction State.settle s with
  | case1 => exact h
  | case2 s next step ih => exact ih (h.poll step)

theorem Reachable.play {initial : State σ} (h : Reachable initial s) (script : List Stimulus) :
    Reachable initial (s.play script) := by
  induction script generalizing s with
  | nil => exact h
  | cons stimulus rest ih => exact ih (h.event stimulus).settle

theorem play_append (s : State σ) (front back : List Stimulus) :
    s.play (front ++ back) = (s.play front).play back :=
  List.foldl_append

theorem settle_polls (s : State σ) (n : Nat) : (s.polls n).settle = s.settle := by
  induction n generalizing s with
  | zero => rfl
  | succ n ih =>
    unfold State.polls
    split
    · rfl
    · rename_i next step
      rw [ih, settle_of_step? step]

theorem settle_of_atRest (rest : s.AtRest) : s.settle = s :=
  settle_of_halted (by rw [State.step?, show s.ready = [] from rest])

theorem respond_of_polls {stimulus : Stimulus} {n : Nat}
    (rest : ((s.apply stimulus).polls n).AtRest) :
    s.respond stimulus = (s.apply stimulus).polls n := by
  rw [State.respond, ← settle_polls (s.apply stimulus) n, settle_of_atRest rest]

/-! ## Held calls -/

omit [PredictionStore σ] in
theorem Advance.finalizeMode_eq (move : Advance t s s') :
    s'.surroundings.finalizeMode = s.surroundings.finalizeMode := by
  cases move with
  | unanswered => rw [unanswered_eq]
  | occupy | createPermit | call | answered | finalizePermit => rfl

theorem Halt.finalizeMode_eq (move : Halt t s s') :
    s'.surroundings.finalizeMode = s.surroundings.finalizeMode := by
  cases move with
  | checked =>
    unfold State.checkIdle
    split <;> rfl
  | asleep | unnamed | full | duplicate | launched | rolledBack | createPanicked | createHeld
  | gateHeld | classifyPanicked | finalizePanicked | written | unwritten | finalizeHeld => rfl

theorem Polled.finalizeMode_eq (poll : Polled t s s') :
    s'.surroundings.finalizeMode = s.surroundings.finalizeMode := by
  induction poll with
  | halt last => exact last.finalizeMode_eq
  | advance first _ ih => exact ih.trans first.finalizeMode_eq

theorem finalizeMode_step? (step : s.step? = some s') :
    s'.surroundings.finalizeMode = s.surroundings.finalizeMode := by
  obtain ⟨t, rest, -, rfl⟩ := State.poll_of_step? step
  exact (polled_poll { s with ready := rest } t).finalizeMode_eq

theorem finalizeMode_polls (s : State σ) (n : Nat) :
    (s.polls n).surroundings.finalizeMode = s.surroundings.finalizeMode := by
  induction n generalizing s with
  | zero => rfl
  | succ n ih =>
    unfold State.polls
    split
    · rfl
    · rw [ih, finalizeMode_step? ‹_›]

theorem finalizeMode_settle (s : State σ) :
    s.settle.surroundings.finalizeMode = s.surroundings.finalizeMode := by
  fun_induction State.settle s with
  | case1 => rfl
  | case2 s next step ih => rw [ih, finalizeMode_step? step]

omit [PredictionStore σ] in
theorem finalizeMode_grants (through : List TaskId) (s : State σ) :
    (through.foldl State.grant s).surroundings.finalizeMode = s.surroundings.finalizeMode := by
  rw [surroundings_grants]

omit [PredictionStore σ] in
theorem finalizeMode_grantNext (next : Option TaskId) (s : State σ) :
    (s.grantNext next).surroundings.finalizeMode = s.surroundings.finalizeMode := by
  rw [grantNext_eq, finalizeMode_grants]

omit [PredictionStore σ] in
theorem surroundings_beginAll (s : State σ) (submissions : List Submission) :
    (submissions.foldl State.beginSubmit s).surroundings = s.surroundings := by
  induction submissions generalizing s with
  | nil => rfl
  | cons submission rest ih => exact ih (s.beginSubmit submission)

omit [PredictionStore σ] in
theorem finalizeMode_passCreate (s : State σ) :
    s.passCreate.surroundings.finalizeMode = s.surroundings.finalizeMode :=
  finalizeMode_grantNext _ (s.withCreatePermits _)

omit [PredictionStore σ] in
theorem finalizeMode_cancel (s : State σ) (t : TaskId) :
    (s.cancel t).surroundings.finalizeMode = s.surroundings.finalizeMode := by
  unfold State.cancel
  split
  · rfl
  · rename_i granted _
    cases granted with
    | true => exact finalizeMode_passCreate s
    | false => rfl
  · rfl

/-- Finalization calls are held back only after an event has said so. -/
theorem prompt_apply {stimulus : Stimulus} (prompt : s.surroundings.finalizeMode ≠ .hold)
    (never : stimulus ≠ .setFinalizeMode .hold) :
    (s.apply stimulus).surroundings.finalizeMode ≠ .hold := by
  have kept {w : Surroundings} (same : w.finalizeMode = s.surroundings.finalizeMode) :
      w.finalizeMode ≠ .hold := same ▸ prompt
  cases stimulus with
  | setFinalizeMode mode => exact fun held => never (congrArg Stimulus.setFinalizeMode held)
  | submitAll submissions => exact kept (congrArg _ (surroundings_beginAll s submissions))
  | cancel t => exact kept (finalizeMode_cancel s t)
  | passCreate => exact kept (finalizeMode_passCreate s)
  | passFinalize => exact kept (finalizeMode_grantNext _ (s.withFinalizePermits _))
  | passGate name => exact kept (finalizeMode_grantNext _ (s.withGates _))
  | openGates => exact kept (finalizeMode_grants _ (s.withGates _))
  | submit | drain | behave | setCreateMode | setCreatePassage | setFinalizePassage | createDirectly
  | finalizeDirectly => exact kept rfl

end Scripts

/-! ## Two runs -/

section Runs

variable {capacity : UInt64} {table : LabelTable} {supplies : Supplies}
  {surroundings surroundings' : Surroundings} {freshIds : Nat → PredictionId} {resource : String}
  {mine : TaskId → Bool} {s s' final : State MemoryStore} {scripts scripts' : List Stimulus}

/-- Whether a task is a unit of work for the resource. -/
def State.isUnitOf (s : State MemoryStore) (resource : String) (t : TaskId) : Bool :=
  (s.tasks[t]?.bind Task.unit?).any fun w => w.resource == resource

theorem tidy_of_reachable
    (h : Reachable (.start capacity table (.empty supplies) surroundings freshIds) s)
    (later : Reachable s final) (unique : final.store.Unique)
    (prompt : s.surroundings.finalizeMode ≠ .hold) {t : TaskId} {w : Work} {stage : WorkStage}
    (here : s.tasks[t]? = some (.work w stage)) :
    s.Tidy resource (final.isUnitOf resource) t w where
  distinct := (filed_of_reachable h (later.unique unique)).sound.distinct
  filed record found := by
    have filed := filed_of_reachable h (later.unique unique)
    obtain ⟨record', found', own⟩ := filed.find?_unit (intake_of_reachable h) here
    exact Option.some.inj (found.symm.trans found') ▸ own
  marked own := by
    have origin := later.grows.origin_eq here
    rw [State.origins, List.getElem?_map] at origin
    obtain ⟨task, there, same⟩ := Option.map_eq_some_iff.1 origin
    obtain ⟨stage', rfl⟩ := Task.origin_eq_work same
    simp [State.isUnitOf, there, Task.unit?, own]
  prompt := prompt

theorem State.Alike.respond {stimulus stimulus' : Stimulus} (h : s.Alike resource mine s')
    (alike : stimulus.Alike resource stimulus') (distinct : s.store.ids.Nodup)
    (tidy : ∀ n t w stage, ((s.apply stimulus).polls n).tasks[t]? = some (.work w stage) →
      ((s.apply stimulus).polls n).Tidy resource mine t w) :
    (s.respond stimulus).Alike resource mine (s'.respond stimulus') :=
  (h.apply distinct alike).settle tidy

theorem State.Alike.play (scripts_alike : List.Forall₂ (Stimulus.Alike resource) scripts scripts')
    (h : Reachable (.start capacity table (.empty supplies) surroundings freshIds) s)
    (alike : s.Alike resource mine s') (unique : (s.play scripts).store.Unique)
    (marked : mine = (s.play scripts).isUnitOf resource)
    (prompt : s.surroundings.finalizeMode ≠ .hold)
    (never : Stimulus.setFinalizeMode .hold ∉ scripts) :
    (s.play scripts).Alike resource mine (s'.play scripts') := by
  induction scripts_alike generalizing s s' with
  | nil => exact alike
  | @cons stimulus stimulus' rest rest' same _ ih =>
    rw [List.mem_cons, not_or] at never
    have after : (s.apply stimulus).surroundings.finalizeMode ≠ .hold :=
      prompt_apply prompt (Ne.symm never.1)
    have distinct : s.store.ids.Nodup :=
      (filed_of_reachable h ((Reachable.start.play (stimulus :: rest)).unique unique)).sound.distinct
    have tidy : ∀ n t w stage, ((s.apply stimulus).polls n).tasks[t]? = some (.work w stage) →
        ((s.apply stimulus).polls n).Tidy resource mine t w := by
      intro n t w stage here
      have later : Reachable ((s.apply stimulus).polls n) (s.play (stimulus :: rest)) := by
        show Reachable ((s.apply stimulus).polls n) ((s.apply stimulus).settle.play rest)
        rw [← settle_polls (s.apply stimulus) n]
        exact Reachable.start.settle.play rest
      rw [marked]
      exact tidy_of_reachable ((h.event stimulus).polls n) later unique
        ((finalizeMode_polls (s.apply stimulus) n).trans_ne after) here
    have settled : (s.respond stimulus).surroundings.finalizeMode ≠ .hold := by
      rw [State.respond, finalizeMode_settle]
      exact after
    exact ih (h.event stimulus).settle (alike.respond same distinct tidy) unique marked settled
      never.2

/-- What two states have in common that differ in nothing but what the classifier answers for the
resource. -/
structure State.SameBut (resource : String) (s s' : State MemoryStore) : Prop where
  /-- Verdicts and returned records, the order of the endings, calls and admissions are the same, and
  so are the records of other resources and the events and deeds of their units of work. -/
  alike : s.Alike resource (s.isUnitOf resource) s'
  /-- The store gives the same answers about other records. -/
  answers : ∀ id, (∀ record, s.store.find? id = some record → record.resource ≠ resource) →
    (s.store.get id).map Prediction.untimed = (s'.store.get id).map Prediction.untimed ∧
      ∀ outcome, (s.store.finalize id outcome).1 = (s'.store.finalize id outcome).1
  /-- The measurements are the same apart from those that the units of work for the resource make. -/
  measured : ∃ common,
    s.measured.Perm (common ++ s.sharesFor (s.isUnitOf resource)) ∧
      s'.measured.Perm (common ++ s'.sharesFor (s'.isUnitOf resource))

theorem State.Alike.isUnitOf_eq (h : s.Alike resource mine s') :
    s.isUnitOf resource = s'.isUnitOf resource := by
  have units (x : State MemoryStore) (t : TaskId) : x.tasks[t]?.bind Task.unit? =
      (x.tasks.map (Task.veiled resource))[t]?.bind Task.unit? := by
    rw [List.getElem?_map, Option.bind_map]
    simp only [Function.comp_def, Task.unit?_veiled]
  funext t
  rw [State.isUnitOf, State.isUnitOf, units s, units s', h.tasks]

theorem State.Alike.shares_eq (h : s.Alike resource mine s') :
    s.sharesFor (fun t => !mine t) = s'.sharesFor fun t => !mine t := by
  unfold State.sharesFor
  rw [h.length_eq]
  refine List.flatMap_congr fun t ht => ?_
  have other : mine t = false := by simpa using (List.mem_filter.1 ht).2
  rw [State.deedsOf, State.deedsOf, ← deedsIn_filter other, h.deeds, deedsIn_filter other]

theorem State.Alike.sameBut (h : s.Alike resource (s.isUnitOf resource) s') (metered : Metered s)
    (metered' : Metered s') : s.SameBut resource s' where
  alike := h
  answers id other := ⟨h.store.get id other, fun outcome => h.store.finalize_result id outcome other⟩
  measured := by
    refine ⟨_, metered.perm (s.isUnitOf resource), ?_⟩
    rw [h.measured, h.shares_eq, ← h.isUnitOf_eq]
    exact metered'.perm (s.isUnitOf resource)

theorem State.Alike.start (h : surroundings.Alike resource surroundings') (capacity : UInt64)
    (table : LabelTable) (store : MemoryStore) (freshIds : Nat → PredictionId)
    (mine : TaskId → Bool) :
    (State.start capacity table store surroundings freshIds).Alike resource mine
      (State.start capacity table store surroundings' freshIds) :=
  { refl resource mine _ with
    surroundings := h }

/-- Two runs of a script over stores that hand out no id twice, of which only the answers of the
classifier for one resource differ, and in which no finalization call is held back: after every event
the states have everything in common but what has come of these answers. -/
theorem isolated (surroundings_alike : surroundings.Alike resource surroundings')
    (scripts_alike : List.Forall₂ (Stimulus.Alike resource) scripts scripts')
    (prompt : surroundings.finalizeMode ≠ .hold)
    (never : Stimulus.setFinalizeMode .hold ∉ scripts)
    (unique : ((State.start capacity table (MemoryStore.empty supplies) surroundings freshIds).play
      scripts).store.Unique) (n : Nat) :
    ((State.start capacity table (MemoryStore.empty supplies) surroundings freshIds).play
        (scripts.take n)).SameBut resource
      ((State.start capacity table (MemoryStore.empty supplies) surroundings' freshIds).play
        (scripts'.take n)) := by
  have unique_then : ((State.start capacity table (MemoryStore.empty supplies) surroundings
      freshIds).play (scripts.take n)).store.Unique := by
    rw [← List.take_append_drop n scripts, play_append] at unique
    exact (Reachable.start.play _).unique unique
  have alike := State.Alike.play (List.forall₂_take n scripts_alike) .start
    (.start surroundings_alike capacity table (.empty supplies) freshIds _) unique_then rfl prompt
    fun mem => never (List.mem_of_mem_take mem)
  exact alike.sameBut (metered_of_reachable (Reachable.start.play _))
    (metered_of_reachable (Reachable.start.play _))

end Runs

namespace Sample

/-- The classifier answers, or it panics for one resource. -/
def classifier (faulty : Bool) : Surroundings :=
  { Surroundings.start (.answers ⟨none⟩) true with
    behaviours := if faulty then [("scan.png", .panics)] else [] }

def engine (faulty : Bool) : State MemoryStore :=
  .start 2 ⟨[]⟩ (.empty supplies) (classifier faulty) supplies.ids

/-- Two resources, one after the other. -/
def visits : List Stimulus := [.submit submission, .submit ⟨⟨none, []⟩, "owner", "page.png"⟩]

theorem play_visits (faulty : Bool) : (engine faulty).play visits =
    ((((engine faulty).apply (.submit submission)).polls 2).apply
      (.submit ⟨⟨none, []⟩, "owner", "page.png"⟩)).polls 2 := by
  have first : (engine faulty).respond (.submit submission) =
      ((engine faulty).apply (.submit submission)).polls 2 :=
    respond_of_polls (by cases faulty <;> rfl)
  show ((engine faulty).respond _).respond _ = _
  rw [first]
  exact respond_of_polls (by cases faulty <;> rfl)

end Sample

/-- The panic shows in the record of its own resource alone. -/
theorem isolated_sample :
    ((Sample.engine false).play Sample.visits).SameBut "scan.png"
      ((Sample.engine true).play Sample.visits) ∧
    ((Sample.engine false).play Sample.visits).store.records.map Prediction.status =
      [.completed, .completed] ∧
    ((Sample.engine true).play Sample.visits).store.records.map Prediction.status =
      [.processing, .completed] := by
  have answers : (Sample.classifier false).Alike "scan.png" (Sample.classifier true) :=
    ⟨rfl, rfl, rfl, rfl, rfl, rfl, rfl, fun other ne => by
      simp [Surroundings.behaviourOf, Sample.classifier, Surroundings.start, List.lookup_cons,
        beq_eq_false_iff_ne.2 ne]⟩
  have unique : ((Sample.engine false).play Sample.visits).store.Unique := by
    rw [Sample.play_visits]
    decide
  have same := isolated answers (.cons (.same _) (.cons (.same _) .nil)) (by decide)
    (by simp) unique 2
  refine ⟨same, ?_, ?_⟩ <;> rw [Sample.play_visits] <;> rfl

end Predictor.Engine
