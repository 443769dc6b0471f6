import Predictor.Proofs.Engine.Aftermath
import Predictor.Proofs.Engine.Isolation
import Predictor.Proofs.Engine.Order
import Predictor.Proofs.Engine.Quiescence
import Predictor.Proofs.Engine.Refusal

/-!
Submissions that come to nothing after they have passed admission: the creation call returns an error
or panics, at once or after it was held back, or the submission is cancelled inside it (`SetupFails`).
Either way the admission is given back in that very poll or cancellation and nobody else is touched
(`RolledBack`), and nothing comes of the submission later (`Spent`). A submission that is over cannot
be cancelled any more, and the unit of work of an accepted one runs on (`RunsOn`). Main statement:
`failed_setup_rolls_back`.
-/

namespace Predictor.Engine

open Telemetry

variable {σ : Type}

/-! ## Permits passed on -/

/-- Task `i` is the same in both states, or it is a submission that has got the permit for its creation
call. -/
def SameOrPermitted (s s' : State σ) (i : TaskId) : Prop :=
  s'.tasks[i]? = s.tasks[i]? ∨
    ∃ other, s.tasks[i]? = some (.submit other (.creating false)) ∧
      s'.tasks[i]? = some (.submit other (.creating true))

theorem SameOrPermitted.holds_iff {s s' : State σ} {i : TaskId} (h : SameOrPermitted s s' i)
    (resource : String) : s'.Holds i resource ↔ s.Holds i resource := by
  rcases h with same | ⟨other, before, after⟩
  · rw [State.Holds, State.Holds, same]
  · rw [holds_iff_of_some before, holds_iff_of_some after]
    rfl

theorem SameOrPermitted.work {s s' : State σ} {i : TaskId} {w : Work} {stage : WorkStage}
    (h : SameOrPermitted s s' i) (here : s.tasks[i]? = some (.work w stage)) :
    s'.tasks[i]? = some (.work w stage) := by
  rcases h with same | ⟨other, before, -⟩
  · exact same.trans here
  · rw [here] at before
    cases before

/-- In the line of creation calls stand submissions that wait for a permit. -/
theorem Lined.creating {s : State σ} (lined : Lined s) {i : TaskId}
    (queued : i ∈ s.surroundings.createPermits.waiting) :
    ∃ other, s.tasks[i]? = some (.submit other (.creating false)) := by
  obtain ⟨task, here, line⟩ := (lined.awaits .creations i).1 queued
  unfold Task.line? at line
  split at line
  · exact ⟨_, here⟩
  · cases line
  · cases line
  · cases line

theorem Lined.passCreate_tasks {s : State σ} (lined : Lined s) (i : TaskId) :
    SameOrPermitted s s.passCreate i := by
  have granted : s.passCreate.tasks[i]? = if i ∈ s.surroundings.createPermits.add.1.toList then
      s.tasks[i]?.map Task.grant else s.tasks[i]? := by
    unfold State.passCreate
    dsimp only
    rw [grantNext_eq, getElem?_grants]
    rfl
  split at granted
  · rename_i first
    obtain ⟨other, here⟩ := lined.creating
      (s.surroundings.createPermits.waiting_eq_add ▸ List.mem_append_left _ first)
    rw [here] at granted
    exact .inr ⟨other, here, granted⟩
  · exact .inl granted

/-- Passing a permit on changes the line, tasks and the queue. -/
theorem passCreate_eq (s : State σ) : s.passCreate = { s with
    surroundings := s.passCreate.surroundings, tasks := s.passCreate.tasks
    ready := s.passCreate.ready } := by
  unfold State.passCreate
  dsimp only
  rw [grantNext_eq, surroundings_grants, ready_grants]
  exact grants_eq _ _

/-! ## Failures -/

section Failures

variable [PredictionStore σ]

/-- How a creation call fails of which this comes, with the store that it leaves. -/
inductive CallFails (s : State σ) (submission : Submission) : Passage → SubmitEnding → σ → Prop
  /-- The store refuses the record. -/
  | refused {error : Error} {store : σ}
      (refused : PredictionStore.create s.store submission.owner submission.resource =
        (.error error, store)) :
      CallFails s submission .proceeds (.returned (.error error)) store
  /-- The store does not take the call. -/
  | unavailable :
      CallFails s submission .fails (.returned (.error State.createUnavailable)) s.store
  | panicked : CallFails s submission .panics .panicked s.store

/-- How the set-up of a submission that has passed admission fails from the state `s` on. In `r` it
stands in its creation call and has its admission: in the first poll it has just got there, and later on
that is where it is. In `s'` it has come to this ending, and the failure has left the store so. -/
inductive SetupFails (t : TaskId) (submission : Submission) (s : State σ) :
    (r s' : State σ) → SubmitEnding → σ → Prop
  /-- The call fails in the first poll. -/
  | atOnce {rest : List TaskId} {passage : Passage} {ending : SubmitEnding} {store : σ}
      (next : s.ready = t :: rest) (here : s.tasks[t]? = some (.submit submission .new))
      (passes : s.refusal? submission.resource = none) (comes : s.ComesAtOnce passage)
      (fails : CallFails s submission passage ending store) :
      SetupFails t submission s ({ s with ready := rest }.entered t submission)
        ({ s with ready := rest }.poll t) ending store
  /-- The call was held back, and fails when it has been let through. -/
  | later {rest : List TaskId} {ending : SubmitEnding} {store : σ} (next : s.ready = t :: rest)
      (here : s.tasks[t]? = some (.submit submission (.creating true)))
      (fails : CallFails s submission s.surroundings.createPassage ending store) :
      SetupFails t submission s { s with ready := rest } ({ s with ready := rest }.poll t) ending store
  /-- The submission is cancelled while its call waits, with its permit or without. -/
  | cancelled {granted : Bool} (here : s.tasks[t]? = some (.submit submission (.creating granted))) :
      SetupFails t submission s s (s.cancel t) .cancelled s.store

end Failures

/-! ## The rollback -/

/-- From `r` to `s'` the submission of task `t` has come to this ending and has given its admission
back, and all else is as it was but for a permit that it has left to another submission. -/
structure RolledBack (r s' : State σ) (t : TaskId) (submission : Submission) (ending : SubmitEnding)
    (store : σ) : Prop where
  ended : s'.tasks[t]? = some (.submit submission (.done ending))
  finished : s'.finished = r.finished ++ [t]
  capacity : s'.admission.capacity = r.admission.capacity
  count : s'.admission.inFlight.toNat + 1 = r.admission.inFlight.toNat
  held : r.Holds t submission.resource
  /-- Exactly its own resource leaves the claimed ones. -/
  claimed : ∀ resource, resource ∈ s'.admission.claimed ↔
    resource ∈ r.admission.claimed ∧ resource ≠ submission.resource
  /-- All other admissions stay with their tasks. -/
  holds : ∀ i resource, s'.Holds i resource ↔ i ≠ t ∧ r.Holds i resource
  up : s'.turns true = r.turns true
  down : s'.turns false = r.turns false + 1
  length : s'.tasks.length = r.tasks.length
  others : ∀ i, i ≠ t → SameOrPermitted r s' i
  created : s'.created = r.created
  calls : s'.calls = r.calls
  deeds : s'.deeds = r.deeds
  store : s'.store = store

section Rollback

variable {r x s s' : State σ} {t : TaskId} {submission : Submission} {ending : SubmitEnding}
  {granted : Bool} {store : σ}

/-- The admission that a submission holds is given back; `x` is the state after its permit has been
passed on. -/
theorem rolledBack_of_release (acc : Accounted r)
    (here : r.tasks[t]? = some (.submit submission (.creating granted)))
    (passed : ∀ i, SameOrPermitted r x i) (length : x.tasks.length = r.tasks.length)
    (tasks : s'.tasks = x.tasks.set t (.submit submission (.done ending)))
    (finished : s'.finished = r.finished ++ [t])
    (admission : s'.admission = r.admission.release submission.resource)
    (up : s'.turns true = r.turns true) (down : s'.turns false = r.turns false + 1)
    (created : s'.created = r.created) (calls : s'.calls = r.calls) (deeds : s'.deeds = r.deeds)
    (kept : s'.store = store) : RolledBack r s' t submission ending store := by
  have held : r.Holds t submission.resource := ⟨_, here, rfl⟩
  have claimed := (acc.claims _).2 ⟨t, held⟩
  have counted : 1 ≤ r.admission.inFlight := by
    rw [UInt64.le_iff_toNat_le, acc.sound.counted]
    exact List.length_pos_of_mem claimed
  have between : ∃ g, x.tasks[t]? = some (.submit submission (.creating g)) := by
    rcases passed t with same | ⟨other, before, after⟩
    · exact ⟨granted, same.trans here⟩
    · rw [here] at before
      cases before
      exact ⟨true, after⟩
  obtain ⟨g, between⟩ := between
  exact {
    ended := getElem?_of_set_self tasks between
    finished := finished
    capacity := by
      rw [admission]
      rfl
    count := by
      rw [admission]
      exact CounterUse.sub_one_toNat counted
    held := held
    claimed := by
      intro resource
      rw [admission]
      exact acc.sound.distinct.mem_erase_iff.trans and_comm
    holds := by
      intro i resource
      rw [holds_finish between rfl tasks, (passed i).holds_iff]
    up := up
    down := down
    length := by rw [tasks, List.length_set, length]
    others := by
      intro i other
      unfold SameOrPermitted
      rw [getElem?_of_set_ne tasks other]
      exact passed i
    created := created
    calls := calls
    deeds := deeds
    store := kept }

/-- The error of a creation call is returned as it is. -/
theorem rolledBack_rollBack (acc : Accounted r)
    (here : r.tasks[t]? = some (.submit submission (.creating granted))) (error : Error)
    (permits : Permits) (store : σ) :
    RolledBack r ({ r.withCreatePermits permits with store }.rollBack t submission error) t submission
      (.returned (.error error)) store := by
  have measured := List.append_assoc r.measured [.inFlight false] [.submitted .error]
  exact rolledBack_of_release acc here (fun _ => .inl rfl) rfl rfl rfl rfl
    (turns_add [.inFlight false, .submitted .error] measured true)
    (turns_add [.inFlight false, .submitted .error] measured false) rfl rfl rfl rfl

/-- A submission that panics, or is dropped before it has a permit, returns nothing. -/
theorem rolledBack_endSubmit (acc : Accounted r)
    (here : r.tasks[t]? = some (.submit submission (.creating granted))) (permits : Permits)
    (ending : SubmitEnding) :
    RolledBack r (((r.withCreatePermits permits).release submission.resource none).endSubmit t
      submission ending) t submission ending r.store :=
  rolledBack_of_release acc here (fun _ => .inl rfl) rfl rfl rfl rfl
    (turns_add [.inFlight false] rfl true) (turns_add [.inFlight false] rfl false) rfl rfl rfl rfl

theorem rolledBack_cancel (acc : Accounted s) (lined : Lined s)
    (here : s.tasks[t]? = some (.submit submission (.creating granted))) :
    RolledBack s (s.cancel t) t submission .cancelled s.store := by
  cases granted with
  | false =>
    have dropped : s.cancel t = ((s.withCreatePermits (s.surroundings.createPermits.leave t)).release
        submission.resource none).endSubmit t submission .cancelled := by
      simp only [State.cancel, here]
      rfl
    rw [dropped]
    exact rolledBack_endSubmit acc here _ _
  | true =>
    have dropped : s.cancel t =
        (s.passCreate.release submission.resource none).endSubmit t submission .cancelled := by
      simp only [State.cancel, here]
      rfl
    have length : s.passCreate.tasks.length = s.tasks.length := by
      unfold State.passCreate
      dsimp only
      rw [grantNext_eq, length_grants]
      rfl
    rw [passCreate_eq s] at dropped
    rw [dropped]
    exact rolledBack_of_release acc here lined.passCreate_tasks length rfl rfl rfl
      (turns_add [.inFlight false] rfl true) (turns_add [.inFlight false] rfl false) rfl rfl rfl rfl

end Rollback

section Polls

variable {r s s' : State σ} {t : TaskId} {submission : Submission} {ending : SubmitEnding} {store : σ}
  {error : Error}

theorem Accounted.ready (acc : Accounted s) (queue : List TaskId) :
    Accounted { s with ready := queue } :=
  Accounted.effect (s := s) (.inert_eq rfl rfl rfl rfl rfl) acc

theorem Accounted.entered (acc : Accounted s) (here : s.tasks[t]? = some (.submit submission .new))
    (passes : s.refusal? submission.resource = none) : Accounted (s.entered t submission) := by
  obtain ⟨named, free, unclaimed⟩ := refusal?_eq_none_iff.1 passes
  refine Accounted.effect (effect_advance (.occupy here ?_ ?_ (claim?_of_not_mem unclaimed))) acc
  · simpa using named
  · simpa [Admission.atCapacity] using free

variable [PredictionStore σ]

/-- A creation call that fails gives the admission back. -/
theorem CallFails.rolledBack {passage : Passage} (fails : CallFails r submission passage ending store)
    (acc : Accounted r) (here : r.tasks[t]? = some (.submit submission (.creating true)))
    (permits : Permits) :
    RolledBack r ((r.withCreatePermits permits).endCreate t submission passage) t submission ending
      store := by
  cases fails with
  | refused refused =>
    show RolledBack r ((r.withCreatePermits permits).create t submission) _ _ _ _
    rw [create_refused (s := r.withCreatePermits permits) refused]
    exact rolledBack_rollBack acc here _ permits store
  | unavailable => exact rolledBack_rollBack acc here _ permits r.store
  | panicked => exact rolledBack_endSubmit acc here permits _

/-- How a call fails depends on the store and on nothing else. -/
theorem CallFails.of_store {passage : Passage} (fails : CallFails s submission passage ending store)
    (same : s.store = r.store) : CallFails r submission passage ending store := by
  cases fails with
  | refused refused => exact .refused (same ▸ refused)
  | unavailable => exact same ▸ .unavailable
  | panicked => exact same ▸ .panicked

theorem CallFails.unreturned {passage : Passage} (fails : CallFails s submission passage ending store)
    (record : Prediction) : ending ≠ .returned (.ok record) := by
  cases fails <;> exact nofun

theorem SetupFails.unreturned (fails : SetupFails t submission s r s' ending store)
    (record : Prediction) : ending ≠ .returned (.ok record) := by
  cases fails with
  | atOnce _ _ _ _ fails | later _ _ fails => exact fails.unreturned record
  | cancelled => exact nofun

theorem SetupFails.rolledBack (fails : SetupFails t submission s r s' ending store)
    (acc : Accounted s) (lined : Lined s) : RolledBack r s' t submission ending store := by
  cases fails with
  | @atOnce rest passage _ _ next here passes comes fails =>
    have entered : ({ s with ready := rest }.entered t submission).ComesAtOnce passage := comes
    obtain ⟨permits, called⟩ := callCreate_of_comes entered t submission
    rw [poll_entered (s := { s with ready := rest }) here passes, called]
    have fails := fails.of_store (r := { s with ready := rest }.entered t submission) rfl
    exact fails.rolledBack ((acc.ready rest).entered here passes) (getElem?_of_set_self rfl here)
      permits
  | @later rest _ _ next here fails =>
    rw [poll_creating (s := { s with ready := rest }) here]
    exact (fails.of_store (r := { s with ready := rest }) rfl).rolledBack (acc.ready rest) here
      s.surroundings.createPermits
  | cancelled here => exact rolledBack_cancel acc lined here

/-- When a creation call ends a submission, its record was made, or the call has failed. -/
theorem endCreate_ends_or_fails {passage : Passage}
    (here : s.tasks[t]? = some (.submit submission (.creating true)))
    (ended : (s.endCreate t submission passage).tasks[t]? =
      some (.submit submission (.done ending))) :
    (∃ record, ending = .returned (.ok record)) ∨
      ∃ after, CallFails s submission passage ending after := by
  cases passage with
  | proceeds =>
    have ends := (create_ended here).1
    rw [State.endCreate, ends] at ended
    cases ended
    cases answer : PredictionStore.create s.store submission.owner submission.resource with
    | mk result after =>
      cases result with
      | ok record => exact .inl ⟨record, rfl⟩
      | error error => exact .inr ⟨after, .refused answer⟩
  | fails =>
    have ends : (s.endCreate t submission .fails).tasks[t]? =
        some (.submit submission (.done (.returned (.error State.createUnavailable)))) :=
      getElem?_of_set_self rfl here
    rw [ends] at ended
    cases ended
    exact .inr ⟨s.store, .unavailable⟩
  | panics =>
    have ends : (s.endCreate t submission .panics).tasks[t]? =
        some (.submit submission (.done .panicked)) := getElem?_of_set_self rfl here
    rw [ends] at ended
    cases ended
    exact .inr ⟨s.store, .panicked⟩

/-- When the poll in which a submission passes admission ends it, its record was made, or its set-up has
failed. -/
theorem passing_ends_or_fails {rest : List TaskId} (next : s.ready = t :: rest)
    (here : s.tasks[t]? = some (.submit submission .new))
    (passes : s.refusal? submission.resource = none)
    (ended : ({ s with ready := rest }.poll t).tasks[t]? = some (.submit submission (.done ending))) :
    (∃ record, ending = .returned (.ok record)) ∨
      ∃ r after, SetupFails t submission s r ({ s with ready := rest }.poll t) ending after := by
  have polled := poll_entered (s := { s with ready := rest }) here passes
  have there : ({ s with ready := rest }.entered t submission).tasks[t]? =
      some (.submit submission (.creating true)) := getElem?_of_set_self rfl here
  rw [congrArg State.tasks polled] at ended
  rcases comes_or_holdsBack ({ s with ready := rest }.entered t submission) with
    ⟨passage, comes⟩ | holds
  · obtain ⟨permits, called⟩ := callCreate_of_comes comes t submission
    rw [called] at ended
    refine (endCreate_ends_or_fails (s := State.withCreatePermits _ permits) there ended).imp_right ?_
    rintro ⟨after, fails⟩
    exact ⟨_, after, .atOnce next here passes comes (fails.of_store rfl)⟩
  · rw [callCreate_of_holdsBack holds t submission] at ended
    have clash := (getElem?_of_set_self rfl there).symm.trans ended
    cases clash

/-- A submission that has waited for the store has its record after the poll, or its set-up has failed. -/
theorem creating_ends_or_fails {rest : List TaskId} (next : s.ready = t :: rest)
    (here : s.tasks[t]? = some (.submit submission (.creating true)))
    (ended : ({ s with ready := rest }.poll t).tasks[t]? = some (.submit submission (.done ending))) :
    (∃ record, ending = .returned (.ok record)) ∨
      ∃ r after, SetupFails t submission s r ({ s with ready := rest }.poll t) ending after := by
  have polled := poll_creating (s := { s with ready := rest }) here
  rw [congrArg State.tasks polled] at ended
  refine (endCreate_ends_or_fails (s := { s with ready := rest }) here ended).imp_right ?_
  rintro ⟨after, fails⟩
  exact ⟨_, after, .later next here (fails.of_store rfl)⟩

/-- The failure is one poll, or one event. -/
theorem SetupFails.reachable {initial : State σ} (fails : SetupFails t submission s r s' ending store)
    (h : Reachable initial s) : Reachable initial s' := by
  have poll : ∀ {rest : List TaskId}, s.ready = t :: rest →
      Reachable initial ({ s with ready := rest }.poll t) := by
    intro rest next
    refine h.poll ?_
    simp only [State.step?, next]
  cases fails with
  | atOnce next | later next => exact poll next
  | cancelled => exact h.event (.cancel t)

/-- In the first poll the slot and the resource are taken and given back, so these are as before. -/
theorem SetupFails.restored (fails : SetupFails t submission s r s' ending store) (acc : Accounted s)
    (lined : Lined s) (new : s.tasks[t]? = some (.submit submission .new)) :
    s'.admission.inFlight = s.admission.inFlight ∧
      ∀ resource, resource ∈ s'.admission.claimed ↔ resource ∈ s.admission.claimed := by
  have back := fails.rolledBack acc lined
  have admitted : (∃ rest, r = { s with ready := rest }.entered t submission) ∧
      s.refusal? submission.resource = none := by
    cases fails with
    | atOnce _ _ passes => exact ⟨⟨_, rfl⟩, passes⟩
    | later _ here | cancelled here =>
      rw [new] at here
      cases here
  obtain ⟨⟨rest, rfl⟩, passes⟩ := admitted
  obtain ⟨-, free, unclaimed⟩ := refusal?_eq_none_iff.1 passes
  constructor
  · have counted : (s.admission.inFlight + 1).toNat = s.admission.inFlight.toNat + 1 :=
      CounterUse.add_one_toNat free
    have count : s'.admission.inFlight.toNat + 1 = (s.admission.inFlight + 1).toNat := back.count
    exact UInt64.toNat_inj.1 (by omega)
  · intro resource
    have taken : resource ∈ ({ s with ready := rest }.entered t submission).admission.claimed ↔
        resource ∈ s.admission.claimed ∨ resource = submission.resource := by
      show resource ∈ s.admission.claimed ++ [submission.resource] ↔ _
      rw [List.mem_append, List.mem_singleton]
    rw [back.claimed, taken]
    constructor
    · rintro ⟨claimed | own, other⟩
      · exact claimed
      · exact absurd own other
    · intro claimed
      refine ⟨.inl claimed, ?_⟩
      rintro rfl
      exact unclaimed claimed

end Polls

/-! ## Afterwards -/

section Afterwards

variable [PredictionStore σ] {s u : State σ} {t i : TaskId} {submission : Submission}
  {ending : SubmitEnding} {w : Work} {stage : WorkStage}

/-- A submission that is over stays over. -/
theorem Reachable.submit_over (h : Reachable s u)
    (ended : s.tasks[t]? = some (.submit submission (.done ending))) :
    u.tasks[t]? = some (.submit submission (.done ending)) := by
  have kept : ∀ {before after : SubmitStage}, before.Disturbed after → before = .done ending →
      after = .done ending := by
    intro before after disturbed done
    cases disturbed with
    | none => exact done
    | granted | cancelledNew | cancelled => cases done
  induction h with
  | start => exact ended
  | event stimulus _ ih =>
    obtain ⟨stage, here, rfl⟩ := disturbed_apply (P := (· = .done ending)) kept stimulus ih rfl
    exact here
  | @poll r _ _ step ih =>
    obtain ⟨first, rest, -, rfl⟩ := State.poll_of_step? step
    by_cases own : t = first
    · subst own
      have still : { r with ready := rest }.poll t = { r with ready := rest } := poll_asleep ih rfl
      rw [still]
      exact ih
    · exact (polled_poll _ first).other own ih

omit [PredictionStore σ] in
theorem cancel_over (ended : s.tasks[t]? = some (.submit submission (.done ending))) :
    s.cancel t = s := by
  simp only [State.cancel, ended]

/-- What the engine has to show for its accepted submissions: for each of them its record and its unit
of work, and calls to the classifier for none but these. -/
structure Accounts (u : State σ) : Prop where
  records : u.created = u.accepted.map fun a => a.record.id
  units : List.Forall₂ Serves u.accepted u.spawned
  calls : u.calls <+: u.spawned
  deeds : ∀ entry ∈ u.deeds, ∃ w stage, u.tasks[entry.1]? = some (.work w stage)

/-- Nothing has come of the submission of task `t`, and nothing comes. -/
structure Spent (u : State σ) (t : TaskId) (submission : Submission) (ending : SubmitEnding) : Prop where
  ended : u.tasks[t]? = some (.submit submission (.done ending))
  /-- Should it be polled again, nothing happens. -/
  poll : ∀ queue, { u with ready := queue }.poll t = { u with ready := queue }
  cancel : u.cancel t = u
  /-- It has no admission that could be given back. -/
  free : ∀ resource, ¬u.Holds t resource
  unaccepted : ∀ a ∈ u.accepted, a.task ≠ t
  accounts : Accounts u
  /-- If its resource is in flight again, that is on account of another task. -/
  barred : u.refusal? submission.resource = some (.duplicateInProgress submission.resource) →
    ∃ i, i ≠ t ∧ u.Holds i submission.resource

omit [PredictionStore σ] in
/-- Only units of work hear from the classifier and ask the store to finalize. -/
theorem Recorded.unit (recorded : Recorded s) {entry : TaskId × Deed} (mem : entry ∈ s.deeds) :
    ∃ w stage, s.tasks[entry.1]? = some (.work w stage) := by
  obtain ⟨task, here⟩ : ∃ task, s.tasks[entry.1]? = some task :=
    ⟨_, List.getElem?_eq_getElem (recorded.bound entry mem)⟩
  have did := recorded.did here
  have own : entry.2 ∈ s.deedsOf entry.1 := mem_deedsIn.2 mem
  generalize s.deedsOf entry.1 = deeds at did own
  cases did with
  | submit | drain => cases own
  | new | classifying | finalizing | classifyPanicked | finalizePanicked | finalized =>
    exact ⟨_, _, here⟩

omit [PredictionStore σ] in
/-- A unit of work stays the one that it is. -/
theorem Grows.work_after (grows : Grows s u) (here : s.tasks[i]? = some (.work w stage)) :
    ∃ stage', u.tasks[i]? = some (.work w stage') := by
  have after := grows.origin_eq here
  rw [State.origins, List.getElem?_map, Option.map_eq_some_iff] at after
  obtain ⟨task, after, same⟩ := after
  obtain ⟨stage', rfl⟩ := Task.origin_eq_work same
  exact ⟨stage', after⟩

/-- A unit of work is over, or on its way to its end, whoever is cancelled. -/
structure RunsOn (u : State σ) (i : TaskId) (w : Work) : Prop where
  there : ∃ stage, u.tasks[i]? = some (.work w stage)
  cancel : ∀ t, (u.cancel t).tasks[i]? = u.tasks[i]?
  /-- When nothing can move any more, it is over, unless a call of its own has not been answered. -/
  ends : (∃ panicked, u.settle.tasks[i]? = some (.work w (.done panicked))) ∨
    u.settle.Suspended i w.resource

omit [PredictionStore σ] in
theorem Lined.cancel_work (lined : Lined s) (here : s.tasks[i]? = some (.work w stage)) (t : TaskId) :
    (s.cancel t).tasks[i]? = some (.work w stage) := by
  unfold State.cancel
  split
  · rename_i submission other
    refine (getElem?_of_set_ne rfl ?_).trans here
    rintro rfl
    rw [here] at other
    cases other
  · rename_i submission granted other
    have apart : i ≠ t := by
      rintro rfl
      rw [here] at other
      cases other
    cases granted with
    | false => exact (getElem?_of_set_ne rfl apart).trans here
    | true => exact (getElem?_of_set_ne rfl apart).trans ((lined.passCreate_tasks i).work here)
  · exact here

end Afterwards

/-! ## Every run -/

section Runs

variable [PredictionStore σ] {capacity : UInt64} {table : LabelTable} {store : σ} {usual : Behaviour}
  {isOpen : Bool} {freshIds : Nat → PredictionId} {s u : State σ} {t i : TaskId}
  {submission : Submission} {ending : SubmitEnding} {w : Work} {stage : WorkStage}

theorem accounts_of_reachable
    (h : Reachable (State.start capacity table store (.start usual isOpen) freshIds) u) :
    Accounts u where
  records := (intake_of_reachable h).created
  units := (intake_of_reachable h).units
  calls := ⟨_, (inOrder_of_reachable (lined_start ..) (inOrder_start ..) h).order.symm⟩
  deeds _ mem := (recorded_of_reachable h).unit mem

/-- Once a submission is over without a record, nothing comes of it. -/
theorem spent_of_reachable
    (h : Reachable (State.start capacity table store (.start usual isOpen) freshIds) u)
    (ended : u.tasks[t]? = some (.submit submission (.done ending)))
    (failed : ∀ record, ending ≠ .returned (.ok record)) : Spent u t submission ending := by
  have free : ∀ resource, ¬u.Holds t resource := by
    intro resource
    rw [holds_iff_of_some ended]
    exact nofun
  exact {
    ended := ended
    poll := fun queue => poll_asleep (s := { u with ready := queue }) ended rfl
    cancel := cancel_over ended
    free := free
    unaccepted := by
      rintro a accepted rfl
      have returned := (intake_of_reachable h).mem_accepted.1 accepted
      rw [ended] at returned
      cases returned
      exact failed _ rfl
    accounts := accounts_of_reachable h
    barred := by
      intro barred
      have claimed : submission.resource ∈ u.admission.claimed := by
        rcases refusal?_eq_some_iff.1 barred with ⟨clash, -⟩ | ⟨clash, -⟩ | ⟨-, -, -, claimed⟩
        · cases clash
        · cases clash
        · exact claimed
      obtain ⟨i, holds⟩ := ((accounted_of_reachable h).claims _).1 claimed
      refine ⟨i, ?_, holds⟩
      rintro rfl
      exact free _ holds }

theorem runsOn_of_reachable
    (h : Reachable (State.start capacity table store (.start usual isOpen) freshIds) u)
    (here : u.tasks[i]? = some (.work w stage)) : RunsOn u i w where
  there := ⟨stage, here⟩
  cancel t := by
    rw [here]
    exact (lined_of_reachable (lined_start ..) h).cancel_work here t
  ends := by
    obtain ⟨stage', after⟩ := (Reachable.start.settle (s := u)).grows.work_after here
    by_cases held : u.settle.Holds i w.resource
    · obtain ⟨holders, -⟩ := suspended_of_atRest h.settle (State.settle_atRest u)
      exact .inr ((holders i w.resource).1 held)
    · obtain ⟨panicked, rfl⟩ := work_done after held
      exact .inl ⟨panicked, after⟩

theorem Reachable.trans {initial s u : State σ} (h : Reachable initial s) (later : Reachable s u) :
    Reachable initial u := by
  induction later with
  | start => exact h
  | event stimulus _ ih => exact ih.event stimulus
  | poll _ step ih => exact ih.poll step

omit [PredictionStore σ] in
/-- An accepted submission has its unit of work. -/
theorem Intake.unit (intake : Intake s) {record : Prediction}
    (returned : s.tasks[t]? = some (.submit submission (.done (.returned (.ok record))))) :
    ∃ (i : TaskId) (w : Work) (stage : WorkStage), s.tasks[i]? = some (.work w stage) ∧
      w.id = record.id ∧ w.resource = submission.resource := by
  obtain ⟨n, here⟩ := List.mem_iff_getElem?.1
    (intake.mem_accepted (a := ⟨t, submission, record⟩).2 returned)
  obtain ⟨lt, heq⟩ := List.getElem?_eq_some_iff.1 here
  have lt' : n < s.spawned.length := intake.units.length_eq ▸ lt
  have serves : Serves ⟨t, submission, record⟩ s.spawned[n] := heq ▸ intake.units.get lt lt'
  obtain ⟨i, stage, unit⟩ := mem_spawned.1 (List.getElem_mem lt')
  exact ⟨i, s.spawned[n], stage, unit, serves.id, serves.resource⟩

/-- **Set-ups that fail.** A poll that ends a submission which has passed admission has brought its
record, or its set-up has failed. Whatever has happened meanwhile, a submission whose creation call
returns an error or panics, at once or after it has waited, or is cancelled ends in that very poll or
cancellation, with the error of the call if there is one; its slot and its resource are given back and
nobody else is touched, and nothing comes of it ever after. A submission that is over is not touched by
a cancellation, and the unit of work of one that returned a record runs on to its end. -/
theorem failed_setup_rolls_back
    (h : Reachable (State.start capacity table store (.start usual isOpen) freshIds) s) (t : TaskId)
    (submission : Submission) :
    (∀ rest ending, s.ready = t :: rest →
      (s.tasks[t]? = some (.submit submission .new) ∧ s.refusal? submission.resource = none ∨
        s.tasks[t]? = some (.submit submission (.creating true))) →
      ({ s with ready := rest }.poll t).tasks[t]? = some (.submit submission (.done ending)) →
        (∃ record, ending = .returned (.ok record)) ∨
          ∃ r after, SetupFails t submission s r ({ s with ready := rest }.poll t) ending after) ∧
    (∀ r s' ending after, SetupFails t submission s r s' ending after →
      Reachable s s' ∧ RolledBack r s' t submission ending after ∧
        (s.tasks[t]? = some (.submit submission .new) →
          s'.admission.inFlight = s.admission.inFlight ∧
            ∀ resource, resource ∈ s'.admission.claimed ↔ resource ∈ s.admission.claimed) ∧
        ∀ u, Reachable s' u → Spent u t submission ending) ∧
    (∀ ending, s.tasks[t]? = some (.submit submission (.done ending)) → s.cancel t = s) ∧
    ∀ record, s.tasks[t]? = some (.submit submission (.done (.returned (.ok record)))) →
      ∃ i w, w.id = record.id ∧ w.resource = submission.resource ∧
        ∀ u, Reachable s u → RunsOn u i w := by
  have acc := accounted_of_reachable h
  have lined := lined_of_reachable (lined_start ..) h
  refine ⟨fun rest ending next admitted ended => ?_, fun r s' ending after fails => ?_,
    fun ending ended => cancel_over ended, fun record returned => ?_⟩
  · rcases admitted with ⟨here, passes⟩ | here
    · exact passing_ends_or_fails next here passes ended
    · exact creating_ends_or_fails next here ended
  · have back := fails.rolledBack acc lined
    have next : Reachable s s' := fails.reachable .start
    refine ⟨next, back, fails.restored acc lined, fun u later => ?_⟩
    exact spent_of_reachable ((h.trans next).trans later) (later.submit_over back.ended)
      fails.unreturned
  · obtain ⟨i, w, stage, here, id, resource⟩ := (intake_of_reachable h).unit returned
    refine ⟨i, w, id, resource, fun u later => ?_⟩
    obtain ⟨stage', after⟩ := later.grows.work_after here
    exact runsOn_of_reachable (h.trans later) after

end Runs

namespace Sample

def page : Submission := ⟨⟨none, []⟩, "owner", "page.png"⟩

/-- While one unit of work is inside its call, another submission begins, and creation calls do so. -/
def joined (mode : CallMode) : State MemoryStore :=
  ((run false).apply (.setCreateMode mode)).apply (.submit page)

/-- The creation call has been held back and is let through when the store panics. -/
def letThrough : State MemoryStore :=
  (((joined .hold).polls 1).apply (.setCreatePassage .panics)).apply .passCreate

end Sample

/-- A creation call panics at once, one when it is let through, and one is cancelled while it waits; the
unit of work of the first submission is not touched. -/
theorem failed_setup_rolls_back_joined :
    Reachable (Sample.start false) (Sample.joined .panic) ∧
    RolledBack ({ Sample.joined .panic with ready := [] }.entered 3 Sample.page)
      ({ Sample.joined .panic with ready := [] }.poll 3) 3 Sample.page .panicked
      (Sample.joined .panic).store ∧
    RolledBack { Sample.letThrough with ready := [] } ({ Sample.letThrough with ready := [] }.poll 3) 3
      Sample.page .panicked Sample.letThrough.store ∧
    RolledBack ((Sample.joined .hold).polls 1) (((Sample.joined .hold).polls 1).cancel 3) 3 Sample.page
      .cancelled (Sample.joined .hold).store ∧
    Spent (((Sample.joined .hold).polls 1).cancel 3) 3 Sample.page .cancelled ∧
    (Sample.joined .hold).cancel 0 = Sample.joined .hold ∧
    ∃ i w, w.resource = "scan.png" ∧ RunsOn (((Sample.joined .hold).polls 1).cancel 3) i w := by
  have joined : ∀ mode, Reachable (Sample.start false) (Sample.joined mode) :=
    fun mode => ((Sample.reachable_run false).event (.setCreateMode mode)).event (.submit Sample.page)
  have waits : Reachable (Sample.joined .hold) ((Sample.joined .hold).polls 1) := Reachable.start.polls 1
  have next : (Sample.joined .panic).ready = [3] := rfl
  have here : ((Sample.joined .hold).polls 1).tasks[3]? = some (.submit Sample.page (.creating false)) :=
    rfl
  have panicked : SetupFails 3 Sample.page (Sample.joined .panic) _ _ .panicked
      (Sample.joined .panic).store := .atOnce next rfl rfl (.inl rfl) .panicked
  have late : SetupFails 3 Sample.page Sample.letThrough _ _ .panicked Sample.letThrough.store :=
    .later rfl rfl .panicked
  have cancelled : SetupFails 3 Sample.page ((Sample.joined .hold).polls 1) _ _ .cancelled
      (Sample.joined .hold).store := .cancelled here
  obtain ⟨-, fails, -, -⟩ := failed_setup_rolls_back (joined .panic) 3 Sample.page
  obtain ⟨-, falls, -, -⟩ := failed_setup_rolls_back
    ((((joined .hold).polls 1).event (.setCreatePassage .panics)).event .passCreate) 3 Sample.page
  obtain ⟨-, drops, -, -⟩ := failed_setup_rolls_back ((joined .hold).polls 1) 3 Sample.page
  obtain ⟨-, -, ended, unit⟩ := failed_setup_rolls_back (joined .hold) 0 Sample.submission
  obtain ⟨-, panics, -⟩ := fails _ _ _ _ panicked
  obtain ⟨-, fallen, -⟩ := falls _ _ _ _ late
  obtain ⟨after, dropped, -, spent⟩ := drops _ _ _ _ cancelled
  obtain ⟨i, w, -, resource, runs⟩ := unit _ rfl
  exact ⟨joined .panic, panics, fallen, dropped, spent _ .start, ended _ rfl, i, w, resource,
    runs _ (waits.trans after)⟩

end Predictor.Engine
