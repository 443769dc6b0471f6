import Predictor.Proofs.Database.Traffic
import Predictor.Proofs.Engine.Aftermath
import Predictor.Proofs.Engine.Remainder

/-!
The engine over a database. Its polls read no record back, and when a finalization call has returned
its update has been sent before (`Sends`).
-/

namespace Predictor.Engine

open Database

variable {δ : Type} {before front more : List Statement} {s s' : State (Connection δ)}
  {t : TaskId}

/-- Since `before` the engine has sent the statements `front`, no select among them, and the update of
each outcome whose finalization call has returned. -/
structure Sends (before front : List Statement) (s : State (Connection δ)) : Prop where
  sent : s.store.sent = before ++ front
  unread : ∀ statement ∈ front, statement.isSelect = false
  updated : ∀ {t : TaskId} {result : Except Error Unit}, (t, .told result) ∈ s.deeds →
    ∃ w outcome, s.origins[t]? = some (.work w .new) ∧ (t, .asked outcome) ∈ s.deeds ∧
      .update (.ofOutcome outcome) w.id ∈ front

/-- What a move sends, and whose updates. -/
structure Adds (s s' : State (Connection δ)) (more : List Statement) : Prop where
  sent : s'.store.sent = s.store.sent ++ more
  unread : ∀ statement ∈ more, statement.isSelect = false
  updated : ∀ {t : TaskId} {result : Except Error Unit}, (t, .told result) ∈ s'.deeds →
    (t, .told result) ∈ s.deeds ∨ ∃ w outcome,
      s.tasks[t]? = some (.work w (.finalizing outcome true)) ∧
        .update (.ofOutcome outcome) w.id ∈ more

/-- Nothing is sent, and no call of the store returns. -/
theorem Adds.nothing (store : s'.store = s.store)
    (told : ∀ {t : TaskId} {result : Except Error Unit}, (t, .told result) ∈ s'.deeds →
      (t, .told result) ∈ s.deeds) : Adds s s' [] where
  sent := store ▸ (List.append_nil _).symm
  unread := by simp
  updated mem := .inl (told mem)

theorem Sends.add (h : Sends before front s) (recorded : Recorded s) (grows : Grows s s')
    (adds : Adds s s' more) : Sends before (front ++ more) s' where
  sent := by rw [adds.sent, h.sent, List.append_assoc]
  unread statement mem := (List.mem_append.1 mem).elim (h.unread _) (adds.unread _)
  updated := by
    intro t result mem
    rcases adds.updated mem with earlier | ⟨w, outcome, here, sent⟩
    · obtain ⟨w, outcome, origin, asked, sent⟩ := h.updated earlier
      exact ⟨w, outcome, grows.origin_of_some origin, grows.mem_deeds asked,
        List.mem_append_left _ sent⟩
    · refine ⟨w, outcome, grows.origin_eq here, grows.mem_deeds ?_, List.mem_append_right _ sent⟩
      have did := recorded.did here
      refine mem_deedsIn.1 ?_
      rw [← State.deedsOf]
      generalize s.deedsOf t = deeds at did
      cases did
      simp

/-- Nothing is sent in a step that leaves the store alone. -/
theorem Sends.idle (h : Sends before front s) (recorded : Recorded s) (grows : Grows s s')
    (store : s'.store = s.store)
    (told : ∀ {t : TaskId} {result : Except Error Unit}, (t, .told result) ∈ s'.deeds →
      (t, .told result) ∈ s.deeds) : Sends before front s' := by
  have next := h.add recorded grows (.nothing store told)
  rwa [List.append_nil] at next

/-! ## Moves -/

variable [Server δ]

/-- The unit of work has called the finalization of its record. -/
theorem Adds.finalize {w : Work} {outcome : Outcome} {result : Except Error Unit}
    {store : Connection δ} (here : s.tasks[t]? = some (.work w (.finalizing outcome true)))
    (reply : PredictionStore.finalize s.store w.id outcome = (result, store))
    (after : s'.store = store) (deeds : s'.deeds = s.deeds ++ [(t, .told result)]) :
    ∃ more, Adds s s' more := by
  obtain ⟨more, sent, unread⟩ := s.store.sent_finalize w.id outcome
  have replied : (s.store.finalize w.id outcome).2 = s'.store :=
    (congrArg Prod.snd reply).trans after.symm
  refine ⟨.update (.ofOutcome outcome) w.id :: more, replied ▸ sent, ?_, ?_⟩
  · intro statement mem
    rcases List.mem_cons.1 mem with rfl | mem
    · rfl
    · exact unread statement mem
  · intro i result' mem
    rw [deeds, List.mem_append, List.mem_singleton] at mem
    rcases mem with earlier | own
    · exact .inl earlier
    · obtain rfl : i = t := (Prod.mk.inj own).1
      exact .inr ⟨w, outcome, here, List.mem_cons_self⟩

theorem Adds.create {owner resource : String} {result : Except Error Prediction}
    {store : Connection δ} (reply : PredictionStore.create s.store owner resource = (result, store))
    (after : s'.store = store) (deeds : s'.deeds = s.deeds) : ∃ more, Adds s s' more := by
  have replied : (s.store.create owner resource).2 = s'.store :=
    (congrArg Prod.snd reply).trans after.symm
  refine ⟨[.insert (s.store.ids s.store.issued) owner resource],
    replied ▸ s.store.sent_create owner resource, ?_, fun mem => .inl (deeds ▸ mem)⟩
  simp [Statement.isSelect]

theorem Halt.adds (move : Halt t s s') (takes : s.TakesFinalize) :
    ∃ more, Adds s s' more := by
  cases move with
  | asleep | unnamed | full | duplicate | createPanicked | createHeld | gateHeld | finalizeHeld =>
    exact ⟨[], .nothing rfl id⟩
  | checked =>
    unfold State.checkIdle
    split <;> exact ⟨[], .nothing rfl id⟩
  | classifyPanicked | finalizePanicked =>
    exact ⟨[], .nothing rfl fun mem => by simpa using List.mem_append.1 mem⟩
  | launched _ created => exact Adds.create created rfl rfl
  | rolledBack _ refused =>
    rcases refused with ⟨-, -, same⟩ | refused
    · exact ⟨[], .nothing same id⟩
    · exact Adds.create refused rfl rfl
  | written here stored => exact Adds.finalize here stored rfl rfl
  | unwritten here refused =>
    rcases refused with ⟨failing, -, -⟩ | refused
    · cases takes.proceeds failing
    · exact Adds.finalize here refused rfl rfl

/-! ## Polls -/

theorem Sends.polled (h : Sends before front s) (recorded : Recorded s) (unbroken : s.Unbroken)
    (poll : Polled t s s') : ∃ more, Sends before (front ++ more) s' := by
  induction poll generalizing front with
  | halt last =>
    obtain ⟨more, adds⟩ := last.adds unbroken.takes
    exact ⟨more, h.add recorded last.grows adds⟩
  | advance first _ ih =>
    have next := h.idle recorded first.grows first.store_eq first.told
    exact ih next (recorded.advance first) (unbroken.advance first)

theorem Sends.step (h : Sends before front s) (recorded : Recorded s) (unbroken : s.Unbroken)
    (step : s.step? = some s') : ∃ more, Sends before (front ++ more) s' := by
  obtain ⟨first, rest, -, rfl⟩ := State.poll_of_step? step
  have taken : Sends before front { s with ready := rest } := ⟨h.sent, h.unread, h.updated⟩
  exact taken.polled (recorded.of_eq rfl rfl rfl) ⟨unbroken.takes, unbroken.unbroken⟩
    (polled_poll _ first)

end Predictor.Engine
