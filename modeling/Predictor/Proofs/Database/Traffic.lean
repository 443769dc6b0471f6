import Predictor.Database.Connection
import Predictor.Store.Calls

/-!
What a connection sends. Each call of the store sends statements of its own kind behind those of the
calls before it; only reading a record back sends a select.
-/

namespace Predictor.Database

/-- Reads a record back. -/
def Statement.isSelect : Statement → Bool
  | .select _ => true
  | _ => false

namespace Connection

variable {σ : Type} [Server σ] (c : Connection σ)

theorem send_eq {c : Connection σ} {statement : Statement} {reply : Reply} {server : σ}
    (answered : Server.answer c.server statement.query = (reply, server)) :
    c.send statement = (reply, { c with server, sent := c.sent ++ [statement] }) := by
  rw [send, answered]

theorem sent_send (statement : Statement) : (c.send statement).2.sent = c.sent ++ [statement] := rfl

theorem sent_create (owner resource : String) :
    (c.create owner resource).2.sent = c.sent ++ [.insert (c.ids c.issued) owner resource] := rfl

/-- An update, and a look at the status when the update has changed no row. -/
theorem sent_finalize (id : PredictionId) (outcome : Outcome) :
    ∃ more, (c.finalize id outcome).2.sent = c.sent ++ .update (.ofOutcome outcome) id :: more ∧
      ∀ statement ∈ more, statement.isSelect = false := by
  unfold finalize
  dsimp only
  split
  · exact ⟨[], rfl, by simp⟩
  · refine ⟨[.statusOf id], ?_, by simp [Statement.isSelect]⟩
    rw [sent_send, sent_send, List.append_assoc]
    rfl
  · exact ⟨[], rfl, by simp⟩

theorem sent_get (id : PredictionId) : (c.get id).2.sent = c.sent ++ [.select id] := rfl

/-! ## The calls as calls of a store -/

theorem serve_create (owner resource : String) :
    (PredictionStore.serve c (.create owner resource)).1 = .created (c.create owner resource).1 ∧
      (PredictionStore.serve c (.create owner resource)).2 = (c.create owner resource).2 :=
  ⟨rfl, rfl⟩

theorem serve_finalize (id : PredictionId) (outcome : Outcome) :
    (PredictionStore.serve c (.finalize id outcome)).1 = .finalized (c.finalize id outcome).1 ∧
      (PredictionStore.serve c (.finalize id outcome)).2 = (c.finalize id outcome).2 := ⟨rfl, rfl⟩

theorem serve_get (id : PredictionId) :
    (PredictionStore.serve c (.get id)).1 = .found (c.get id).1 ∧
      (PredictionStore.serve c (.get id)).2 = (c.get id).2 := ⟨rfl, rfl⟩

/-! ## Reading records back -/

/-- Reads records back one after the other, up to the first one that cannot be read. -/
def readAll (c : Connection σ) :
    List PredictionId → List Prediction × Except Error Unit × Connection σ
  | [] => ([], .ok (), c)
  | id :: rest =>
    match c.get id with
    | (.ok record, c) =>
      let (records, result, c) := c.readAll rest
      (record :: records, result, c)
    | (.error error, c) => ([], .error error, c)

variable {c} {c' : Connection σ} {id : PredictionId} {ids : List PredictionId}
  {records : List Prediction} {result : Except Error Unit}

theorem readAll_read {record : Prediction} (read : c.get id = (.ok record, c'))
    (rest : List PredictionId) :
    c.readAll (id :: rest) = (record :: (c'.readAll rest).1, (c'.readAll rest).2) := by
  rw [readAll, read]

theorem readAll_unread {error : Error} (unread : c.get id = (.error error, c'))
    (rest : List PredictionId) : c.readAll (id :: rest) = ([], .error error, c') := by
  rw [readAll, unread]

/-- One select is sent for each record that is read, and one more if reading ends before the last. -/
theorem sent_readAll (h : c.readAll ids = (records, result, c')) :
    c'.sent = c.sent ++ (ids.take (records.length + 1)).map .select := by
  induction ids generalizing c records with
  | nil =>
    cases h
    simp
  | cons id rest ih =>
    have asked := c.sent_get id
    rcases got : c.get id with ⟨record | record, after⟩
    · rw [readAll_unread got] at h
      rw [got] at asked
      cases h
      exact asked
    · rw [readAll_read got] at h
      rw [got] at asked
      obtain ⟨rfl, later⟩ := Prod.mk.inj h
      rw [ih (Prod.ext rfl later), asked]
      simp

/-- Reading ends without an error exactly when all records have been read. -/
theorem length_readAll (h : c.readAll ids = (records, result, c')) :
    records.length ≤ ids.length ∧ (result = .ok () ↔ records.length = ids.length) := by
  induction ids generalizing c records with
  | nil =>
    cases h
    simp
  | cons id rest ih =>
    rcases got : c.get id with ⟨record | record, after⟩
    · rw [readAll_unread got] at h
      cases h
      simp
    · rw [readAll_read got] at h
      obtain ⟨rfl, later⟩ := Prod.mk.inj h
      simpa using ih (Prod.ext rfl later)

end Connection

end Predictor.Database
