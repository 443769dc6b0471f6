import Predictor.Proofs.Database.Traffic
import Predictor.Proofs.FirstError

/-!
What a store makes of the replies of its server, whatever these are. Writing an outcome is one
update and, when that changed no row, one look at the status; the result is told from the replies to
these two (`Finalized`). A list is the decoding of all rows, or the error of the first row whose
status is unknown (`listed_eq_ok_iff`, `listed_eq_error_iff`).
-/

namespace Predictor

/-! ## Statuses -/

namespace Status

/-- The texts of the three statuses. -/
def texts : List String := ["processing", "completed", "failed"]

theorem ofText_eq_ok_iff {s : String} {status : Status} :
    ofText s = .ok status ↔ status.text = s := by
  constructor
  · intro h
    unfold ofText at h
    split at h
    · rename_i found
      obtain rfl := Except.ok.inj h
      simpa using List.find?_some found
    · cases h
  · rintro rfl
    cases status <;> decide

theorem exists_text_iff {s : String} : (∃ status : Status, status.text = s) ↔ s ∈ texts := by
  constructor
  · rintro ⟨status, rfl⟩
    cases status <;> decide
  · intro known
    simp only [texts, List.mem_cons, List.not_mem_nil, or_false] at known
    rcases known with rfl | rfl | rfl
    · exact ⟨.processing, rfl⟩
    · exact ⟨.completed, rfl⟩
    · exact ⟨.failed, rfl⟩

theorem ofText_eq_error_iff {s : String} {e : Error} :
    ofText s = .error e ↔ s ∉ texts ∧ e = .unknownStatus s := by
  have known : (∃ status, ofText s = .ok status) ↔ s ∈ texts := by
    simp only [ofText_eq_ok_iff, exists_text_iff]
  rw [← known, ofText]
  split <;> simp [eq_comm]

end Status

namespace Database

/-! ## Rows -/

namespace Row

variable {row : Row} {p : Prediction} {e : Error}

/-- A record is what a row says: the label is a category when there are a name and an index, whose
bits are read as those of an unsigned number, and undefined when there is a name alone. -/
structure Decodes (row : Row) (p : Prediction) : Prop where
  id : p.id = row.id
  owner : p.owner = row.owner
  resource : p.resource = row.resource
  status : p.status.text = row.status
  category : ∀ index name confidence, p.label = some (.category index name confidence) ↔
    row.label = some name ∧
      (∃ stored, row.categoryIndex = some stored ∧
        (index.toNat : Int) = stored.toInt % UInt32.size) ∧
      confidence = row.confidence.getD .zero
  undefined : p.label = some .undefined ↔
    (∃ name, row.label = some name) ∧ row.categoryIndex = none
  unlabelled : p.label = none ↔ row.label = none
  error : p.error = row.error
  createdAt : p.createdAt = row.createdAt
  updatedAt : p.updatedAt = row.updatedAt
  completedAt : p.completedAt = row.completedAt

/-- The bits of a signed number, read as those of an unsigned one. -/
theorem toUInt32_eq_iff {stored : Int32} {index : UInt32} :
    stored.toUInt32 = index ↔ (index.toNat : Int) = stored.toInt % UInt32.size := by
  have bits : (stored.toUInt32.toNat : Int) = stored.toInt % UInt32.size := by
    have signed : stored.toInt = Int.bmod stored.toUInt32.toNat UInt32.size :=
      BitVec.toInt_eq_toNat_bmod stored.toBitVec
    have small : stored.toUInt32.toNat < UInt32.size := stored.toUInt32.toNat_lt
    rw [signed, Int.bmod_emod, Int.emod_eq_of_lt (Int.natCast_nonneg _) (Int.ofNat_lt.2 small)]
  rw [← bits, ← UInt32.toNat_inj]
  omega

theorem labelOf_eq_category_iff {index : UInt32} {name : String} {confidence : Binary64} :
    row.labelOf = some (.category index name confidence) ↔
      row.label = some name ∧
        (∃ stored, row.categoryIndex = some stored ∧
          (index.toNat : Int) = stored.toInt % UInt32.size) ∧
        confidence = row.confidence.getD .zero := by
  simp only [← toUInt32_eq_iff, labelOf]
  split
  · rename_i read stored hname hindex
    simp only [hname, hindex, Option.some.injEq, Label.category.injEq, exists_eq_left']
    constructor
    · rintro ⟨rfl, rfl, rfl⟩
      exact ⟨rfl, rfl, rfl⟩
    · rintro ⟨rfl, rfl, rfl⟩
      exact ⟨rfl, rfl, rfl⟩
  · rename_i hindex
    simp [hindex]
  · rename_i hname
    simp [hname]

theorem labelOf_eq_undefined_iff :
    row.labelOf = some .undefined ↔
      (∃ name, row.label = some name) ∧ row.categoryIndex = none := by
  unfold labelOf
  split <;> simp_all

theorem labelOf_eq_none_iff : row.labelOf = none ↔ row.label = none := by
  unfold labelOf
  split <;> simp_all

theorem toPrediction_eq_ok_iff : row.toPrediction = .ok p ↔ row.Decodes p := by
  constructor
  · intro h
    obtain ⟨status, known, h⟩ := bind_eq_ok_iff.1 h
    obtain rfl := Except.ok.inj h
    exact ⟨rfl, rfl, rfl, Status.ofText_eq_ok_iff.1 known,
      fun _ _ _ => labelOf_eq_category_iff, labelOf_eq_undefined_iff, labelOf_eq_none_iff,
      rfl, rfl, rfl, rfl⟩
  · intro h
    have label : row.labelOf = p.label := by
      cases given : p.label with
      | none => exact labelOf_eq_none_iff.2 (h.unlabelled.1 given)
      | some label =>
        cases label with
        | category index name confidence =>
          exact labelOf_eq_category_iff.2 ((h.category index name confidence).1 given)
        | undefined => exact labelOf_eq_undefined_iff.2 (h.undefined.1 given)
    rw [toPrediction, Status.ofText_eq_ok_iff.2 h.status, ok_bind, label, ← h.id, ← h.owner,
      ← h.resource, ← h.error, ← h.createdAt, ← h.updatedAt, ← h.completedAt]

theorem toPrediction_eq_error_iff :
    row.toPrediction = .error e ↔ row.status ∉ Status.texts ∧ e = .unknownStatus row.status := by
  rw [toPrediction, bind_eq_error_iff, Status.ofText_eq_error_iff]
  simp

theorem exists_toPrediction_iff :
    (∃ p, row.toPrediction = .ok p) ↔ row.status ∈ Status.texts := by
  rw [← Status.exists_text_iff]
  simp only [toPrediction, bind_eq_ok_iff, Status.ofText_eq_ok_iff, Except.ok.injEq]
  constructor
  · rintro ⟨p, status, known, -⟩
    exact ⟨status, known⟩
  · rintro ⟨status, known⟩
    exact ⟨_, status, known, rfl⟩

end Row

/-! ## Failed statements -/

namespace Reply

variable {reply : Reply} {e : Error}

theorem toCount_eq_error (h : reply.toCount = .error e) :
    ∃ fault, reply = .failed fault ∧ e = .database fault := by
  cases reply <;> cases h
  exact ⟨_, rfl, rfl⟩

theorem toStatuses_eq_error (h : reply.toStatuses = .error e) :
    ∃ fault, reply = .failed fault ∧ e = .database fault := by
  cases reply <;> cases h
  exact ⟨_, rfl, rfl⟩

/-- What is read from a reply shows that the statement did not fail. -/
theorem failed_ne {α : Type} {read : Reply → Except Error α} {a : α} (h : read reply = .ok a)
    {fault : DatabaseFault} (fails : read (.failed fault) = .error (.database fault)) :
    .failed fault ≠ reply := by
  rintro rfl
  cases fails.symm.trans h

end Reply

/-! ## Talking to the server -/

namespace Connection

variable {σ : Type} [Server σ]

/-- Statements that are sent one after the other, each with the reply to it. -/
inductive Talk : Connection σ → List (Statement × Reply) → Connection σ → Prop
  | nil {c : Connection σ} : Talk c [] c
  | cons {c c' : Connection σ} {statement : Statement} {rest : List (Statement × Reply)}
      (more : Talk (c.send statement).2 rest c') :
      Talk c ((statement, (c.send statement).1) :: rest) c'

theorem Talk.sent {c c' : Connection σ} {talk : List (Statement × Reply)} (h : Talk c talk c') :
    c'.sent = c.sent ++ talk.map Prod.fst := by
  induction h with
  | nil => simp
  | cons more ih => rw [ih, sent_send, List.map_cons, List.append_assoc, List.singleton_append]

/-- Replies decide what is said next and the result: one case for each way that writing an outcome
goes. -/
inductive Finalized (id : PredictionId) (outcome : Outcome) :
    List (Statement × Reply) → Except Error Unit → Prop
  | written {reply : Reply} {n : Nat} (changed : reply.toCount = .ok (n + 1)) :
      Finalized id outcome [(.update (.ofOutcome outcome) id, reply)] (.ok ())
  | unwritten (fault : DatabaseFault) :
      Finalized id outcome [(.update (.ofOutcome outcome) id, .failed fault)]
        (.error (.database fault))
  | unseen {reply : Reply} (fault : DatabaseFault) (unchanged : reply.toCount = .ok 0) :
      Finalized id outcome [(.update (.ofOutcome outcome) id, reply), (.statusOf id, .failed fault)]
        (.error (.database fault))
  | unknown {reply look : Reply} (unchanged : reply.toCount = .ok 0)
      (nothing : look.toStatuses = .ok []) :
      Finalized id outcome [(.update (.ofOutcome outcome) id, reply), (.statusOf id, look)]
        (.error (.notFound id.text))
  | concluded {reply look : Reply} {source : String} {rest : List String}
      (unchanged : reply.toCount = .ok 0) (found : look.toStatuses = .ok (source :: rest)) :
      Finalized id outcome [(.update (.ofOutcome outcome) id, reply), (.statusOf id, look)]
        (.error (.invalidTransition source outcome.status.text))

variable (c : Connection σ) (id : PredictionId) (outcome : Outcome)

theorem finalized_finalize : ∃ talk, Talk c talk (c.finalize id outcome).2 ∧
    Finalized id outcome talk (c.finalize id outcome).1 := by
  unfold finalize
  dsimp only
  split
  · rename_i e failed
    obtain ⟨fault, reply, rfl⟩ := Reply.toCount_eq_error failed
    refine ⟨_, .cons .nil, ?_⟩
    rw [reply]
    exact .unwritten fault
  · rename_i unchanged
    refine ⟨_, .cons (.cons .nil), ?_⟩
    unfold refusal
    split
    · rename_i e failed
      obtain ⟨fault, reply, rfl⟩ := Reply.toStatuses_eq_error failed
      rw [reply]
      exact .unseen fault unchanged
    · rename_i nothing
      exact .unknown unchanged nothing
    · rename_i found
      exact .concluded unchanged found
  · rename_i n positive changed
    obtain ⟨m, rfl⟩ := Nat.exists_eq_succ_of_ne_zero (n := n) positive
    exact ⟨_, .cons .nil, .written changed⟩

variable {c id outcome} {talk : List (Statement × Reply)} {result : Except Error Unit}

/-- An update that was answered with no rows, and only such a one, is followed by a look. -/
theorem Finalized.asked (h : Finalized id outcome talk result) : ∃ reply more,
    talk = (.update (.ofOutcome outcome) id, reply) :: more ∧
      (more = [] ∨ ∃ look, more = [(.statusOf id, look)]) ∧
      (more ≠ [] ↔ reply.toCount = .ok 0) := by
  cases h with
  | written changed => exact ⟨_, [], rfl, .inl rfl, by simp [changed]⟩
  | unwritten fault => exact ⟨_, [], rfl, .inl rfl, by simp [Reply.toCount]⟩
  | unseen fault unchanged => exact ⟨_, _, rfl, .inr ⟨_, rfl⟩, by simp [unchanged]⟩
  | unknown unchanged nothing => exact ⟨_, _, rfl, .inr ⟨_, rfl⟩, by simp [unchanged]⟩
  | concluded unchanged found => exact ⟨_, _, rfl, .inr ⟨_, rfl⟩, by simp [unchanged]⟩

theorem Finalized.ok_iff (h : Finalized id outcome talk result) : result = .ok () ↔
    ∃ reply n, (.update (.ofOutcome outcome) id, reply) ∈ talk ∧ reply.toCount = .ok (n + 1) := by
  cases h with
  | written changed => simp [changed]
  | unwritten fault => simp [Reply.toCount]
  | unseen fault unchanged => simp [unchanged]
  | unknown unchanged nothing => simp [unchanged]
  | concluded unchanged found => simp [unchanged]

theorem Finalized.database_iff (h : Finalized id outcome talk result) (fault : DatabaseFault) :
    result = .error (.database fault) ↔ ∃ statement, (statement, .failed fault) ∈ talk := by
  cases h with
  | written changed => simp [Reply.failed_ne changed rfl]
  | unwritten fault' => simp [eq_comm]
  | unseen fault' unchanged => simp [Reply.failed_ne unchanged rfl, eq_comm]
  | unknown unchanged nothing =>
    simp [Reply.failed_ne unchanged rfl, Reply.failed_ne nothing rfl]
  | concluded unchanged found =>
    simp [Reply.failed_ne unchanged rfl, Reply.failed_ne found rfl]

theorem Finalized.notFound_iff (h : Finalized id outcome talk result) (what : String) :
    result = .error (.notFound what) ↔ what = id.text ∧
      ∃ look, (.statusOf id, look) ∈ talk ∧ look.toStatuses = .ok [] := by
  cases h with
  | written changed => simp
  | unwritten fault => simp
  | unseen fault unchanged => simp [Reply.toStatuses]
  | unknown unchanged nothing => simp [nothing, eq_comm]
  | concluded unchanged found => simp [found]

theorem Finalized.invalidTransition_iff (h : Finalized id outcome talk result)
    (source target : String) :
    result = .error (.invalidTransition source target) ↔ target = outcome.status.text ∧
      ∃ look rest, (.statusOf id, look) ∈ talk ∧ look.toStatuses = .ok (source :: rest) := by
  cases h with
  | written changed => simp
  | unwritten fault => simp
  | unseen fault unchanged => simp [Reply.toStatuses]
  | unknown unchanged nothing => simp [nothing]
  | concluded unchanged found => simp [found, eq_comm, and_comm]

theorem Finalized.kinds (h : Finalized id outcome talk result) : result = .ok () ∨
    (∃ fault, result = .error (.database fault)) ∨ (∃ what, result = .error (.notFound what)) ∨
    ∃ source target, result = .error (.invalidTransition source target) := by
  cases h with
  | written changed => exact .inl rfl
  | unwritten fault => exact .inr (.inl ⟨_, rfl⟩)
  | unseen fault unchanged => exact .inr (.inl ⟨_, rfl⟩)
  | unknown unchanged nothing => exact .inr (.inr (.inl ⟨_, rfl⟩))
  | concluded unchanged found => exact .inr (.inr (.inr ⟨_, _, rfl⟩))

/-! ## Lists -/

variable {reply : Reply} {rows : List Row}

theorem listed_eq (read : reply.toRows = .ok rows) :
    listed reply = rows.mapM Row.toPrediction := by
  rw [listed, read, ok_bind]

theorem listed_eq_ok_iff (read : reply.toRows = .ok rows) {records : List Prediction} :
    listed reply = .ok records ↔ List.Forall₂ Row.Decodes rows records := by
  rw [listed_eq read, mapM_eq_ok_iff]
  simp only [Row.toPrediction_eq_ok_iff]

theorem exists_listed_iff (read : reply.toRows = .ok rows) :
    (∃ records, listed reply = .ok records) ↔ ∀ row ∈ rows, row.status ∈ Status.texts := by
  rw [listed_eq read, exists_mapM_iff]
  simp only [Row.exists_toPrediction_iff]

theorem listed_eq_error_iff (read : reply.toRows = .ok rows) {e : Error} :
    listed reply = .error e ↔ ∃ front bad back, rows = front ++ bad :: back ∧
      (∀ row ∈ front, row.status ∈ Status.texts) ∧ bad.status ∉ Status.texts ∧
      e = .unknownStatus bad.status := by
  rw [listed_eq read, mapM_eq_error_iff]
  simp only [Row.exists_toPrediction_iff, Row.toPrediction_eq_error_iff]

theorem listed_eq_database_iff {fault : DatabaseFault} :
    listed reply = .error (.database fault) ↔ reply = .failed fault := by
  cases read : reply.toRows with
  | ok rows =>
    rw [listed_eq_error_iff read]
    constructor
    · rintro ⟨_, _, _, _, _, _, ⟨⟩⟩
    · rintro rfl
      cases read
  | error e =>
    cases reply <;> cases read
    rename_i fault'
    simp [listed, Reply.toRows]

/-! ## Any server -/

/-- Writing an outcome and listing, whatever the server replies. An update is sent, and then a look
at the status if no row was changed; the call succeeds if a row was changed, and otherwise its error
is the fault of a statement, or tells from the look that the record is unknown or is over. A list is
the decoding of all rows if all their statuses are known, and otherwise the error of the first row
with another status. -/
theorem replies_decide (c : Connection σ) :
    (∀ id outcome, ∃ talk, Talk c talk (c.finalize id outcome).2 ∧
      (c.finalize id outcome).2.sent = c.sent ++ talk.map Prod.fst ∧
      (∃ reply more, talk = (.update (.ofOutcome outcome) id, reply) :: more ∧
        (more = [] ∨ ∃ look, more = [(.statusOf id, look)]) ∧
        (more ≠ [] ↔ reply.toCount = .ok 0)) ∧
      ((c.finalize id outcome).1 = .ok () ↔ ∃ reply n,
        (.update (.ofOutcome outcome) id, reply) ∈ talk ∧ reply.toCount = .ok (n + 1)) ∧
      (∀ fault, (c.finalize id outcome).1 = .error (.database fault) ↔
        ∃ statement, (statement, .failed fault) ∈ talk) ∧
      (∀ what, (c.finalize id outcome).1 = .error (.notFound what) ↔ what = id.text ∧
        ∃ look, (.statusOf id, look) ∈ talk ∧ look.toStatuses = .ok []) ∧
      (∀ source target, (c.finalize id outcome).1 = .error (.invalidTransition source target) ↔
        target = outcome.status.text ∧
          ∃ look rest, (.statusOf id, look) ∈ talk ∧ look.toStatuses = .ok (source :: rest)) ∧
      ((c.finalize id outcome).1 = .ok () ∨
        (∃ fault, (c.finalize id outcome).1 = .error (.database fault)) ∨
        (∃ what, (c.finalize id outcome).1 = .error (.notFound what)) ∨
        ∃ source target, (c.finalize id outcome).1 = .error (.invalidTransition source target))) ∧
    ∀ status owner limit, ∃ reply,
      Talk c [(.list status owner limit, reply)] (c.list status owner limit).2 ∧
      (∀ fault, (c.list status owner limit).1 = .error (.database fault) ↔ reply = .failed fault) ∧
      ∀ rows, reply.toRows = .ok rows →
        (∀ records, (c.list status owner limit).1 = .ok records ↔
          List.Forall₂ Row.Decodes rows records) ∧
        ((∃ records, (c.list status owner limit).1 = .ok records) ↔
          ∀ row ∈ rows, row.status ∈ Status.texts) ∧
        ∀ e, (c.list status owner limit).1 = .error e ↔
          ∃ front bad back, rows = front ++ bad :: back ∧
            (∀ row ∈ front, row.status ∈ Status.texts) ∧ bad.status ∉ Status.texts ∧
            e = .unknownStatus bad.status := by
  constructor
  · intro id outcome
    obtain ⟨talk, sent, finalized⟩ := finalized_finalize c id outcome
    exact ⟨talk, sent, sent.sent, finalized.asked, finalized.ok_iff, finalized.database_iff,
      finalized.notFound_iff, finalized.invalidTransition_iff, finalized.kinds⟩
  · intro status owner limit
    refine ⟨_, .cons .nil, fun fault => listed_eq_database_iff, fun rows read => ?_⟩
    exact ⟨fun records => listed_eq_ok_iff read, exists_listed_iff read,
      fun e => listed_eq_error_iff read⟩

/-- A server that gives its replies one after the other, to any statements. -/
structure Script where
  replies : List Reply

instance : Server Script where
  answer script _ := (script.replies.headD (.failed .noRow), ⟨script.replies.tail⟩)

/-- No row was changed, because the record has a status of its own. -/
def archived : Connection Script :=
  start ⟨[.affected 0, .statuses ["archived"]]⟩ fun n => ⟨n⟩

theorem replies_decide_archived :
    (archived.finalize ⟨7⟩ (.failed "late")).1 =
      .error (.invalidTransition "archived" "failed") := by
  obtain ⟨talk, said, -, ⟨reply, more, rfl, shape, look⟩, -, -, -, transition, -⟩ :=
    (replies_decide archived).1 ⟨7⟩ (.failed "late")
  cases said with
  | cons said =>
    have asked : more ≠ [] := look.2 rfl
    obtain rfl | ⟨seen, rfl⟩ := shape
    · exact absurd rfl asked
    cases said
    exact (transition _ _).2 ⟨rfl, _, [], List.mem_cons_of_mem _ List.mem_cons_self, rfl⟩

end Connection

end Database

end Predictor
