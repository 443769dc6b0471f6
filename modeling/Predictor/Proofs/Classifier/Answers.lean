import Predictor.Classifier.Call
import Predictor.Proofs.Classifier.Headers
import Predictor.Proofs.Engine.Aftermath
import Predictor.Proofs.Text.Trimming

/-!
What the answers of the classification service come to. Every final answer means one result, a raw
result or one of the four faults with its detail (`Answer.result_eq_iff`), and every call without an
answer is an internal fault. The record of a prediction whose outcome has been taken shows this
result, and a fault can be read back from the reason (`ClassifyError.ofMessage?_message`).
-/

namespace Predictor

/-! ## Faults -/

namespace ClassifyError

/-- The detail of the fault that an answer with this status and this text stands for. -/
inductive Details (status : Nat) (body : String) : String → Prop
  | blank (nothing : ∀ c ∈ body.toList, Text.isBlank c = true) :
      Details status body (statusText status)
  | told {text : String} (something : text ≠ "") (trims : Text.Trims body.toList text.toList) :
      Details status body (statusText status ++ ": " ++ text)

theorem statusDetail_eq_iff {status : Nat} {body detail : String} :
    statusDetail status body = detail ↔ Details status body detail := by
  have nothing : Text.isBlankText body = true ↔ ∀ c ∈ body.toList, Text.isBlank c = true :=
    List.all_eq_true
  constructor
  · rintro rfl
    rw [statusDetail]
    split
    · exact .blank (nothing.1 ‹_›)
    · rename_i something
      have trims : Text.Trims body.toList (Text.trim body).toList :=
        Text.trims_iff.2 String.toList_ofList.symm
      refine .told (fun empty => something (nothing.2 (Text.trims_nil_iff.1 ?_))) trims
      simpa [empty] using trims
  · rintro (blank | @⟨text, something, trims⟩)
    · rw [statusDetail, if_pos (nothing.2 blank)]
    · have text_eq : Text.trim body = text := by
        rw [Text.trim, Text.trims_iff.1 trims, String.ofList_toList]
      have told : ¬ Text.isBlankText body = true := fun blank => something <| by
        rw [← text_eq, Text.trim, Text.trims_iff.1 (Text.trims_nil_iff.2 (nothing.1 blank))]
      rw [statusDetail, if_neg told, text_eq]

theorem ofStatus_eq (status : Nat) (body : String) : ofStatus status body =
    if status ∈ [400, 422] then .badInput (statusDetail status body)
    else if status ∈ [401, 403] then .forbidden (statusDetail status body)
    else if status = 404 then .notFound (statusDetail status body)
    else .internal (statusDetail status body) := by
  unfold ofStatus
  split <;> simp_all

/-- How the messages of the kinds begin. -/
def heads : List (String × (String → ClassifyError)) :=
  [("bad input: ", badInput), ("forbidden: ", forbidden), ("not found: ", notFound),
    ("internal error: ", internal)]

/-- The fault with this message. -/
def ofMessage? (s : String) : Option ClassifyError :=
  heads.findSome? fun head =>
    if head.1.toList.isPrefixOf s.toList then
      some (head.2 (String.ofList (s.toList.drop head.1.toList.length)))
    else none

/-- No kind can pass for another one, whatever the detail. -/
theorem ofMessage?_message (error : ClassifyError) : ofMessage? error.message = some error := by
  cases error with
  | badInput detail =>
    show ofMessage? ("bad input: " ++ detail) = _
    simp [ofMessage?, heads]
  | forbidden detail =>
    show ofMessage? ("forbidden: " ++ detail) = _
    simp [ofMessage?, heads]
  | notFound detail =>
    show ofMessage? ("not found: " ++ detail) = _
    simp [ofMessage?, heads]
  | internal detail =>
    show ofMessage? ("internal error: " ++ detail) = _
    simp [ofMessage?, heads]

theorem message_inj {error error' : ClassifyError} :
    error.message = error'.message ↔ error = error' := by
  refine ⟨fun same => ?_, congrArg message⟩
  have read := ofMessage?_message error
  rw [same, ofMessage?_message error'] at read
  exact (Option.some.inj read).symm

end ClassifyError

/-! ## Answers -/

namespace Answer

/-- What an answer means. -/
inductive Means (answer : Answer) : Except ClassifyError RawResult → Prop
  | raw {body : Bytes} {raw : RawResult} (success : 200 ≤ answer.status ∧ answer.status < 300)
      (body_eq : answer.body = some body) (parses : RawResult.ofBytes? body = some raw) :
      Means answer (.ok raw)
  | undecodable (success : 200 ≤ answer.status ∧ answer.status < 300)
      (fails : ∀ body, answer.body = some body → RawResult.ofBytes? body = none) :
      Means answer (.error (.internal "undecodable response: error decoding response body"))
  | badInput {detail : String} (status : answer.status ∈ [400, 422])
      (details : ClassifyError.Details answer.status answer.text detail) :
      Means answer (.error (.badInput detail))
  | forbidden {detail : String} (status : answer.status ∈ [401, 403])
      (details : ClassifyError.Details answer.status answer.text detail) :
      Means answer (.error (.forbidden detail))
  | notFound {detail : String} (status : answer.status = 404)
      (details : ClassifyError.Details answer.status answer.text detail) :
      Means answer (.error (.notFound detail))
  | other {detail : String} (failure : ¬ (200 ≤ answer.status ∧ answer.status < 300))
      (status : answer.status ∉ [400, 401, 403, 404, 422])
      (details : ClassifyError.Details answer.status answer.text detail) :
      Means answer (.error (.internal detail))

variable {answer : Answer} {result : Except ClassifyError RawResult}

theorem isSuccess_iff : answer.isSuccess = true ↔ 200 ≤ answer.status ∧ answer.status < 300 := by
  simp [isSuccess]

theorem means_result (answer : Answer) : answer.Means answer.result := by
  have details := ClassifyError.statusDetail_eq_iff.1
    (rfl : ClassifyError.statusDetail answer.status answer.text = _)
  rw [result]
  split
  · have success := isSuccess_iff.1 ‹_›
    split
    · rename_i raw found
      obtain ⟨body, body_eq, parses⟩ := Option.bind_eq_some_iff.1 found
      exact .raw success body_eq parses
    · rename_i missing
      refine .undecodable success fun body body_eq => ?_
      simpa [body_eq] using missing
  · have failure := mt isSuccess_iff.2 ‹_›
    rw [ClassifyError.ofStatus_eq]
    split_ifs with bad closed missing
    · exact .badInput bad details
    · exact .forbidden closed details
    · exact .notFound missing details
    · refine .other failure ?_ details
      simp_all

theorem result_of_failure (failure : ¬ (200 ≤ answer.status ∧ answer.status < 300)) :
    answer.result = .error (.ofStatus answer.status answer.text) :=
  if_neg (mt isSuccess_iff.1 failure)

theorem Means.eq (h : answer.Means result) : answer.result = result := by
  cases h with
  | raw success body_eq parses =>
    simp [Answer.result, isSuccess_iff.2 success, body_eq, parses]
  | undecodable success fails =>
    have unread : answer.body.bind RawResult.ofBytes? = none := Option.bind_eq_none_iff.2 fails
    simp [Answer.result, isSuccess_iff.2 success, unread, ClassifyError.undecodable]
  | badInput status details =>
    obtain rfl := ClassifyError.statusDetail_eq_iff.2 details
    have bound : 400 ≤ answer.status := by
      rcases List.mem_pair.1 status with h | h <;> omega
    rw [result_of_failure (by omega), ClassifyError.ofStatus_eq, if_pos status]
  | forbidden status details =>
    obtain rfl := ClassifyError.statusDetail_eq_iff.2 details
    obtain ⟨bound, other⟩ : 400 ≤ answer.status ∧ answer.status ∉ [400, 422] := by
      rcases List.mem_pair.1 status with h | h <;> simp [h]
    rw [result_of_failure (by omega), ClassifyError.ofStatus_eq, if_neg other, if_pos status]
  | notFound status details =>
    obtain rfl := ClassifyError.statusDetail_eq_iff.2 details
    rw [result_of_failure (by omega), ClassifyError.ofStatus_eq]
    simp [status]
  | other failure status details =>
    obtain rfl := ClassifyError.statusDetail_eq_iff.2 details
    simp only [List.mem_cons, List.not_mem_nil, or_false, not_or] at status
    rw [result_of_failure failure, ClassifyError.ofStatus_eq]
    simp [status]

theorem result_eq_iff : answer.result = result ↔ answer.Means result :=
  ⟨fun h => h ▸ means_result answer, Means.eq⟩

end Answer

/-! ## Calls -/

namespace Service

/-- A call is made that gets this answer in the end. -/
def Answered (service : Service) (exchange : Request → Exchange) (resource : String)
    (id : PredictionId) (correlation : Correlation) (answer : Answer) : Prop :=
  ∃ request, service.request resource id correlation = .ok request ∧
    exchange request = .answered answer

variable {service : Service} {exchange : Request → Exchange} {resource : String}
  {id : PredictionId} {correlation : Correlation} {answer : Answer}

theorem Answered.result_eq (h : service.Answered exchange resource id correlation answer) :
    (service.call exchange resource id correlation).result = answer.result := by
  obtain ⟨request, made, ending⟩ := h
  simp [call, made, ending, Exchange.result]

theorem result_of_unanswered
    (unanswered : ∀ answer, ¬ service.Answered exchange resource id correlation answer) :
    ∃ detail, (service.call exchange resource id correlation).result =
      .error (.internal detail) := by
  cases made : service.request resource id correlation with
  | error fault => exact ⟨_, by rw [call, made]⟩
  | ok request =>
    cases ending : exchange request with
    | answered answer => exact absurd ⟨request, made, ending⟩ (unanswered answer)
    | unreachable | broken | timedOut | redirected =>
      simp [call, made, ending, Exchange.result]

end Service

/-! ## Records -/

namespace Engine

/-- A record shows what a call has returned. -/
structure Answer.RecordedBy (table : LabelTable) (answer : Answer) (record : Prediction) :
    Prop where
  completed : record.status = .completed ↔ ∃ raw, answer = .ok raw
  label : ∀ raw, answer = .ok raw → record.label = some (table.decode raw) ∧ record.error = none
  failed : ∀ error, answer = .error error →
    record.status = .failed ∧ record.error = some error.message ∧ record.label = none

theorem Answer.recordedBy {table : LabelTable} {answer : Answer} {record : Prediction}
    (shown : (answer.outcome table).ShownBy record) : answer.RecordedBy table record := by
  obtain ⟨status, shown⟩ := shown
  cases answer with
  | ok raw =>
    refine ⟨by simp [status, outcome, Outcome.status], fun _ own => ?_, nofun⟩
    obtain rfl := Except.ok.inj own
    exact shown
  | error error =>
    refine ⟨by simp [status, outcome, Outcome.status], nofun, fun _ own => ?_⟩
    obtain rfl := Except.error.inj own
    exact ⟨status, shown⟩

/-- What a unit has heard is what it has asked the store to write. -/
theorem Recorded.deeds_of_told {σ : Type} {s : State σ} (h : Recorded s) {t : TaskId}
    {answer : Answer} (heard : (t, .heard answer.behaviour) ∈ s.deeds)
    (told : (t, .told (.ok ())) ∈ s.deeds) : s.deedsOf t =
      [.heard answer.behaviour, .asked (answer.outcome s.table), .told (.ok ())] := by
  obtain ⟨own, deeds⟩ := h.of_told told
  have same : answer.behaviour = own.behaviour := by
    have mem := mem_deedsIn.2 heard
    rw [← State.deedsOf, deeds] at mem
    simpa using mem
  rw [deeds, Answer.behaviour_inj same]

/-- The record of a unit shows what it has heard, once the outcome is taken. -/
theorem Settled.recordedBy {s : State MemoryStore} (h : Settled s) {t : TaskId} {w : Work}
    {stage : WorkStage} {answer : Answer} (here : s.tasks[t]? = some (.work w stage))
    (deeds : s.deedsOf t =
      [.heard answer.behaviour, .asked (answer.outcome s.table), .told (.ok ())]) :
    ∃ record, s.store.get w.id = .ok record ∧ answer.RecordedBy s.table record := by
  obtain ⟨record, found, shown⟩ := (h.replied here deeds).resolve_left (by simp)
  exact ⟨record, by rw [MemoryStore.get, found], Answer.recordedBy shown⟩

end Engine

namespace Service

open Engine

variable {capacity : UInt64} {table : LabelTable} {supplies : Supplies}
  {surroundings : Surroundings} {freshIds : Nat → PredictionId} {s : State MemoryStore}

/-- A call that is answered in the end returns what the answer means, and any other one an internal
fault. A unit of work for which some store has taken an outcome has asked it to write what the call
returned. In the store in memory its record shows this: the label if and only if it was a raw
result, and else the message of the fault, from which kind and detail can be read back. -/
theorem answers_recorded (service : Service) (exchange : Request → Exchange)
    (h : Reachable (.start capacity table (.empty supplies) surroundings freshIds) s)
    (unique : s.store.Unique) :
    (∀ resource id correlation,
      let result := (service.call exchange resource id correlation).result
      (∀ answer, service.Answered exchange resource id correlation answer →
        ∀ meant, result = meant ↔ answer.Means meant) ∧
      ((∀ answer, ¬ service.Answered exchange resource id correlation answer) →
        ∃ detail, result = .error (.internal detail))) ∧
    (∀ (σ : Type) [PredictionStore σ] (store : σ) (r : State σ) (t : TaskId)
        (result : Engine.Answer), Reachable (.start capacity table store surroundings freshIds) r →
      (t, .heard result.behaviour) ∈ r.deeds → (t, .told (.ok ())) ∈ r.deeds →
        r.deedsOf t = [.heard result.behaviour, .asked (result.outcome table), .told (.ok ())]) ∧
    (∀ t w stage, s.tasks[t]? = some (.work w stage) →
      let result : Engine.Answer := (service.call exchange w.resource w.id w.correlation).result
      (t, .heard result.behaviour) ∈ s.deeds → (t, .told (.ok ())) ∈ s.deeds →
        ∃ record, s.store.get w.id = .ok record ∧ result.RecordedBy table record) ∧
    (∀ error : ClassifyError, ClassifyError.ofMessage? error.message = some error) ∧
    ∀ error error' : ClassifyError, error.message = error'.message ↔ error = error' := by
  refine ⟨fun resource id correlation => ⟨fun answer answered meant => ?_, result_of_unanswered⟩,
    fun σ _ store r t result reached heard told => ?_, fun t w stage here heard told => ?_,
    ClassifyError.ofMessage?_message, fun _ _ => ClassifyError.message_inj⟩
  · rw [answered.result_eq]
    exact Answer.result_eq_iff
  · have deeds := (recorded_of_reachable reached).deeds_of_told heard told
    rwa [reached.grows.table] at deeds
  · obtain rfl : s.table = table := h.grows.table
    exact (settled_of_reachable h unique).recordedBy here
      ((recorded_of_reachable h).deeds_of_told heard told)

/-- The answer of a service to which the resource is unknown. -/
def Sample.gone : Answer := ⟨404, none, some (bytesOf " gone\n")⟩

def Sample.service : Service := .ofBase "http://localhost/" none

theorem Sample.answered (resource : String) (id : PredictionId) (correlation : Correlation) :
    Sample.service.Answered (fun _ => .answered gone) resource id correlation gone := by
  have address : Sample.service.address.isOk = true := by decide +kernel
  rw [← isOk_request Sample.service resource id correlation] at address
  cases made : Sample.service.request resource id correlation with
  | error fault => simp [made, Except.isOk, Except.toBool] at address
  | ok request => exact ⟨request, made, rfl⟩

theorem Sample.means_gone : gone.Means (.error (.notFound "404 Not Found: gone")) := by
  have text : gone.text = " gone\n" := by decide +kernel
  have trims : Text.Trims [' ', 'g', 'o', 'n', 'e', '\n'] ['g', 'o', 'n', 'e'] :=
    { split := ⟨[' '], ['\n'], rfl, List.forall_mem_singleton.2 (by decide),
        List.forall_mem_singleton.2 (by decide)⟩
      first := by rintro _ ⟨⟩; decide
      last := by rintro _ ⟨⟩; decide }
  have details : ClassifyError.Details 404 " gone\n" (statusText 404 ++ ": " ++ "gone") :=
    .told (by decide) trims
  exact .notFound rfl (text ▸ details)

/-- An engine whose classifier fails as the service does. -/
def Sample.start : State MemoryStore :=
  .start 2 ⟨[]⟩ (.empty Engine.Sample.supplies)
    (.start (.fails (.notFound "404 Not Found: gone")) true) Engine.Sample.supplies.ids

/-- A submission and its unit of work. -/
def Sample.run : State MemoryStore :=
  (Sample.start.apply (.submitAll [Engine.Sample.submission])).polls 2

theorem answers_recorded_gone : Reachable Sample.start Sample.run ∧ Sample.run.store.Unique ∧
    ∃ w record, Sample.run.tasks[1]? = some (.work w (.done false)) ∧
      (Sample.service.call (fun _ => .answered Sample.gone) w.resource w.id w.correlation).result =
        .error (.notFound "404 Not Found: gone") ∧
      Sample.run.store.get w.id = .ok record ∧ record.status = .failed ∧
      record.error = some "not found: 404 Not Found: gone" := by
  have reached : Reachable Sample.start Sample.run := (Reachable.start.event _).polls 2
  have unique : Sample.run.store.Unique := by decide
  obtain ⟨calls, -, units, -, -⟩ :=
    answers_recorded Sample.service (fun _ => .answered Sample.gone) reached unique
  obtain ⟨w, here⟩ : ∃ w, Sample.run.tasks[1]? = some (.work w (.done false)) := ⟨_, rfl⟩
  have result := ((calls w.resource w.id w.correlation).1 _ (Sample.answered ..) _).2
    Sample.means_gone
  have deeds : Sample.run.deeds = [(1, .heard (.fails (.notFound "404 Not Found: gone"))),
      (1, .asked (.failed "not found: 404 Not Found: gone")), (1, .told (.ok ()))] := rfl
  have units := units 1 w _ here
  rw [result, deeds] at units
  obtain ⟨record, found, -, -, failed⟩ := units (by simp [Engine.Answer.behaviour]) (by simp)
  obtain ⟨status, reason, -⟩ := failed _ rfl
  exact ⟨reached, unique, w, record, here, result, found, status, reason⟩

end Service

end Predictor
