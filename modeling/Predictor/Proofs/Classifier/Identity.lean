import Predictor.Engine.State
import Predictor.Proofs.Classifier.Headers
import Predictor.Proofs.Json.Records

/-!
The two ids that a call sends to the classification service. Body and log name the prediction and
the request as the correlation does. The headers do so too, unless a forwarded header bears the name
of an id in some letter case: headers are placed after the ids, so its value stands in the place of
the id (`Correlation.forwarded_ids_win`).
-/

namespace Predictor

/-! ## Ids as values of headers -/

theorem Text.forall_mem_fixedHex {p : Char → Prop} (digit : ∀ n < 16, p (hexDigit n))
    (count n : Nat) : ∀ c ∈ fixedHex count n, p c := by
  induction count generalizing n with
  | zero => simp [fixedHex]
  | succ count ih =>
    rw [fixedHex]
    refine List.forall_mem_append.2 ⟨ih (n / 16), List.forall_mem_singleton.2 ?_⟩
    exact digit (n % 16) (Nat.mod_lt n (by decide))

namespace PredictionId

theorem mem_grouped {digits : List Char} {c : Char} (h : c ∈ grouped digits) :
    c = '-' ∨ c ∈ digits := by
  simp only [grouped, List.append_assoc, List.cons_append, List.mem_append, List.mem_cons] at h
  rcases h with h | rfl | h | rfl | h | rfl | h | rfl | h
  · exact .inr (List.mem_of_mem_take h)
  · exact .inl rfl
  · exact .inr (List.mem_of_mem_drop (List.mem_of_mem_take h))
  · exact .inl rfl
  · exact .inr (List.mem_of_mem_drop (List.mem_of_mem_take h))
  · exact .inl rfl
  · exact .inr (List.mem_of_mem_drop (List.mem_of_mem_take h))
  · exact .inl rfl
  · exact .inr (List.mem_of_mem_drop h)

theorem isValue_text (id : PredictionId) : Header.isValue id.text = true := by
  have digits : ∀ c ∈ Text.fixedHex 32 id.value.toNat, Header.isValueChar c = true :=
    Text.forall_mem_fixedHex (by decide) 32 _
  rw [Header.isValue, text, String.toList_ofList, List.all_eq_true]
  intro c mem
  rcases mem_grouped mem with rfl | mem
  · decide
  · exact digits c mem

end PredictionId

/-! ## The id in the body -/

namespace Request

open Json

/-- The prediction that the body of a request names. -/
def predictionId? (request : Request) : Option PredictionId :=
  match Tree.ofBytes? (bytesOf request.body) with
  | some (.object members) => do
    let members ← Tree.keyed? members
    let member ← Tree.member? "prediction_id" members
    PredictionId.ofTree? (← member)
  | _ => none

theorem predictionId?_of_made {service : Service} {resource : String} {id : PredictionId}
    {c : Correlation} {request : Request} (made : service.request resource id c = .ok request) :
    request.predictionId? = some id := by
  have plain : IsPlain "resource" ∧ IsPlain "prediction_id" := by decide +kernel
  have members : ∀ m ∈ [("resource", Tree.ofText resource), ("prediction_id", Tree.ofText id.text)],
      IsPlain m.1 ∧ m.2.WellFormed := by
    simp only [List.forall_mem_cons, List.not_mem_nil, false_imp_iff, implies_true, and_true]
    exact ⟨⟨plain.1, Tree.wellFormed_ofText _⟩, plain.2, Tree.wellFormed_ofText _⟩
  have read : Tree.ofBytes? (bytesOf (Service.body resource id)) = some (Tree.ofMembers _) :=
    (congrArg Tree.ofBytes? (Tree.bytesOf_render (Tree.wellFormed_ofMembers members))).trans
      (Tree.ofBytes?_write (Tree.wellFormed_ofMembers members))
  have keys := Tree.keyed?_ofMembers fun m mem => (members m mem).1
  have own : PredictionId.ofTree? (Tree.ofText id.text) = some id := by
    rw [PredictionId.ofTree?, Tree.text?_ofText, Option.bind_some, PredictionId.ofText?_text]
  rw [predictionId?, (Service.request_eq made).1, read]
  simp only [Tree.ofMembers, keys, Option.bind_eq_bind, Option.bind_some]
  simpa [Tree.member?] using own

end Request

/-! ## The ids in the headers -/

namespace Header

variable {front back : List (String × String)} {key own value : String}

/-- What comes later counts before what comes first. -/
theorem gives_append : Gives (front ++ back) key value ↔
    Gives back key value ∨ (¬ ∃ later, Gives back key later) ∧ Gives front key value := by
  have found : ∀ pairs : List (String × String), ∀ given, Gives pairs key given ↔
      (pairs.reverse.find? (isUnder key)).map Prod.snd = some given := by
    simp [gives_iff_find?]
  simp only [found, List.reverse_append, List.find?_append]
  cases back.reverse.find? (isUnder key) with
  | none => simp
  | some pair => simp

/-- A value that comes first stays as long as none that comes later differs. -/
theorem gives_append_own (given : ∀ value, Gives front key value ↔ value = own) :
    Gives (front ++ back) key own ↔ ∀ value, Gives back key value → value = own := by
  rw [gives_append, given]
  constructor
  · rintro (later | ⟨none, -⟩) value other
    · exact other.unique later
    · exact absurd ⟨value, other⟩ none
  · intro same
    by_cases later : ∃ value, Gives back key value
    · obtain ⟨value, later⟩ := later
      exact .inl (same value later ▸ later)
    · exact .inr ⟨later, rfl⟩

end Header

namespace Correlation

open Header

variable {c : Correlation} {value : String}

/-- The pairs of the two ids. -/
def idPairs (c : Correlation) : List (String × String) :=
  [(requestIdHeader, c.requestId), (predictionIdHeader, c.predictionId.text)]

theorem headerPairs_eq (c : Correlation) : c.headerPairs = c.idPairs ++ c.headers := rfl

theorem gives_requestId (valid : isValue c.requestId = true) (value : String) :
    Gives c.idPairs (folded requestIdHeader) value ↔ value = c.requestId := by
  have named : isName requestIdHeader = true := by decide
  have own : isUnder (folded requestIdHeader) (requestIdHeader, c.requestId) = true := by
    simp [isUnder, isValid, named, valid]
  have apart : (folded predictionIdHeader == folded requestIdHeader) = false := by decide
  have other : isUnder (folded requestIdHeader)
      (predictionIdHeader, c.predictionId.text) = false := by
    simp [isUnder, apart]
  change Gives (([] ++ [_]) ++ [_]) _ _ ↔ _
  rw [gives_concat, other, gives_concat, own]
  simp [eq_comm]

theorem gives_predictionId (c : Correlation) (value : String) :
    Gives c.idPairs (folded predictionIdHeader) value ↔ value = c.predictionId.text := by
  have named : isName predictionIdHeader = true := by decide
  have own : isUnder (folded predictionIdHeader)
      (predictionIdHeader, c.predictionId.text) = true := by
    simp [isUnder, isValid, named, c.predictionId.isValue_text]
  change Gives ([_] ++ [_]) _ _ ↔ _
  rw [gives_concat, own]
  simp [eq_comm]

/-- A header whose name is that of an id stands for the id if and only if the last valid forwarded
header of that name, if there is any, has the id for its value. -/
theorem valuesOf_id_iff {name own : String}
    (given : ∀ value, Gives c.idPairs (folded name) value ↔ value = own) :
    c.headerMap.valuesOf name = [own] ↔
      ∀ value, Gives c.headers (folded name) value → value = own := by
  rw [headerMap, HeaderMap.valuesOf_ofPairs_eq_singleton_iff, headerPairs_eq,
    gives_append_own given]

/-- There is exactly one header under the name of an id. -/
theorem exists_valuesOf_id {name own : String}
    (given : ∀ value, Gives c.idPairs (folded name) value ↔ value = own) :
    ∃ value, c.headerMap.valuesOf name = [value] := by
  simp only [headerMap, HeaderMap.valuesOf_ofPairs_eq_singleton_iff, headerPairs_eq, gives_append]
  by_cases later : ∃ value, Gives c.headers (folded name) value
  · exact later.imp fun value h => .inl h
  · exact ⟨own, .inr ⟨later, (given own).2 rfl⟩⟩

/-- A call has exactly one header with the name of each id, in its header map and in the request
that is sent. It is the id of the correlation, which the body and the span of the unit of work name,
if and only if no other value comes last among the valid forwarded headers with this name in
whatever letter case. -/
theorem ids_sent_unless_forwarded (fresh : PredictionId) (context : RequestContext)
    (id : PredictionId) (resource : String) (status : Option Status)
    (valid : isValue (ofContext fresh context id).requestId = true) :
    let w : Engine.Work := ⟨resource, ofContext fresh context id⟩
    ∃ requestId predictionId : String,
      w.correlation.headerMap.valuesOf requestIdHeader = [requestId] ∧
      w.correlation.headerMap.valuesOf predictionIdHeader = [predictionId] ∧
      (requestId = w.correlation.requestId ↔
        ∀ value, Gives context.forwarded (folded requestIdHeader) value →
          value = w.correlation.requestId) ∧
      (predictionId = id.text ↔
        ∀ value, Gives context.forwarded (folded predictionIdHeader) value → value = id.text) ∧
      ((w.span status).requestId = w.correlation.requestId ∧ (w.span status).prediction = id) ∧
      ∀ (service : Service) (request : Request),
        service.request w.resource w.id w.correlation = .ok request →
          valuesUnder (folded requestIdHeader) request.headers = [requestId] ∧
          valuesUnder (folded predictionIdHeader) request.headers = [predictionId] ∧
          request.predictionId? = some id := by
  intro w
  have requestGiven := gives_requestId valid
  have predictionGiven := gives_predictionId w.correlation
  obtain ⟨requestId, hrequest⟩ := exists_valuesOf_id requestGiven
  obtain ⟨predictionId, hprediction⟩ := exists_valuesOf_id predictionGiven
  refine ⟨requestId, predictionId, hrequest, hprediction, ?_, ?_, ⟨rfl, rfl⟩,
    fun service request made => ⟨?_, ?_, Request.predictionId?_of_made made⟩⟩
  · have same := valuesOf_id_iff requestGiven
    rwa [hrequest, List.singleton_inj] at same
  · have same := valuesOf_id_iff predictionGiven
    rwa [hprediction, List.singleton_inj] at same
  · rw [Service.valuesUnder_headers made (by decide)]
    exact hrequest
  · rw [Service.valuesUnder_headers made (by decide)]
    exact hprediction

/-- A header with the name of an id is forwarded, but its value is not valid. -/
def Sample.harmless : RequestContext :=
  ⟨some "req-7", [("x-request-id", "re\nq"), ("traceparent", "00-1-2-01")]⟩

theorem ids_sent_unless_forwarded_harmless :
    isValue (ofContext ⟨0⟩ Sample.harmless ⟨1⟩).requestId = true ∧
      (ofContext ⟨0⟩ Sample.harmless ⟨1⟩).headerMap.valuesOf requestIdHeader = ["req-7"] ∧
      (ofContext ⟨0⟩ Sample.harmless ⟨1⟩).headerMap.valuesOf predictionIdHeader =
        [(⟨1⟩ : PredictionId).text] := by
  have valid : isValue (ofContext ⟨0⟩ Sample.harmless ⟨1⟩).requestId = true := by decide
  obtain ⟨_, _, hrequest, hprediction, request_iff, prediction_iff, -⟩ :=
    ids_sent_unless_forwarded ⟨0⟩ Sample.harmless ⟨1⟩ "scan.png" none valid
  have silent : ∀ key, (∀ pair ∈ Sample.harmless.forwarded, isUnder key pair = false) →
      ∀ value own : String, Gives Sample.harmless.forwarded key value → value = own := by
    intro key none value own given
    obtain ⟨pair, mem, under⟩ := exists_gives_iff.1 ⟨value, given⟩
    rw [none pair mem] at under
    cases under
  obtain rfl := request_iff.2 fun value => silent _ (by decide) value _
  obtain rfl := prediction_iff.2 fun value => silent _ (by decide) value _
  exact ⟨valid, hrequest, hprediction⟩

/-- Both names are forwarded, in other letter cases. -/
def Sample.shadowed : RequestContext :=
  ⟨some "req-1", [("x-request-id", "shadow"), ("X-PREDICTION-ID", "other")]⟩

/-- The forwarded headers stand in the place of both ids. -/
theorem forwarded_ids_win :
    isValue (ofContext ⟨0⟩ Sample.shadowed ⟨1⟩).requestId = true ∧
      (ofContext ⟨0⟩ Sample.shadowed ⟨1⟩).headerMap.valuesOf requestIdHeader = ["shadow"] ∧
      (ofContext ⟨0⟩ Sample.shadowed ⟨1⟩).headerMap.valuesOf predictionIdHeader = ["other"] ∧
      (ofContext ⟨0⟩ Sample.shadowed ⟨1⟩).requestId ≠ "shadow" ∧
      (ofContext ⟨0⟩ Sample.shadowed ⟨1⟩).predictionId.text ≠ "other" := by
  decide

end Correlation

end Predictor
