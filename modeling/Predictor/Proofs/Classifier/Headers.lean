import Mathlib.Data.List.Induction
import Mathlib.Data.List.Nodup
import Predictor.Classifier.Service

/-!
The header map of a list of pairs. Under a name it holds the value of the last valid pair that has
the name in whatever letter case, and nothing else (`HeaderMap.mem_ofPairs_iff`). So a pair that is
not valid is as good as absent, and only pairs of one name have to keep their order.
-/

namespace Predictor

/-! ## Pairs -/

namespace Header

/-- A valid pair whose name counts as this one, which is written in the form for looking up. -/
def isUnder (key : String) (pair : String × String) : Bool :=
  isValid pair && folded pair.1 == key

/-- The last valid pair under a name has this value. -/
def Gives (pairs : List (String × String)) (key value : String) : Prop :=
  ∃ front own back, pairs = front ++ (own, value) :: back ∧ isUnder key (own, value) = true ∧
    ∀ pair ∈ back, isUnder key pair = false

variable {pairs pairs' : List (String × String)} {key value : String}

/-- Looking for the pair from the end. -/
theorem gives_iff_find? :
    Gives pairs key value ↔ ∃ own, pairs.reverse.find? (isUnder key) = some (own, value) := by
  simp only [List.find?_eq_some_iff_append, Bool.not_eq_true']
  constructor
  · rintro ⟨front, own, back, rfl, under, last⟩
    refine ⟨own, under, back.reverse, front.reverse, by simp, ?_⟩
    exact fun pair mem => last pair (List.mem_reverse.1 mem)
  · rintro ⟨own, under, back, front, split, last⟩
    refine ⟨front.reverse, own, back.reverse, ?_, under, ?_⟩
    · simpa using congrArg List.reverse split
    · exact fun pair mem => last pair (List.mem_reverse.1 mem)

theorem gives_nil : ¬ Gives [] key value := by
  simp [gives_iff_find?]

theorem gives_concat {pair : String × String} : Gives (pairs ++ [pair]) key value ↔
    if isUnder key pair then pair.2 = value else Gives pairs key value := by
  simp only [gives_iff_find?, List.reverse_append, List.reverse_singleton, List.singleton_append,
    List.find?_cons]
  cases isUnder key pair with
  | true => simp [Prod.ext_iff]
  | false => simp

theorem Gives.unique {value' : String} (h : Gives pairs key value) (h' : Gives pairs key value') :
    value = value' := by
  obtain ⟨own, found⟩ := gives_iff_find?.1 h
  obtain ⟨own', found'⟩ := gives_iff_find?.1 h'
  rw [found] at found'
  exact (Prod.mk.inj (Option.some.inj found')).2

theorem exists_gives_iff :
    (∃ value, Gives pairs key value) ↔ ∃ pair ∈ pairs, isUnder key pair = true := by
  have found : (pairs.reverse.find? (isUnder key)).isSome = true ↔
      ∃ pair ∈ pairs, isUnder key pair = true := by
    simp
  rw [← found, Option.isSome_iff_exists]
  simp only [gives_iff_find?, Prod.exists]
  exact exists_comm

variable {fields : List (String × String)}

/-- The values that stand under a name. -/
def valuesUnder (key : String) (fields : List (String × String)) : List String :=
  (fields.filter fun field => field.1 == key).map Prod.snd

theorem valuesUnder_append (key : String) (front back : List (String × String)) :
    valuesUnder key (front ++ back) = valuesUnder key front ++ valuesUnder key back := by
  simp [valuesUnder]

theorem mem_valuesUnder : value ∈ valuesUnder key fields ↔ (key, value) ∈ fields := by
  simp [valuesUnder]

theorem valuesUnder_eq_nil_iff : valuesUnder key fields = [] ↔ key ∉ fields.map Prod.fst := by
  simp only [valuesUnder, List.map_eq_nil_iff, List.filter_eq_nil_iff, beq_iff_eq, List.mem_map,
    not_exists, not_and]

/-- Where the names differ, a field gives the one value under its name. -/
theorem valuesUnder_eq_singleton_iff (h : (fields.map Prod.fst).Nodup) :
    valuesUnder key fields = [value] ↔ (key, value) ∈ fields := by
  constructor
  · intro values
    exact mem_valuesUnder.1 (values ▸ List.mem_singleton_self value)
  · intro mem
    obtain ⟨front, back, rfl⟩ := List.append_of_mem mem
    rw [List.map_append, List.map_cons] at h
    obtain ⟨-, behind, apart⟩ := List.nodup_append.1 h
    have before : valuesUnder key front = [] :=
      valuesUnder_eq_nil_iff.2 fun mem => apart key mem key List.mem_cons_self rfl
    have after : valuesUnder key back = [] :=
      valuesUnder_eq_nil_iff.2 (List.nodup_cons.1 behind).1
    have own : valuesUnder key ((key, value) :: back) = value :: valuesUnder key back := by
      simp [valuesUnder]
    rw [valuesUnder_append, before, own, after, List.nil_append]

theorem mem_place_iff {name : String} {field : String × String} (h : (fields.map Prod.fst).Nodup) :
    field ∈ place name value fields ↔ field = (name, value) ∨ field ∈ fields ∧ field.1 ≠ name := by
  induction fields with
  | nil => simp [place]
  | cons first rest ih =>
    obtain ⟨fresh, distinct⟩ := List.nodup_cons.1 h
    rw [place]
    split
    · rename_i same
      have apart : ∀ other ∈ rest, other.1 ≠ name := by
        rintro other mem rfl
        exact fresh (same ▸ List.mem_map_of_mem mem)
      simp only [List.mem_cons]
      constructor
      · rintro (placed | mem)
        · exact .inl placed
        · exact .inr ⟨.inr mem, apart field mem⟩
      · rintro (placed | ⟨rfl | mem, other⟩)
        · exact .inl placed
        · exact absurd same other
        · exact .inr mem
    · rename_i other
      simp only [List.mem_cons, ih distinct]
      constructor
      · rintro (rfl | placed | ⟨mem, other'⟩)
        · exact .inr ⟨.inl rfl, other⟩
        · exact .inl placed
        · exact .inr ⟨.inr mem, other'⟩
      · rintro (placed | ⟨rfl | mem, other'⟩)
        · exact .inr (.inl placed)
        · exact .inl rfl
        · exact .inr (.inr ⟨mem, other'⟩)

theorem valuesUnder_place_of_ne {name : String} (h : key ≠ name) :
    valuesUnder key (place name value fields) = valuesUnder key fields := by
  induction fields with
  | nil => simp [place, valuesUnder, Ne.symm h]
  | cons first rest ih =>
    rw [place]
    split
    · rename_i same
      simp [valuesUnder, same, Ne.symm h]
    · simp only [valuesUnder, List.filter_cons] at ih ⊢
      split <;> simp [ih]

end Header

/-! ## Maps -/

namespace HeaderMap

open Header

variable {pairs pairs' : List (String × String)} {key value : String}

/-- The values under a name, in whatever letter case it is given. -/
def valuesOf (headers : HeaderMap) (name : String) : List String :=
  valuesUnder (folded name) headers.fields

theorem mem_add_iff {headers : HeaderMap} {pair : String × String} :
    (key, value) ∈ (headers.add pair).fields ↔
      if isUnder key pair then pair.2 = value else (key, value) ∈ headers.fields := by
  unfold add
  split
  · rename_i valid
    rw [insert, mem_place_iff headers.nodup_names]
    simp only [isUnder, valid, Bool.true_and, beq_iff_eq, Prod.mk.injEq]
    split
    · rename_i same
      simp [same, eq_comm]
    · rename_i other
      simp [Ne.symm other]
  · rename_i invalid
    simp [isUnder, invalid]

theorem ofPairs_concat (pairs : List (String × String)) (pair : String × String) :
    ofPairs (pairs ++ [pair]) = (ofPairs pairs).add pair := by
  simp [ofPairs]

/-- **Header maps.** A field is what the last valid pair under its name gives. -/
theorem mem_ofPairs_iff : (key, value) ∈ (ofPairs pairs).fields ↔ Gives pairs key value := by
  induction pairs using List.reverseRecOn with
  | nil => simp [ofPairs, empty, gives_nil]
  | append_singleton pairs pair ih => rw [ofPairs_concat, mem_add_iff, gives_concat, ih]

theorem valuesOf_ofPairs_eq_singleton_iff {name : String} :
    (ofPairs pairs).valuesOf name = [value] ↔ Gives pairs (folded name) value := by
  rw [valuesOf, valuesUnder_eq_singleton_iff (ofPairs pairs).nodup_names, mem_ofPairs_iff]

theorem valuesOf_insert_of_ne (headers : HeaderMap) {own name : String} (value : String)
    (h : folded own ≠ folded name) :
    (headers.insert own value).valuesOf name = headers.valuesOf name :=
  valuesUnder_place_of_ne (Ne.symm h)

end HeaderMap

/-! ## Requests -/

namespace Service

open Header HeaderMap

variable {service : Service} {resource : String} {id : PredictionId} {c : Correlation}
  {request : Request}

/-- The headers that a request has of its own. -/
def ownHeaders : List String := ["authorization", "content-type", "accept", "content-length"]

theorem valuesOf_withDefault (headers : HeaderMap) {own name : String} (value : String)
    (h : folded own ≠ folded name) :
    (withDefault headers own value).valuesOf name = headers.valuesOf name := by
  unfold withDefault
  split
  · rfl
  · exact valuesOf_insert_of_ne headers value h

/-- The request is made as soon as there is an address to send it to, whatever the headers. -/
theorem isOk_request (service : Service) (resource : String) (id : PredictionId) (c : Correlation) :
    (service.request resource id c).isOk = service.address.isOk := by
  cases address : service.address with
  | error fault => simp [request, address, bind, Except.bind, Except.isOk, Except.toBool]
  | ok url => simp [request, address, bind, Except.bind, Except.isOk, Except.toBool]

theorem request_eq (made : service.request resource id c = .ok request) :
    request.body = body resource id ∧
      ∃ url, request.headers = service.headersFor url c (body resource id) := by
  cases address : service.address with
  | error fault => simp [Service.request, address, bind, Except.bind] at made
  | ok url =>
    obtain rfl : _ = request := by simpa [Service.request, address, bind, Except.bind] using made
    exact ⟨rfl, url, rfl⟩

/-- A request has the header map of its correlation, apart from the headers of its own. -/
theorem valuesUnder_headers (made : service.request resource id c = .ok request) {name : String}
    (other : folded name ∉ ownHeaders.map folded) :
    valuesUnder (folded name) request.headers = c.headerMap.valuesOf name := by
  obtain ⟨-, url, headers⟩ := request_eq made
  have apart : ∀ own ∈ ownHeaders, folded own ≠ folded name := fun own mem same =>
    other (same ▸ List.mem_map_of_mem mem)
  have key : ("authorization" : String) ≠ folded name :=
    apart "authorization" (by simp [ownHeaders])
  have credentials : valuesUnder (folded name)
      (service.apiKey.map fun key => ("authorization", bearer key)).toList = [] := by
    cases service.apiKey with
    | none => rfl
    | some secret => simp [valuesUnder, key]
  rw [headers, headersFor, valuesUnder_append, credentials, List.append_nil]
  change (withDefault _ _ _).valuesOf name = _
  rw [valuesOf_withDefault _ _ (apart _ (by simp [ownHeaders])),
    valuesOf_withDefault _ _ (apart _ (by simp [ownHeaders])),
    valuesOf_withDefault _ _ (apart _ (by simp [ownHeaders]))]
  cases basic? url with
  | none => rfl
  | some credentials => exact valuesOf_withDefault _ _ (apart _ (by simp [ownHeaders]))

end Service

/-! ## The map of a correlation -/

namespace Correlation

open Header

/-- A name in three letter cases, once with a value that is not valid, and one that is no token. -/
def Sample.repeated : Correlation :=
  ⟨"req-1", ⟨7⟩, [("X-A", "1"), ("no token", "x"), ("X-a", "2"), ("x-A", "3\n"), ("b", "4")]⟩

end Correlation

end Predictor
