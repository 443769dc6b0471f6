import Mathlib.Algebra.BigOperators.Group.List.Basic
import Mathlib.Algebra.Ring.Int.Defs
import Mathlib.Data.List.Nodup
import Predictor.Telemetry.Metrics

/-!
The values of instruments. A counter has counted its measurements (`total_eq_count`) and the number in
flight is the difference of the steps up and down (`total_inFlight`); neither depends on the order in
which things were measured (`readings_perm`).
-/

namespace Predictor.Telemetry

variable {measured measured' : List Measurement}

/-! ## Order -/

theorem total_eq_sum (measured : List Measurement) (name : String) :
    total measured name =
      ((measured.filter fun m => m.instrument == name).map Measurement.amount).sum := by
  have sum (ms : List Measurement) (n : Int) :
      ms.foldl (fun n m => n + m.amount) n = n + (ms.map Measurement.amount).sum := by
    induction ms generalizing n with
    | nil => simp
    | cons m rest ih =>
      rw [List.foldl_cons, ih, List.map_cons, List.sum_cons]
      omega
  rw [total, sum, Int.zero_add]

theorem total_perm (h : measured.Perm measured') (name : String) :
    total measured name = total measured' name := by
  rw [total_eq_sum, total_eq_sum]
  exact ((h.filter _).map Measurement.amount).sum_eq

theorem nodup_eraseDups (names : List String) : names.eraseDups.Nodup := by
  induction hn : names.length using Nat.strongRecOn generalizing names with
  | ind n ih =>
    cases names with
    | nil => simp
    | cons name rest =>
      have shorter : (rest.filter fun other => !other == name).length < n := by
        have := List.length_filter_le (fun other => !other == name) rest
        rw [List.length_cons] at hn
        omega
      rw [List.eraseDups_cons, List.nodup_cons]
      refine ⟨fun mem => ?_, ih _ shorter _ rfl⟩
      have apart := (List.mem_filter.1 (List.mem_eraseDups.1 mem)).2
      simp at apart

/-- What the instruments show does not depend on the order of the measurements. -/
theorem readings_perm (h : measured.Perm measured') :
    (readings measured).Perm (readings measured') := by
  have names : (measured.map Measurement.instrument).eraseDups.Perm
      (measured'.map Measurement.instrument).eraseDups := by
    refine (List.perm_ext_iff_of_nodup (nodup_eraseDups _) (nodup_eraseDups _)).2 fun name => ?_
    rw [List.mem_eraseDups, List.mem_eraseDups]
    exact (h.map Measurement.instrument).mem_iff
  have same : (fun name => (name, total measured name)) =
      fun name => (name, total measured' name) :=
    funext fun name => by rw [total_perm h name]
  rw [readings, readings, same]
  exact names.map _

/-! ## Instruments -/

theorem SubmissionResult.text_inj {r r' : SubmissionResult} (h : r.text = r'.text) : r = r' := by
  cases r <;> cases r' <;> first | rfl | exact absurd h (by decide)

namespace Measurement

/-- The first letters of an instrument, enough to tell the kinds of measurements apart. -/
def family : Measurement → String
  | .submitted _ => "predict.submitted"
  | .finalized _ => "predict.finalized"
  | .finalizeFailure => "predict.finalize_"
  | .inFlight _ => "predict.in_flight"
  | .classified _ => "predict.classify."

theorem take_labelled {front family : String} (label : String)
    (h : front.toList.take 17 = family.toList ∧ 17 ≤ front.toList.length) :
    (front ++ label ++ "\x7d").toList.take 17 = family.toList := by
  rw [String.toList_append, String.toList_append, List.append_assoc,
    List.take_append_of_le_length h.2, h.1]

theorem take_instrument (m : Measurement) :
    m.instrument.toList.take 17 = m.family.toList := by
  cases m with
  | submitted result =>
    exact @take_labelled _ "predict.submitted" result.text (by decide)
  | finalized status =>
    exact @take_labelled _ "predict.finalized" status.text (by decide)
  | classified fault =>
    exact @take_labelled _ "predict.classify." (fault.getD "ok") (by decide)
  | finalizeFailure => decide
  | inFlight up => cases up <;> decide

theorem label_inj {front label label' : String}
    (h : front ++ label ++ "\x7d" = front ++ label' ++ "\x7d") : label = label' :=
  (String.append_right_inj front).1 ((String.append_left_inj "\x7d").1 h)

/-- Two measurements that differ belong to different instruments, unless both are of the number in
flight, or of calls whose results go by the same name. -/
theorem instrument_inj {m m' : Measurement} (h : m.instrument = m'.instrument) :
    m = m' ∨ (∃ up up', m = .inFlight up ∧ m' = .inFlight up') ∨
      ∃ fault fault', m = .classified fault ∧ m' = .classified fault' ∧
        fault.getD "ok" = fault'.getD "ok" := by
  have family : m.family = m'.family := by
    rw [← String.toList_inj, ← take_instrument, ← take_instrument, h]
  cases m <;> cases m' <;> simp only [Measurement.family, String.reduceEq] at family
  case submitted.submitted =>
    exact .inl (congrArg _ (SubmissionResult.text_inj (label_inj h)))
  case finalized.finalized status status' =>
    have same : status.text = status'.text := label_inj h
    refine .inl (congrArg _ ?_)
    cases status <;> cases status' <;> first | rfl | exact absurd same (by decide)
  case finalizeFailure.finalizeFailure => exact .inl rfl
  case inFlight.inFlight => exact .inr (.inl ⟨_, _, rfl, rfl⟩)
  case classified.classified => exact .inr (.inr ⟨_, _, rfl, rfl, label_inj h⟩)

end Measurement

/-! ## Counts -/

/-- A counter that one measurement alone belongs to has counted it. -/
theorem total_eq_count {m : Measurement} (counts : m.amount = 1)
    (own : ∀ other ∈ measured, other.instrument = m.instrument → other = m) :
    total measured m.instrument = measured.count m := by
  have selected : (measured.filter fun other => other.instrument == m.instrument) =
      measured.filter fun other => other == m := by
    refine List.filter_congr fun other mem => ?_
    rw [Bool.eq_iff_iff, beq_iff_eq, beq_iff_eq]
    exact ⟨own other mem, fun same => same ▸ rfl⟩
  rw [total_eq_sum, selected, List.filter_beq, List.map_replicate, counts, List.sum_replicate]
  simp

/-- Whether a measurement belongs to a counter. -/
def Measurement.isCounted : Measurement → Bool
  | .submitted _ | .finalized _ | .finalizeFailure => true
  | .inFlight _ | .classified _ => false

/-- Each counter has counted its own measurements. -/
theorem total_counter {m : Measurement} (counted : m.isCounted = true)
    (measured : List Measurement) : total measured m.instrument = measured.count m := by
  have counts : m.amount = 1 := by
    cases m <;> first | rfl | cases counted
  refine total_eq_count counts fun _ _ same => ?_
  rcases Measurement.instrument_inj same with eq | ⟨_, _, -, rfl⟩ | ⟨_, _, -, rfl, -⟩
  · exact eq
  · cases counted
  · cases counted

/-- No failed call goes by the name of one that succeeded. -/
theorem total_classified {fault : Option String} (named : fault ≠ some "ok")
    (proper : .classified (some "ok") ∉ measured) :
    total measured (Measurement.classified fault).instrument =
      measured.count (.classified fault) := by
  refine total_eq_count rfl fun other mem same => ?_
  rcases Measurement.instrument_inj same with eq | ⟨_, _, -, eq⟩ | ⟨fault', _, rfl, eq, label⟩
  · exact eq
  · cases eq
  · obtain rfl := Measurement.classified.inj eq
    cases fault <;> cases fault' <;> simp_all

/-- The number in flight is the difference of the steps up and down. -/
theorem total_inFlight (measured : List Measurement) (up : Bool) :
    total measured (Measurement.inFlight up).instrument =
      measured.count (.inFlight true) - measured.count (.inFlight false) := by
  have selected (m : Measurement) : m.instrument = (Measurement.inFlight up).instrument ↔
      ∃ up', m = .inFlight up' := by
    constructor
    · intro same
      rcases Measurement.instrument_inj same with eq | ⟨up', _, eq, -⟩ | ⟨_, _, -, eq, -⟩
      · exact ⟨up, eq⟩
      · exact ⟨up', eq⟩
      · cases eq
    · rintro ⟨up', rfl⟩
      rfl
  rw [total_eq_sum]
  induction measured with
  | nil => rfl
  | cons m rest ih =>
    rw [List.filter_cons, List.count_cons, List.count_cons]
    split
    · rename_i own
      obtain ⟨up', rfl⟩ := (selected m).1 (eq_of_beq own)
      rw [List.map_cons, List.sum_cons, ih]
      cases up' <;> simp [Measurement.amount] <;> omega
    · rename_i other
      rw [beq_iff_eq, selected, not_exists] at other
      rw [ih, if_neg (by simpa using other true), if_neg (by simpa using other false)]
      rfl

end Predictor.Telemetry
