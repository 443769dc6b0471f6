import Predictor.Label.Table

/-!
The winner among the scores of a raw result. `best` finds the entry that wins: a number that no other
is above, at the lowest index among those equal to it (`best_eq_some_iff`). There is none where no
score is a number (`best_eq_none_iff`).
-/

namespace Predictor

/-! ## Order of values -/

namespace Binary64

variable {x y z : Binary64}

theorem le_iff : x.le y = true ↔ x.isNaN = false ∧ y.isNaN = false ∧ x.scaled ≤ y.scaled := by
  simp [le, and_assoc]

theorem le_trans (hxy : x.le y = true) (hyz : y.le z = true) : x.le z = true := by
  obtain ⟨hx, -, hxy⟩ := le_iff.1 hxy
  obtain ⟨-, hz, hyz⟩ := le_iff.1 hyz
  exact le_iff.2 ⟨hx, hz, Int.le_trans hxy hyz⟩

theorem le_refl (hx : x.isNaN = false) : x.le x = true :=
  le_iff.2 ⟨hx, hx, Int.le_refl _⟩

theorem le_of_not_le (hx : x.isNaN = false) (hy : y.isNaN = false) (h : ¬x.le y = true) :
    y.le x = true := by
  refine le_iff.2 ⟨hy, hx, Int.le_of_lt (Int.not_le.1 fun hle => h ?_)⟩
  exact le_iff.2 ⟨hx, hy, hle⟩

end Binary64

namespace Scores

/-- Each index has one entry. -/
theorem eq_of_index_eq {scores : Scores} {a b : UInt32 × Binary64} (ha : a ∈ scores.entries)
    (hb : b ∈ scores.entries) (h : a.1 = b.1) : a = b := by
  obtain ⟨entries, ascending⟩ := scores
  induction ascending with
  | nil => exact absurd ha List.not_mem_nil
  | cons hall _ ih =>
    rcases List.mem_cons.1 ha with rfl | ha' <;> rcases List.mem_cons.1 hb with rfl | hb'
    · rfl
    · exact absurd (h ▸ hall b hb') (UInt32.lt_irrefl _)
    · exact absurd (h ▸ hall a ha') (UInt32.lt_irrefl _)
    · exact ih ha' hb'

end Scores

namespace LabelTable

/-- An entry that wins: no number is above it, and at lower indices every number is below it. -/
structure Wins (entries : List (UInt32 × Binary64)) (top : UInt32 × Binary64) : Prop where
  mem : top ∈ entries
  number : top.2.isNaN = false
  greatest : ∀ e ∈ entries, e.2.isNaN = false → e.2.le top.2 = true
  lowest : ∀ e ∈ entries, e.1 < top.1 → ¬top.2.le e.2 = true

/-- What is known of the entries seen so far. -/
def Leads (seen : List (UInt32 × Binary64)) : Option (UInt32 × Binary64) → Prop
  | none => ∀ e ∈ seen, e.2.isNaN = true
  | some top => Wins seen top

variable {seen : List (UInt32 × Binary64)} {e top : UInt32 × Binary64}

/-- A score that is not a number changes nothing. -/
theorem Leads.skip {found : Option (UInt32 × Binary64)} (h : Leads seen found)
    (he : e.2.isNaN = true) : Leads (seen ++ [e]) found := by
  have hnan : ∀ e' ∈ seen ++ [e], e'.2.isNaN = false → e' ∈ seen := by
    intro e' he' hnumber
    rcases List.mem_append.1 he' with he' | he'
    · exact he'
    · rw [List.mem_singleton.1 he', he] at hnumber
      exact absurd hnumber (by decide)
  cases found with
  | none =>
    intro e' he'
    cases hnumber : e'.2.isNaN with
    | true => rfl
    | false => exact hnumber ▸ h e' (hnan e' he' hnumber)
  | some top =>
    refine ⟨List.mem_append_left _ h.mem, h.number, fun e' he' hnumber => ?_,
      fun e' he' hlt hle => ?_⟩
    · exact h.greatest e' (hnan e' he' hnumber) hnumber
    · exact h.lowest e' (hnan e' he' (Binary64.le_iff.1 hle).2.1) hlt hle

/-- The first number leads. -/
theorem Leads.first (h : Leads seen none) (he : e.2.isNaN = false) : Wins (seen ++ [e]) e := by
  have hseen : ∀ e' ∈ seen ++ [e], e'.2.isNaN = false → e' = e := by
    intro e' he' hnumber
    rcases List.mem_append.1 he' with he' | he'
    · rw [h e' he'] at hnumber
      exact absurd hnumber (by decide)
    · exact List.mem_singleton.1 he'
  refine ⟨by simp, he, fun e' he' hnumber => ?_, fun e' he' hlt hle => ?_⟩
  · rw [hseen e' he' hnumber]
    exact Binary64.le_refl he
  · rw [hseen e' he' (Binary64.le_iff.1 hle).2.1] at hlt
    exact UInt32.lt_irrefl _ hlt

/-- A number that is not above the leader, at a higher index. -/
theorem Wins.keep (h : Wins seen top) (hlt : top.1 < e.1) (hle : e.2.le top.2 = true) :
    Wins (seen ++ [e]) top := by
  refine ⟨List.mem_append_left _ h.mem, h.number, fun e' he' hnumber => ?_, fun e' he' hlt' => ?_⟩
  · rcases List.mem_append.1 he' with he' | he'
    · exact h.greatest e' he' hnumber
    · rwa [List.mem_singleton.1 he']
  · rcases List.mem_append.1 he' with he' | he'
    · exact h.lowest e' he' hlt'
    · rw [List.mem_singleton.1 he'] at hlt'
      exact absurd hlt' (UInt32.lt_asymm hlt)

/-- A number above the leader leads. -/
theorem Wins.overtake (h : Wins seen top) (he : e.2.isNaN = false) (hnle : ¬e.2.le top.2 = true) :
    Wins (seen ++ [e]) e := by
  have habove := Binary64.le_of_not_le he h.number hnle
  refine ⟨by simp, he, fun e' he' hnumber => ?_, fun e' he' hlt hle => ?_⟩
  · rcases List.mem_append.1 he' with he' | he'
    · exact Binary64.le_trans (h.greatest e' he' hnumber) habove
    · rw [List.mem_singleton.1 he']
      exact Binary64.le_refl he
  · rcases List.mem_append.1 he' with he' | he'
    · refine hnle (Binary64.le_trans hle (h.greatest e' he' ?_))
      exact (Binary64.le_iff.1 hle).2.1
    · rw [List.mem_singleton.1 he'] at hlt
      exact UInt32.lt_irrefl _ hlt

/-- One more entry, at an index above those seen. -/
theorem Leads.better {found : Option (UInt32 × Binary64)} (h : Leads seen found)
    (hlast : ∀ e' ∈ seen, e'.1 < e.1) : Leads (seen ++ [e]) (better found e) := by
  unfold LabelTable.better
  split
  · rename_i hnan
    exact h.skip hnan
  · rename_i hnumber
    have he : e.2.isNaN = false := by simpa using hnumber
    cases found with
    | none => exact h.first he
    | some top =>
      by_cases hle : e.2.le top.2 = true
      · simp only [hle, if_true]
        exact Wins.keep h (hlast top (Wins.mem h)) hle
      · simp only [hle]
        exact Wins.overtake h he hle

theorem leads_foldl {rest : List (UInt32 × Binary64)} {found : Option (UInt32 × Binary64)}
    (h : Leads seen found) (hasc : (seen ++ rest).Pairwise fun a b => a.1 < b.1) :
    Leads (seen ++ rest) (rest.foldl better found) := by
  induction rest generalizing seen found with
  | nil => simpa using h
  | cons e rest ih =>
    have hlast : ∀ e' ∈ seen, e'.1 < e.1 := fun e' he' =>
      (List.pairwise_append.1 hasc).2.2 e' he' e List.mem_cons_self
    have hstep := ih (h.better hlast) (by simpa using hasc)
    simpa using hstep

theorem leads_best (scores : Scores) : Leads scores.entries (best scores) := by
  have hnone : Leads [] none := fun _ he => absurd he List.not_mem_nil
  have hall : Leads ([] ++ scores.entries) (scores.entries.foldl better none) :=
    leads_foldl hnone scores.ascending
  exact hall

/-- One entry wins. -/
theorem Wins.unique {scores : Scores} {a b : UInt32 × Binary64} (ha : Wins scores.entries a)
    (hb : Wins scores.entries b) : a = b := by
  refine Scores.eq_of_index_eq ha.mem hb.mem (UInt32.le_antisymm ?_ ?_)
  · exact UInt32.not_lt.1 fun hlt => ha.lowest b hb.mem hlt (hb.greatest a ha.mem ha.number)
  · exact UInt32.not_lt.1 fun hlt => hb.lowest a ha.mem hlt (ha.greatest b hb.mem hb.number)

/-- **The winner.** It is the entry that wins. -/
theorem best_eq_some_iff {scores : Scores} : best scores = some top ↔ Wins scores.entries top := by
  have hleads := leads_best scores
  cases hbest : best scores with
  | none =>
    rw [hbest] at hleads
    refine ⟨fun h => absurd h (by simp), fun h => ?_⟩
    have hnan := hleads top h.mem
    rw [h.number] at hnan
    exact absurd hnan (by decide)
  | some found =>
    rw [hbest] at hleads
    refine ⟨fun h => Option.some.inj h ▸ hleads, fun h => ?_⟩
    rw [Wins.unique hleads h]

/-- No score is a number where nothing wins. -/
theorem best_eq_none_iff {scores : Scores} :
    best scores = none ↔ ∀ e ∈ scores.entries, e.2.isNaN = true := by
  have hleads := leads_best scores
  cases hbest : best scores with
  | none =>
    rw [hbest] at hleads
    exact ⟨fun _ => hleads, fun _ => rfl⟩
  | some found =>
    rw [hbest] at hleads
    refine ⟨fun h => absurd h (by simp), fun h => ?_⟩
    have hnan := h found (Wins.mem hleads)
    rw [Wins.number hleads] at hnan
    exact absurd hnan (by decide)

/-! ## Labels -/

variable {table : LabelTable} {raw : RawResult} {index : UInt32} {name : String}
  {confidence : Binary64}

/-- A category is the winner's. -/
theorem decode_eq_category_iff : table.decode raw = .category index name confidence ↔
    name = table.nameOf index ∧
      ∃ scores ∈ raw.scores, Wins scores.entries (index, confidence) := by
  have hbest : (∃ scores ∈ raw.scores, Wins scores.entries (index, confidence)) ↔
      raw.scores.bind best = some (index, confidence) := by
    simp only [Option.bind_eq_some_iff, best_eq_some_iff, Option.mem_def]
  rw [hbest, decode]
  cases raw.scores.bind best with
  | none => simp
  | some top =>
    obtain ⟨i, c⟩ := top
    simp only [Label.category.injEq, Option.some.injEq, Prod.mk.injEq]
    constructor
    · rintro ⟨rfl, rfl, rfl⟩
      exact ⟨rfl, rfl, rfl⟩
    · rintro ⟨rfl, rfl, rfl⟩
      exact ⟨rfl, rfl, rfl⟩

/-- Without a number among the scores there is no category. -/
theorem decode_eq_undefined_iff : table.decode raw = .undefined ↔
    ∀ scores ∈ raw.scores, ∀ e ∈ scores.entries, e.2.isNaN = true := by
  have hbest : (∀ scores ∈ raw.scores, ∀ e ∈ scores.entries, e.2.isNaN = true) ↔
      raw.scores.bind best = none := by
    simp only [Option.bind_eq_none_iff, best_eq_none_iff, Option.mem_def]
  rw [hbest, decode]
  cases raw.scores.bind best with
  | none => simp
  | some top => simp

end LabelTable

end Predictor
