import Mathlib.Data.List.DropRight
import Predictor.Text.Blank

/-!
Trimmed texts. What is left of a text is determined by three facts (`Trims`): only blanks have gone,
only from the two ends, and no blank is left there (`trims_iff`).
-/

namespace Predictor.Text

/-- What is left when the blanks of both ends are taken away: nothing but blanks has gone, and there
are none at the ends. -/
structure Trims (s t : List Char) : Prop where
  split : ∃ front back, s = front ++ (t ++ back) ∧ (∀ c ∈ front, isBlank c = true) ∧
    ∀ c ∈ back, isBlank c = true
  first : ∀ c ∈ t.head?, isBlank c = false
  last : ∀ c ∈ t.getLast?, isBlank c = false

theorem dropWhile_blanks {front rest : List Char} (blank : ∀ c ∈ front, isBlank c = true)
    (first : ∀ c ∈ rest.head?, isBlank c = false) : (front ++ rest).dropWhile isBlank = rest := by
  rw [List.dropWhile_append_of_pos blank]
  cases rest with
  | nil => rfl
  | cons c rest => exact List.dropWhile_cons_of_neg (by simpa using first c rfl)

theorem Trims.eq {s t : List Char} (h : Trims s t) : trimChars s = t := by
  obtain ⟨front, back, rfl, hfront, hback⟩ := h.split
  cases t with
  | nil =>
    have blank : ∀ c ∈ front ++ back, isBlank c = true := List.forall_mem_append.2 ⟨hfront, hback⟩
    have gone : (front ++ back).dropWhile isBlank = [] := by
      simpa using List.dropWhile_eq_nil_iff.2 blank
    rw [trimChars, List.nil_append, gone]
    rfl
  | cons c rest =>
    have front_gone : (front ++ (c :: rest ++ back)).dropWhile isBlank = c :: rest ++ back :=
      dropWhile_blanks hfront h.first
    have back_gone : (c :: rest ++ back).reverse.dropWhile isBlank = (c :: rest).reverse := by
      rw [List.reverse_append]
      refine dropWhile_blanks (fun c mem => hback c (List.mem_reverse.1 mem)) ?_
      rw [List.head?_reverse]
      exact h.last
    rw [trimChars, front_gone, back_gone, List.reverse_reverse]

theorem trims_trimChars (s : List Char) : Trims s (trimChars s) := by
  have cut : trimChars s = (s.dropWhile isBlank).rdropWhile isBlank := rfl
  refine ⟨⟨s.takeWhile isBlank, (s.dropWhile isBlank).rtakeWhile isBlank, ?_,
    fun c => List.mem_takeWhile_imp, fun c => List.mem_rtakeWhile_imp⟩, fun c hc => ?_,
    fun c hc => ?_⟩
  · rw [cut, List.rdropWhile_append_rtakeWhile, List.takeWhile_append_dropWhile]
  · obtain ⟨back, split⟩ := List.rdropWhile_prefix isBlank (s.dropWhile isBlank)
    have first : c ∈ (s.dropWhile isBlank).head? := by
      rw [← split, List.head?_append, ← cut, Option.mem_def.1 hc]
      rfl
    simpa [Option.mem_def.1 first] using List.head?_dropWhile_not isBlank s
  · have occupied : (s.dropWhile isBlank).rdropWhile isBlank ≠ [] := by
      rintro empty
      rw [cut, empty] at hc
      cases hc
    have last := List.rdropWhile_last_not isBlank (s.dropWhile isBlank) occupied
    rw [cut, List.getLast?_eq_getLast_of_ne_nil occupied] at hc
    simpa [Option.some.inj hc] using last

theorem trims_iff {s t : List Char} : Trims s t ↔ trimChars s = t :=
  ⟨Trims.eq, fun h => h ▸ trims_trimChars s⟩

/-- Nothing is left of blanks alone. -/
theorem trims_nil_iff {s : List Char} : Trims s [] ↔ ∀ c ∈ s, isBlank c = true := by
  constructor
  · rintro ⟨⟨front, back, rfl, hfront, hback⟩, -, -⟩
    exact List.forall_mem_append.2 ⟨hfront, hback⟩
  · exact fun blank => ⟨⟨s, [], by simp, blank, by simp⟩, by simp, by simp⟩

end Predictor.Text
