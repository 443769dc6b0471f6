import Mathlib.Data.List.Induction
import Predictor.Proofs.Json.Scaling
import Predictor.Proofs.Label.Winner

/-!
Labels of lists of scores. The mapping of a list holds for every index the last score given for it
(`Scores.mem_ofList_iff`), and the label depends on no more than the entries that are numbers
(`LabelTable.decode_congr`). So neither the order of the pairs nor what is not a number matters.
Main statement: `LabelTable.decode_ofList`.
-/

namespace Predictor

/-! ## Order of values -/

namespace Binary64

variable {x y : Binary64}

/-- Strict ordering of values. -/
def lt (x y : Binary64) : Bool := !x.isNaN && !y.isNaN && decide (x.scaled < y.scaled)

theorem lt_iff : x.lt y = true ↔ x.isNaN = false ∧ y.isNaN = false ∧ x.scaled < y.scaled := by
  simp [lt, and_assoc]

theorem lt_iff_not_le (hx : x.isNaN = false) (hy : y.isNaN = false) :
    x.lt y = true ↔ ¬y.le x = true := by
  rw [lt_iff, le_iff]
  simp [hx, hy]

/-- Zeros of either sign are equal. -/
theorem le_of_zeros (hx : x.isNaN = false) (hy : y.isNaN = false) (hx0 : x.magnitude = 0)
    (hy0 : y.magnitude = 0) : x.le y = true := by
  refine le_iff.2 ⟨hx, hy, ?_⟩
  simp [scaled, hx0, hy0]

/-- No number has a magnitude above an infinity's. -/
theorem magnitude_le_of_isInfinite (hx : x.isNaN = false) (hy : y.isInfinite = true) :
    x.magnitude ≤ y.magnitude := by
  obtain ⟨hexp, hfraction⟩ : y.exponentField = 2047 ∧ y.fraction = 0 := by
    simpa [isInfinite] using hy
  have hinfinite : ∀ z : Binary64, z.exponentField = 2047 → z.fraction = 0 →
      z.magnitude = fractionBound * Nat.pow 2 (2047 - 1) := by
    intro z hz hz'
    simp only [magnitude, significand, unit, hz, hz', OfNat.ofNat_ne_zero, if_false, Nat.add_zero]
  by_cases hfin : x.isFinite = true
  · refine Nat.le_trans (magnitude_le hfin) ?_
    rw [hinfinite y hexp hfraction]
    decide +kernel
  · have hexp' : x.exponentField = 2047 := by simpa [isFinite] using hfin
    have hfraction' : x.fraction = 0 := by simpa [isNaN, hexp'] using hx
    rw [hinfinite y hexp hfraction, hinfinite x hexp' hfraction']

theorem isNaN_of_isInfinite (h : x.isInfinite = true) : x.isNaN = false := by
  simp_all [isInfinite, isNaN]

theorem le_infinite (hx : x.isNaN = false) (hy : y.isInfinite = true) (hsign : y.isNegative = false) :
    x.le y = true := by
  have hle := magnitude_le_of_isInfinite hx hy
  refine le_iff.2 ⟨hx, isNaN_of_isInfinite hy, ?_⟩
  simp only [scaled, hsign, Bool.false_eq_true, if_false]
  split <;> omega

theorem infinite_le (hx : x.isNaN = false) (hy : y.isInfinite = true) (hsign : y.isNegative = true) :
    y.le x = true := by
  have hle := magnitude_le_of_isInfinite hx hy
  refine le_iff.2 ⟨isNaN_of_isInfinite hy, hx, ?_⟩
  simp only [scaled, hsign, if_true]
  split <;> omega

end Binary64

/-! ## Mappings of lists -/

namespace Scores

/-- The last score given for an index. -/
def Kept (pairs : List (UInt32 × Binary64)) (index : UInt32) (score : Binary64) : Prop :=
  ∃ front back, pairs = front ++ (index, score) :: back ∧ ∀ e ∈ back, e.1 ≠ index

variable {pairs pairs' : List (UInt32 × Binary64)} {index : UInt32} {score : Binary64}
  {e : UInt32 × Binary64}

theorem mem_place_iff {entries : List (UInt32 × Binary64)}
    (h : entries.Pairwise fun a b => a.1 < b.1) :
    e ∈ place index score entries ↔ e = (index, score) ∨ e ∈ entries ∧ e.1 ≠ index := by
  induction entries with
  | nil => simp [place]
  | cons entry rest ih =>
    obtain ⟨hall, hrest⟩ := List.pairwise_cons.1 h
    have hbeyond : index ≤ entry.1 → ∀ e ∈ rest, e.1 ≠ index := by
      rintro hle e he rfl
      exact UInt32.not_lt.2 hle (hall e he)
    rw [place]
    split
    · rename_i hlt
      have hne : ∀ e ∈ entry :: rest, e.1 ≠ index :=
        List.forall_mem_cons.2 ⟨(UInt32.ne_of_lt hlt).symm, hbeyond (UInt32.le_of_lt hlt)⟩
      rw [List.mem_cons]
      exact or_congr_right ⟨fun he => ⟨he, hne e he⟩, fun he => he.1⟩
    · split
      · rename_i hlt
        have hne : entry.1 ≠ index := UInt32.ne_of_lt hlt
        rw [List.mem_cons, ih hrest, List.mem_cons]
        constructor
        · rintro (rfl | h | ⟨he, hother⟩)
          · exact .inr ⟨.inl rfl, hne⟩
          · exact .inl h
          · exact .inr ⟨.inr he, hother⟩
        · rintro (h | ⟨rfl | he, hother⟩)
          · exact .inr (.inl h)
          · exact .inl rfl
          · exact .inr (.inr ⟨he, hother⟩)
      · rename_i hnlt hngt
        have heq : entry.1 = index := UInt32.le_antisymm (UInt32.not_lt.1 hnlt) (UInt32.not_lt.1 hngt)
        have hne := hbeyond (heq ▸ UInt32.le_refl _)
        rw [List.mem_cons, List.mem_cons]
        constructor
        · rintro (h | he)
          · exact .inl h
          · exact .inr ⟨.inr he, hne e he⟩
        · rintro (h | ⟨rfl | he, hother⟩)
          · exact .inl h
          · exact absurd heq hother
          · exact .inr he

theorem ofList_concat (pairs : List (UInt32 × Binary64)) (p : UInt32 × Binary64) :
    ofList (pairs ++ [p]) = (ofList pairs).insert p.1 p.2 := by
  rw [ofList, List.foldl_append]
  rfl

theorem kept_concat {p : UInt32 × Binary64} : Kept (pairs ++ [p]) index score ↔
    (index, score) = p ∨ Kept pairs index score ∧ index ≠ p.1 := by
  constructor
  · rintro ⟨front, back, heq, hback⟩
    rcases List.eq_nil_or_concat back with rfl | ⟨back, q, rfl⟩
    · obtain ⟨-, hlast⟩ := List.append_inj' heq rfl
      exact .inl (List.singleton_inj.1 hlast).symm
    · rw [List.concat_eq_append, ← List.cons_append, ← List.append_assoc] at heq
      obtain ⟨rfl, hlast⟩ := List.append_inj' heq rfl
      obtain rfl := List.singleton_inj.1 hlast
      refine .inr ⟨⟨front, back, rfl, ?_⟩, ?_⟩
      · intro e he
        exact hback e (by simp [he])
      · exact (hback p (by simp)).symm
  · rintro (rfl | ⟨⟨front, back, rfl, hback⟩, hne⟩)
    · exact ⟨pairs, [], rfl, by simp⟩
    · refine ⟨front, back ++ [p], by simp, ?_⟩
      intro e he
      rcases List.mem_append.1 he with he | he
      · exact hback e he
      · rw [List.mem_singleton.1 he]
        exact hne.symm

/-- **Mappings.** The mapping of a list holds the last score given for each index, and nothing else. -/
theorem mem_ofList_iff : (index, score) ∈ (ofList pairs).entries ↔ Kept pairs index score := by
  induction pairs using List.reverseRecOn with
  | nil => simp [ofList, empty, Kept]
  | append_singleton pairs p ih =>
    rw [ofList_concat, kept_concat, insert, mem_place_iff (ofList pairs).ascending, ih]

/-- Each index's scores in their order tell what is kept. -/
theorem kept_iff_getLast? : Kept pairs index score ↔
    (pairs.filter fun e => e.1 == index).getLast? = some (index, score) := by
  induction pairs using List.reverseRecOn with
  | nil => simp [Kept]
  | append_singleton pairs p ih =>
    rw [kept_concat, ih, List.filter_append]
    by_cases hp : p.1 = index
    · subst hp
      simp [eq_comm]
    · have hne : (index, score) ≠ p := by
        rintro rfl
        exact hp rfl
      simp [hp, hne, Ne.symm hp]

/-- An index given once is kept as it is given. -/
theorem kept_iff_mem (h : (pairs.map Prod.fst).Nodup) :
    Kept pairs index score ↔ (index, score) ∈ pairs := by
  constructor
  · rintro ⟨front, back, rfl, -⟩
    simp
  · intro hmem
    obtain ⟨front, back, rfl⟩ := List.append_of_mem hmem
    refine ⟨front, back, rfl, ?_⟩
    rintro e he rfl
    have hback := (List.nodup_append.1 (by simpa using h)).2.1
    exact (List.nodup_cons.1 hback).1 (List.mem_map_of_mem he)

/-- The mapping without the entries that `keep` refuses. -/
def filter (keep : UInt32 × Binary64 → Bool) (scores : Scores) : Scores :=
  ⟨scores.entries.filter keep, scores.ascending.filter keep⟩

end Scores

/-! ## Labels -/

namespace LabelTable

variable {table : LabelTable} {scores scores' : Scores} {top : UInt32 × Binary64}

/-- The two mappings have the same numbers. -/
def SameNumbers (scores scores' : Scores) : Prop :=
  ∀ e : UInt32 × Binary64, e.2.isNaN = false → (e ∈ scores.entries ↔ e ∈ scores'.entries)

theorem SameNumbers.symm (h : SameNumbers scores scores') : SameNumbers scores' scores :=
  fun e he => (h e he).symm

theorem Wins.of_sameNumbers (h : SameNumbers scores scores') (hwins : Wins scores.entries top) :
    Wins scores'.entries top where
  mem := (h top hwins.number).1 hwins.mem
  number := hwins.number
  greatest := by
    intro e he hnumber
    exact hwins.greatest e ((h e hnumber).2 he) hnumber
  lowest := by
    intro e he hlt hle
    have hnumber := (Binary64.le_iff.1 hle).2.1
    exact hwins.lowest e ((h e hnumber).2 he) hlt hle

/-- **Labels.** The label depends on the entries that are numbers, and on nothing else. -/
theorem decode_congr (h : SameNumbers scores scores') :
    table.decode ⟨some scores⟩ = table.decode ⟨some scores'⟩ := by
  have hbest : best scores = best scores' := by
    refine Option.ext fun top => ?_
    rw [best_eq_some_iff, best_eq_some_iff]
    exact ⟨Wins.of_sameNumbers h, Wins.of_sameNumbers h.symm⟩
  simp only [decode, Option.bind_some, hbest]

theorem decode_filter {keep : UInt32 × Binary64 → Bool}
    (h : ∀ e ∈ scores.entries, keep e = false → e.2.isNaN = true) :
    table.decode ⟨some (scores.filter keep)⟩ = table.decode ⟨some scores⟩ := by
  refine decode_congr fun e hnumber => ?_
  rw [Scores.filter, List.mem_filter]
  refine ⟨fun he => he.1, fun he => ⟨he, ?_⟩⟩
  by_contra hkeep
  have hnan := h e he (by simpa using hkeep)
  rw [hnumber] at hnan
  exact absurd hnan (by decide)

section Lists

variable {pairs pairs' : List (UInt32 × Binary64)}

theorem decode_of_kept (h : ∀ index score, Scores.Kept pairs index score ↔
      Scores.Kept pairs' index score) :
    table.decode ⟨some (Scores.ofList pairs)⟩ = table.decode ⟨some (Scores.ofList pairs')⟩ := by
  refine decode_congr fun e _ => ?_
  rw [Scores.mem_ofList_iff, Scores.mem_ofList_iff]
  exact h e.1 e.2

theorem decode_perm (h : pairs.Perm pairs') (hdistinct : (pairs.map Prod.fst).Nodup) :
    table.decode ⟨some (Scores.ofList pairs)⟩ = table.decode ⟨some (Scores.ofList pairs')⟩ := by
  refine decode_of_kept fun index score => ?_
  rw [Scores.kept_iff_mem hdistinct, Scores.kept_iff_mem ((h.map Prod.fst).nodup hdistinct),
    h.mem_iff]

theorem decode_swap (front back : List (UInt32 × Binary64)) {a b : UInt32 × Binary64}
    (h : a.1 ≠ b.1) : table.decode ⟨some (Scores.ofList (front ++ a :: b :: back))⟩ =
      table.decode ⟨some (Scores.ofList (front ++ b :: a :: back))⟩ := by
  refine decode_of_kept fun index score => ?_
  have hsame : (front ++ a :: b :: back).filter (fun e => e.1 == index) =
      (front ++ b :: a :: back).filter fun e => e.1 == index := by
    by_cases ha : a.1 = index
    · have hb : b.1 ≠ index := fun hb => h (ha.trans hb.symm)
      simp [List.filter_append, ha, hb]
    · simp [List.filter_append, List.filter_cons, ha]
  rw [Scores.kept_iff_getLast?, Scores.kept_iff_getLast?, hsame]

/-- The score that wins among those kept, with its index: no other is above it, and those of lower
indices are below it. -/
structure Greatest (pairs : List (UInt32 × Binary64)) (index : UInt32) (score : Binary64) : Prop where
  kept : Scores.Kept pairs index score
  number : score.isNaN = false
  greatest : ∀ j s, Scores.Kept pairs j s → s.isNaN = false → s.le score = true
  lowest : ∀ j s, Scores.Kept pairs j s → s.isNaN = false → j < index → s.lt score = true

theorem wins_ofList_iff {index : UInt32} {score : Binary64} :
    Wins (Scores.ofList pairs).entries (index, score) ↔ Greatest pairs index score := by
  constructor
  · intro h
    have hlowest : ∀ j s, Scores.Kept pairs j s → s.isNaN = false → j < index →
        s.lt score = true := by
      intro j s hkept hnumber hlt
      rw [Binary64.lt_iff_not_le hnumber h.number]
      exact h.lowest (j, s) (Scores.mem_ofList_iff.2 hkept) hlt
    exact {
      kept := Scores.mem_ofList_iff.1 h.mem
      number := h.number
      greatest := fun j s hkept => h.greatest (j, s) (Scores.mem_ofList_iff.2 hkept)
      lowest := hlowest }
  · intro h
    have hlowest : ∀ e ∈ (Scores.ofList pairs).entries, e.1 < index → ¬score.le e.2 = true := by
      intro e he hlt hle
      have hnumber := (Binary64.le_iff.1 hle).2.1
      have hbelow := h.lowest e.1 e.2 (Scores.mem_ofList_iff.1 he) hnumber hlt
      exact (Binary64.lt_iff_not_le hnumber h.number).1 hbelow hle
    exact {
      mem := Scores.mem_ofList_iff.2 h.kept
      number := h.number
      greatest := fun e he => h.greatest e.1 e.2 (Scores.mem_ofList_iff.1 he)
      lowest := hlowest }

/-- The name of an index, in full. -/
theorem nameOf_eq (table : LabelTable) (index : UInt32) : table.nameOf index =
    if h : index.toNat < table.names.length then table.names[index.toNat]
    else "category_" ++ String.ofList (Nat.toDigits 10 index.toNat) := by
  have hdecimal : toString index = String.ofList (Nat.toDigits 10 index.toNat) :=
    Nat.toString_eq_ofList_toDigits
  rw [nameOf, hdecimal]
  split
  · rename_i h
    rw [List.getElem?_eq_getElem h, Option.getD_some]
  · rename_i h
    rw [List.getElem?_eq_none (Nat.not_lt.1 h), Option.getD_none]

theorem decode_given_eq_undefined_iff {given : Option (List (UInt32 × Binary64))} :
    table.decode ⟨given.map Scores.ofList⟩ = .undefined ↔
      ∀ pairs ∈ given, ∀ index score, Scores.Kept pairs index score → score.isNaN = true := by
  rw [decode_eq_undefined_iff]
  constructor
  · intro h pairs hpairs index score hkept
    exact h _ (Option.mem_map_of_mem _ hpairs) (index, score) (Scores.mem_ofList_iff.2 hkept)
  · intro h scores hscores e he
    obtain ⟨pairs, hpairs, rfl⟩ := Option.map_eq_some_iff.1 hscores
    exact h pairs hpairs e.1 e.2 (Scores.mem_ofList_iff.1 he)

theorem decode_given_eq_category_iff {given : Option (List (UInt32 × Binary64))} {index : UInt32}
    {name : String} {confidence : Binary64} :
    table.decode ⟨given.map Scores.ofList⟩ = .category index name confidence ↔
      name = table.nameOf index ∧ ∃ pairs ∈ given, Greatest pairs index confidence := by
  rw [decode_eq_category_iff]
  refine and_congr_right fun _ => ?_
  constructor
  · rintro ⟨scores, hscores, hwins⟩
    obtain ⟨pairs, hpairs, rfl⟩ := Option.map_eq_some_iff.1 hscores
    exact ⟨pairs, hpairs, wins_ofList_iff.1 hwins⟩
  · rintro ⟨pairs, hpairs, hgreatest⟩
    exact ⟨Scores.ofList pairs, Option.mem_map_of_mem _ hpairs, wins_ofList_iff.2 hgreatest⟩

/-- **Decoding.** The label of a mapping made of a list, or of none: undefined when no kept score is a
number, else the category of the greatest one, at the lowest of its indices. Zeros of either sign tie,
and an infinity is above or below all others. The order of pairs of different indices and entries
that are not a number make no difference. -/
theorem decode_ofList (table : LabelTable) :
    (∀ given : Option (List (UInt32 × Binary64)),
      (table.decode ⟨given.map Scores.ofList⟩ = .undefined ↔
        ∀ pairs ∈ given, ∀ index score, Scores.Kept pairs index score → score.isNaN = true) ∧
      ∀ index name confidence,
        table.decode ⟨given.map Scores.ofList⟩ = .category index name confidence ↔
          (name = if h : index.toNat < table.names.length then table.names[index.toNat]
            else "category_" ++ String.ofList (Nat.toDigits 10 index.toNat)) ∧
          ∃ pairs ∈ given, Greatest pairs index confidence) ∧
    (∀ x y : Binary64, x.isNaN = false → y.isNaN = false →
      (x.magnitude = 0 → y.magnitude = 0 → x.le y = true) ∧
      (y.isInfinite = true → if y.isNegative then y.le x = true else x.le y = true)) ∧
    (∀ pairs pairs' : List (UInt32 × Binary64), pairs.Perm pairs' → (pairs.map Prod.fst).Nodup →
      table.decode ⟨some (Scores.ofList pairs)⟩ = table.decode ⟨some (Scores.ofList pairs')⟩) ∧
    (∀ (front back : List (UInt32 × Binary64)) (a b : UInt32 × Binary64), a.1 ≠ b.1 →
      table.decode ⟨some (Scores.ofList (front ++ a :: b :: back))⟩ =
        table.decode ⟨some (Scores.ofList (front ++ b :: a :: back))⟩) ∧
    ∀ (scores : Scores) (keep : UInt32 × Binary64 → Bool),
      (∀ e ∈ scores.entries, keep e = false → e.2.isNaN = true) →
        table.decode ⟨some (scores.filter keep)⟩ = table.decode ⟨some scores⟩ := by
  refine ⟨?_, ?_, ?_, ?_, ?_⟩
  · intro given
    refine ⟨decode_given_eq_undefined_iff, ?_⟩
    intro index name confidence
    rw [← nameOf_eq]
    exact decode_given_eq_category_iff
  · intro x y hx hy
    refine ⟨Binary64.le_of_zeros hx hy, ?_⟩
    intro hinfinite
    split
    · rename_i hsign
      exact Binary64.infinite_le hx hinfinite hsign
    · rename_i hsign
      exact Binary64.le_infinite hx hinfinite (by simpa using hsign)
  · intro pairs pairs'
    exact decode_perm
  · intro front back a b
    exact decode_swap front back
  · intro scores keep
    exact decode_filter

/-- Scores with an index given twice, zeros of both signs, an infinity and two that are no number. -/
def tied : List (UInt32 × Binary64) :=
  [(5, ⟨0⟩), (1, ⟨0x7FF8000000000000⟩), (2, ⟨0x8000000000000000⟩), (1, ⟨0xFFF0000000000000⟩),
    (7, ⟨0x7FF8000000000001⟩)]

theorem decode_ofList_tied :
    (LabelTable.decode ⟨["cat", "dog"]⟩ ⟨(some tied).map Scores.ofList⟩ =
        .category 2 "category_2" ⟨0x8000000000000000⟩ ∧
      ∃ pairs ∈ some tied, Greatest pairs 2 ⟨0x8000000000000000⟩) ∧
    (Binary64.le ⟨0⟩ ⟨0x8000000000000000⟩ = true ∧ Binary64.le ⟨0xFFF0000000000000⟩ ⟨0⟩ = true) ∧
    (LabelTable.decode ⟨["cat", "dog"]⟩ ⟨some (Scores.ofList (tied.drop 2))⟩ =
      LabelTable.decode ⟨["cat", "dog"]⟩ ⟨some (Scores.ofList (tied.drop 2).reverse)⟩) ∧
    (LabelTable.decode ⟨["cat", "dog"]⟩ ⟨some (Scores.ofList tied)⟩ =
      LabelTable.decode ⟨["cat", "dog"]⟩
        ⟨some (Scores.ofList (tied.take 1 ++ (2, ⟨0x8000000000000000⟩) ::
          (1, ⟨0x7FF8000000000000⟩) :: tied.drop 3))⟩) ∧
    LabelTable.decode ⟨["cat", "dog"]⟩ ⟨some ((Scores.ofList tied).filter fun e => e.1 != 7)⟩ =
      LabelTable.decode ⟨["cat", "dog"]⟩ ⟨some (Scores.ofList tied)⟩ := by
  obtain ⟨hlabel, horder, hperm, hswap, hfilter⟩ := decode_ofList ⟨["cat", "dog"]⟩
  have htied : LabelTable.decode ⟨["cat", "dog"]⟩ ⟨(some tied).map Scores.ofList⟩ =
      .category 2 "category_2" ⟨0x8000000000000000⟩ := by decide +kernel
  refine ⟨⟨htied, (((hlabel (some tied)).2 _ _ _).1 htied).2⟩, ⟨?_, ?_⟩, ?_, ?_, ?_⟩
  · exact (horder ⟨0⟩ ⟨0x8000000000000000⟩ (by decide) (by decide)).1 (by decide) (by decide)
  · exact (horder ⟨0⟩ ⟨0xFFF0000000000000⟩ (by decide) (by decide)).2 (by decide)
  · exact hperm _ _ (List.reverse_perm _).symm (by decide)
  · exact hswap (tied.take 1) (tied.drop 3) (1, ⟨0x7FF8000000000000⟩) (2, ⟨0x8000000000000000⟩)
      (by decide)
  · exact hfilter (Scores.ofList tied) (fun e => e.1 != 7) (by decide)

end Lists

end LabelTable

end Predictor
