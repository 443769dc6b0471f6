import Predictor.Proofs.Binary64.Rounding

/-!
The shortest decimal of a finite number other than zero lies in the rounding interval of that number
(`shortest_spec`). A grid neighbour is only taken when it lies there, and dropping zeros keeps the
value; what has to be shown is that the search ends: on the grid of seventeen digits the step is less
than the interval is wide, so one of the two neighbours of the value is inside
(`gridNeighbour?_isSome`).
-/

namespace Predictor.Binary64

variable {x : Binary64} {i : RoundingInterval} {d : Decimal} {k e : Int}

/-! ## Sizes -/

/-- The magnitude of the largest finite number. -/
def largestMagnitude : Nat := (2 * fractionBound - 1) * 2 ^ 2045

/-- Where powers of ten stand among the numbers: the 400th exceeds the units of one, the 309th is
above every number and the 308th is not. -/
theorem sizes : 4 * unitsOfOne ≤ 10 ^ 400 ∧
    8 * fractionBound * 2 ^ 2045 < 4 * unitsOfOne * 10 ^ 309 ∧
    10 ^ 308 * unitsOfOne ≤ largestMagnitude := by
  decide +kernel

/-! ## Grids -/

theorem gridUnit_pos (k : Int) : 0 < (gridUnit k).1 ∧ 0 < (gridUnit k).2 := by
  have hunits : 0 < 4 * unitsOfOne := Nat.mul_pos (by decide) unitsOfOne_pos
  unfold gridUnit
  split
  · exact ⟨Nat.mul_pos hunits (Nat.pow_pos (by decide)), Nat.one_pos⟩
  · exact ⟨hunits, Nat.pow_pos (by decide)⟩

theorem gridUnit_natCast (e : Nat) : gridUnit e = (4 * unitsOfOne * 10 ^ e, 1) := by
  rw [gridUnit, if_pos (Int.natCast_nonneg e), Int.toNat_natCast, Nat.pow_eq]

/-- The unit of a grid as a multiple of a smaller power of ten. -/
theorem gridUnit_mul_pow (k : Int) (j : Nat) (h : 0 ≤ k + j) :
    (gridUnit k).1 * 10 ^ j = 4 * unitsOfOne * 10 ^ (k + j).toNat * (gridUnit k).2 := by
  unfold gridUnit
  simp only [Nat.pow_eq]
  split
  · rw [show (k + j).toNat = k.toNat + j by omega, pow_add]
    ring
  · rw [show j = (k + j).toNat + (-k).toNat by omega, pow_add]
    rw [show k + ↑((k + ↑j).toNat + (-k).toNat) = k + j by omega]
    ring

theorem gridUnit_succ (k : Int) :
    (gridUnit (k + 1)).1 * (gridUnit k).2 = 10 * (gridUnit k).1 * (gridUnit (k + 1)).2 := by
  have hj := gridUnit_mul_pow k k.natAbs (by omega)
  have hj' := gridUnit_mul_pow (k + 1) k.natAbs (by omega)
  rw [show (k + 1 + k.natAbs).toNat = (k + k.natAbs).toNat + 1 by omega, pow_succ] at hj'
  refine Nat.eq_of_mul_eq_mul_right (show 0 < 10 ^ k.natAbs by positivity) ?_
  calc (gridUnit (k + 1)).1 * (gridUnit k).2 * 10 ^ k.natAbs
      = (gridUnit (k + 1)).1 * 10 ^ k.natAbs * (gridUnit k).2 := by ring
    _ = 10 * (4 * unitsOfOne * 10 ^ (k + k.natAbs).toNat * (gridUnit k).2) *
          (gridUnit (k + 1)).2 := by rw [hj']; ring
    _ = 10 * (gridUnit k).1 * (gridUnit (k + 1)).2 * 10 ^ k.natAbs := by rw [← hj]; ring

/-! ## Decimals in an interval -/

/-- A decimal lies in the interval. -/
def RoundingInterval.Contains (i : RoundingInterval) (d : Decimal) : Prop :=
  i.holds (d.digits * (gridUnit d.exponent).1) (gridUnit d.exponent).2 = true

/-- Only the value of a fraction counts. -/
theorem RoundingInterval.holds_congr {num den num' den' : Nat} (hden : 0 < den) (hden' : 0 < den')
    (h : num * den' = num' * den) (hi : i.holds num den = true) : i.holds num' den' = true := by
  obtain ⟨hlow, hhigh, hclosed⟩ := (holds_iff _ _ _).1 hi
  have hscale : ∀ a, a * den' * den = a * den * den' := fun a => Nat.mul_right_comm a den' den
  refine (holds_iff _ _ _).2 ⟨?_, ?_, fun hends => hclosed (hends.imp ?_ ?_)⟩
  · refine Nat.le_of_mul_le_mul_right ?_ hden
    rw [hscale, ← h]
    exact Nat.mul_le_mul_right den' hlow
  · refine Nat.le_of_mul_le_mul_right ?_ hden
    rw [hscale, ← h]
    exact Nat.mul_le_mul_right den' hhigh
  · intro heq
    refine Nat.eq_of_mul_eq_mul_right hden' ?_
    rw [h, ← hscale, heq]
  · intro heq
    refine Nat.eq_of_mul_eq_mul_right hden' ?_
    rw [h, ← hscale, heq]

theorem RoundingInterval.Contains.dropZeros (h : i.Contains d) (n : Nat) :
    i.Contains (d.dropZeros n) := by
  induction n generalizing d with
  | zero => exact h
  | succ n ih =>
    simp only [Decimal.dropZeros]
    split
    · rename_i hten
      refine ih (i.holds_congr (gridUnit_pos _).2 (gridUnit_pos _).2 ?_ h)
      have hdigits : d.digits = d.digits / 10 * 10 := by omega
      calc d.digits * (gridUnit d.exponent).1 * (gridUnit (d.exponent + 1)).2
          = d.digits / 10 * 10 * (gridUnit d.exponent).1 * (gridUnit (d.exponent + 1)).2 := by
            rw [← hdigits]
        _ = d.digits / 10 * (10 * (gridUnit d.exponent).1 * (gridUnit (d.exponent + 1)).2) := by
            ring
        _ = d.digits / 10 * (gridUnit (d.exponent + 1)).1 * (gridUnit d.exponent).2 := by
            rw [← gridUnit_succ]
            ring
    · exact h

theorem Decimal.dropZeros_digits_le (d : Decimal) (n : Nat) :
    (d.dropZeros n).digits ≤ d.digits := by
  induction n generalizing d with
  | zero => exact Nat.le_refl _
  | succ n ih =>
    simp only [dropZeros]
    split
    · exact Nat.le_trans (ih _) (Nat.div_le_self _ _)
    · exact Nat.le_refl _

theorem Decimal.le_dropZeros_exponent (d : Decimal) (n : Nat) :
    d.exponent ≤ (d.dropZeros n).exponent := by
  induction n generalizing d with
  | zero => exact Int.le_refl _
  | succ n ih =>
    simp only [dropZeros]
    split
    · exact Int.le_trans (Int.le_add_of_nonneg_right (by decide)) (ih _)
    · exact Int.le_refl _

/-! ## The first digit -/

/-- The exponent of the first digit: ten to it is not above the value, ten times as much is. -/
theorem leadingExponent_spec {quarters : Nat} (hpos : 0 < quarters) :
    ∃ n : Nat, leadingExponent quarters = (n : Int) - 400 ∧
      4 * unitsOfOne * 10 ^ n ≤ quarters * 10 ^ 400 ∧
      quarters * 10 ^ 400 < 4 * unitsOfOne * 10 ^ (n + 1) := by
  have hunits : 0 < 4 * unitsOfOne := Nat.mul_pos (by decide) unitsOfOne_pos
  have hlarge : 4 * unitsOfOne ≤ quarters * 10 ^ 400 := by
    exact Nat.le_trans sizes.1 (Nat.le_mul_of_pos_left _ hpos)
  have hlen := Nat.length_toDigits_pos (b := 10) (n := quarters * 10 ^ 400 / (4 * unitsOfOne))
  have hcount : ∀ n, 0 < n → ((Nat.toDigits 10 (quarters * 10 ^ 400 / (4 * unitsOfOne))).length ≤ n ↔
      quarters * 10 ^ 400 / (4 * unitsOfOne) < 10 ^ n) :=
    fun n hn => Nat.length_toDigits_le_iff (by decide) hn
  have hexp : leadingExponent quarters =
      ((Nat.toDigits 10 (quarters * 10 ^ 400 / (4 * unitsOfOne))).length : Int) - 401 := by
    rw [leadingExponent, Nat.pow_eq]
  generalize (Nat.toDigits 10 (quarters * 10 ^ 400 / (4 * unitsOfOne))).length = len at *
  obtain ⟨n, rfl⟩ : ∃ n, len = n + 1 := Nat.exists_eq_add_one.2 hlen
  refine ⟨n, ?_, ?_, ?_⟩
  · rw [hexp]
    push_cast
    ring
  · rcases Nat.eq_zero_or_pos n with rfl | hn
    · simpa using hlarge
    · have hge : 10 ^ n ≤ quarters * 10 ^ 400 / (4 * unitsOfOne) :=
        Nat.not_lt.1 fun hlt => Nat.not_succ_le_self n ((hcount n hn).2 hlt)
      rw [Nat.mul_comm]
      exact (Nat.le_div_iff_mul_le hunits).1 hge
  · rw [Nat.mul_comm (4 * unitsOfOne)]
    exact (Nat.div_lt_iff_lt_mul hunits).1 ((hcount (n + 1) hlen).1 (Nat.le_refl _))

theorem le_leadingExponent {quarters : Nat} (hpos : 0 < quarters) :
    -400 ≤ leadingExponent quarters := by
  obtain ⟨n, hexp, -, -⟩ := leadingExponent_spec hpos
  omega

/-- On the grid of `c` digits the value has `c` digits. -/
theorem digits_on_grid {quarters : Nat} (hpos : 0 < quarters) (c : Nat) :
    (gridUnit (leadingExponent quarters - c + 1)).1 * 10 ^ c ≤
        10 * (quarters * (gridUnit (leadingExponent quarters - c + 1)).2) ∧
      quarters * (gridUnit (leadingExponent quarters - c + 1)).2 <
        10 ^ c * (gridUnit (leadingExponent quarters - c + 1)).1 := by
  obtain ⟨n, hexp, hlow, hhigh⟩ := leadingExponent_spec hpos
  have hgrid : (gridUnit (leadingExponent quarters - c + 1)).1 * 10 ^ c * 10 ^ 400 =
      4 * unitsOfOne * 10 ^ (n + 1) * (gridUnit (leadingExponent quarters - c + 1)).2 := by
    rw [mul_assoc, ← pow_add, gridUnit_mul_pow _ _ (by omega), hexp]
    congr 3
    omega
  have hscale : 0 < 10 ^ 400 := Nat.pow_pos (by decide)
  have hden := (gridUnit_pos (leadingExponent quarters - c + 1)).2
  generalize 10 ^ 400 = scale at hlow hhigh hgrid hscale
  generalize gridUnit (leadingExponent quarters - c + 1) = g at hgrid hden ⊢
  constructor
  · refine Nat.le_of_mul_le_mul_right ?_ hscale
    calc g.1 * 10 ^ c * scale = 10 * (4 * unitsOfOne * 10 ^ n) * g.2 := by rw [hgrid]; ring
      _ ≤ 10 * (quarters * scale) * g.2 := Nat.mul_le_mul_right _ (Nat.mul_le_mul_left _ hlow)
      _ = 10 * (quarters * g.2) * scale := by ring
  · refine Nat.lt_of_mul_lt_mul_right (a := scale) ?_
    calc quarters * g.2 * scale = quarters * scale * g.2 := by ring
      _ < 4 * unitsOfOne * 10 ^ (n + 1) * g.2 := Nat.mul_lt_mul_of_pos_right hhigh hden
      _ = 10 ^ c * g.1 * scale := by
          rw [← hgrid]
          ring

/-! ## Neighbours -/

theorem gridNeighbour?_spec {value : Nat} (h : gridNeighbour? i value k = some d) :
    i.Contains d ∧ d.exponent = k ∧
      d.digits ≤ value * (gridUnit k).2 / (gridUnit k).1 + 1 := by
  simp only [gridNeighbour?] at h
  split at h
  · simp at h
  · rename_i hlower _
    obtain rfl := Option.some.inj h
    exact ⟨hlower, rfl, Nat.le_succ _⟩
  · rename_i _ hupper
    obtain rfl := Option.some.inj h
    exact ⟨hupper, rfl, Nat.le_refl _⟩
  · rename_i hlower hupper
    split_ifs at h
    · obtain rfl := Option.some.inj h
      exact ⟨hlower, rfl, Nat.le_succ _⟩
    · obtain rfl := Option.some.inj h
      exact ⟨hupper, rfl, Nat.le_refl _⟩
    · obtain rfl := Option.some.inj h
      rcases Nat.mod_two_eq_zero_or_one (value * (gridUnit k).2 / (gridUnit k).1) with heven | hodd
      · rw [heven]
        exact ⟨hlower, rfl, Nat.le_succ _⟩
      · rw [hodd]
        exact ⟨hupper, rfl, Nat.le_refl _⟩

theorem gridNeighbour?_isSome_of {value : Nat}
    (h : i.holds (value * (gridUnit k).2 / (gridUnit k).1 * (gridUnit k).1) (gridUnit k).2 = true ∨
      i.holds ((value * (gridUnit k).2 / (gridUnit k).1 + 1) * (gridUnit k).1) (gridUnit k).2 =
        true) : (gridNeighbour? i value k).isSome = true := by
  simp only [gridNeighbour?]
  split
  · simp_all
  · rfl
  · rfl
  · split_ifs <;> rfl

/-- On a grid finer than the value by sixteen powers of ten, a neighbour of the value is inside the
rounding interval. -/
theorem gridNeighbour?_isSome (hx : x.isFinite = true) (hpos : 0 < x.significand)
    (hfine : (gridUnit k).1 * 10 ^ 16 ≤ 4 * x.magnitude * (gridUnit k).2) :
    (gridNeighbour? (roundingInterval x) (4 * x.magnitude) k).isSome = true := by
  have hfits := fits hx
  obtain ⟨hnum, hden⟩ := gridUnit_pos k
  refine gridNeighbour?_isSome_of ?_
  simp only [RoundingInterval.holds_iff, roundingInterval, magnitude, Nat.pow_eq] at hfine ⊢
  generalize (gridUnit k).1 = num at *
  generalize (gridUnit k).2 = den at *
  generalize x.significand = m at *
  generalize x.unit = u at *
  have hvalue : 4 * (m * 2 ^ u) * den = 4 * (m * (2 ^ u * den)) := by ring
  have hlower := Nat.div_mul_le_self (4 * (m * 2 ^ u) * den) num
  have hupper := Nat.lt_div_mul_add (a := 4 * (m * 2 ^ u) * den) hnum
  rw [Nat.add_one_mul (4 * (m * 2 ^ u) * den / num)]
  have hwidth : (4 * (m * 2 ^ u) + 2 * 2 ^ u) * den = 4 * (m * (2 ^ u * den)) + 2 * (2 ^ u * den) := by
    ring
  have hunit : 0 < 2 ^ u * den := Nat.mul_pos (Nat.two_pow_pos u) hden
  rw [hvalue] at hfine hlower hupper ⊢
  rw [hwidth]
  generalize 4 * (m * (2 ^ u * den)) / num * num = lower at *
  split_ifs with hedge
  · have hbelow : (4 * (m * 2 ^ u) - 2 ^ u) * den = 4 * (m * (2 ^ u * den)) - 2 ^ u * den := by
      rw [Nat.sub_mul]
      congr 1
    rw [hbelow]
    obtain ⟨rfl, -⟩ := hedge
    simp only [fractionBound] at *
    exact .inr ⟨by omega, by omega, by omega⟩
  · have hbelow : (4 * (m * 2 ^ u) - 2 * 2 ^ u) * den =
        4 * (m * (2 ^ u * den)) - 2 * (2 ^ u * den) := by
      rw [Nat.sub_mul]
      congr 1
      ring
    rw [hbelow]
    have hm : m * (2 ^ u * den) ≤ (2 * fractionBound - 1) * (2 ^ u * den) :=
      Nat.mul_le_mul_right _ (Nat.le_sub_one_of_lt hfits.significand_lt)
    simp only [fractionBound] at hm
    rcases Nat.lt_or_ge (4 * (m * (2 ^ u * den))) (lower + 2 * (2 ^ u * den)) with hnear | hfar
    · have hself : 1 * (2 ^ u * den) ≤ m * (2 ^ u * den) := Nat.mul_le_mul_right _ hpos
      exact .inl ⟨by omega, by omega, by omega⟩
    · exact .inr ⟨by omega, by omega, by omega⟩

/-! ## The search -/

/-- The search stops at a grid of at most seventeen digits, when there is a neighbour on that one. -/
theorem shortestFrom_spec {value count tries : Nat} (hcount : count + tries = 18) (hle : count ≤ 17)
    (hlast : (gridNeighbour? i value (e - 17 + 1)).isSome = true) :
    ∃ c : Nat, c ≤ 17 ∧
      gridNeighbour? i value (e - c + 1) = some (shortestFrom i value e count tries) := by
  induction tries generalizing count with
  | zero => omega
  | succ tries ih =>
    simp only [shortestFrom]
    cases h : gridNeighbour? i value (e - count + 1) with
    | some d => exact ⟨count, hle, h⟩
    | none =>
      have hne : count ≠ 17 := by
        rintro rfl
        rw [show ((17 : Nat) : Int) = 17 from rfl] at h
        simp [h] at hlast
      exact ih (by omega) (by omega)

theorem low_pos (hpos : 0 < x.significand) : 0 < (roundingInterval x).low := by
  have hunit := Nat.two_pow_pos x.unit
  have hmul : 1 * 2 ^ x.unit ≤ x.significand * 2 ^ x.unit := Nat.mul_le_mul_right _ hpos
  simp only [roundingInterval, magnitude, Nat.pow_eq]
  split_ifs <;> omega

theorem RoundingInterval.Contains.digits_pos (h : (roundingInterval x).Contains d)
    (hpos : 0 < x.significand) : 0 < d.digits := by
  refine Nat.pos_of_ne_zero fun hzero => ?_
  have hlow := ((holds_iff _ _ _).1 h).1
  rw [hzero, Nat.zero_mul] at hlow
  exact absurd hlow (Nat.not_le.2 (Nat.mul_pos (low_pos hpos) (gridUnit_pos _).2))

/-- Every finite number is below ten to the 309th. -/
theorem RoundingInterval.Contains.exponent_le (h : (roundingInterval x).Contains d)
    (hx : x.isFinite = true) (hpos : 0 < d.digits) : d.exponent ≤ 308 := by
  by_contra hgt
  have hhigh := ((holds_iff _ _ _).1 h).2.1
  have hfits := fits hx
  have hunit : 2 ^ x.unit ≤ 2 ^ 2045 := Nat.pow_le_pow_right (by decide) hfits.unit_le
  have hbound : (roundingInterval x).high ≤ 8 * fractionBound * 2 ^ 2045 := by
    have hm : x.significand * 2 ^ x.unit ≤ (2 * fractionBound - 1) * 2 ^ x.unit :=
      Nat.mul_le_mul_right _ (Nat.le_sub_one_of_lt hfits.significand_lt)
    simp only [roundingInterval, magnitude, Nat.pow_eq]
    simp only [fractionBound] at hm ⊢
    omega
  have hlarge := sizes.2.1
  have hten : 10 ^ 309 ≤ 10 ^ d.exponent.toNat := Nat.pow_le_pow_right (by decide) (by omega)
  have hgrid : gridUnit d.exponent = (4 * unitsOfOne * 10 ^ d.exponent.toNat, 1) := by
    rw [← gridUnit_natCast, Int.toNat_of_nonneg (by omega)]
  simp only [hgrid, Nat.mul_one] at hhigh
  have hchain : 4 * unitsOfOne * 10 ^ 309 ≤ 8 * fractionBound * 2 ^ 2045 :=
    calc 4 * unitsOfOne * 10 ^ 309 ≤ 4 * unitsOfOne * 10 ^ d.exponent.toNat :=
          Nat.mul_le_mul_left _ hten
      _ ≤ d.digits * (4 * unitsOfOne * 10 ^ d.exponent.toNat) := Nat.le_mul_of_pos_left _ hpos
      _ ≤ (roundingInterval x).high := hhigh
      _ ≤ 8 * fractionBound * 2 ^ 2045 := hbound
  exact Nat.lt_irrefl _ (Nat.lt_of_lt_of_le hlarge hchain)

/-- The search finds a decimal of the interval, with at most seventeen digits or the next power of
ten. -/
theorem shortestFrom_found (hx : x.isFinite = true) (hpos : 0 < x.significand) :
    ∃ d, x.shortest = d.dropZeros 400 ∧ (roundingInterval x).Contains d ∧ d.digits ≤ 10 ^ 17 ∧
      -416 ≤ d.exponent := by
  have hvalue : 0 < 4 * x.magnitude := by
    have hunit : 0 < Nat.pow 2 x.unit := Nat.two_pow_pos x.unit
    exact Nat.mul_pos (by decide) (Nat.mul_pos hpos hunit)
  have hlast : (gridNeighbour? (roundingInterval x) (4 * x.magnitude)
      (leadingExponent (4 * x.magnitude) - 17 + 1)).isSome = true := by
    refine gridNeighbour?_isSome hx hpos ?_
    have hdigits := (digits_on_grid hvalue 17).1
    rw [show ((17 : Nat) : Int) = 17 from rfl] at hdigits
    generalize gridUnit (leadingExponent (4 * x.magnitude) - 17 + 1) = g at *
    refine Nat.le_of_mul_le_mul_left ?_ (show 0 < 10 by decide)
    calc 10 * (g.1 * 10 ^ 16) = g.1 * 10 ^ 17 := by ring
      _ ≤ 10 * (4 * x.magnitude * g.2) := hdigits
  obtain ⟨c, hc, hneighbour⟩ := shortestFrom_spec (show 1 + 17 = 18 from rfl) (by decide) hlast
  obtain ⟨hcontains, hk, hdigits⟩ := gridNeighbour?_spec hneighbour
  have hshort : x.shortest = (shortestFrom (roundingInterval x) (4 * x.magnitude)
      (leadingExponent (4 * x.magnitude)) 1 17).dropZeros 400 := rfl
  generalize shortestFrom (roundingInterval x) (4 * x.magnitude)
    (leadingExponent (4 * x.magnitude)) 1 17 = found at *
  refine ⟨found, hshort, hcontains, ?_, ?_⟩
  · have hpow : 10 ^ c ≤ 10 ^ 17 := Nat.pow_le_pow_right (by decide) hc
    have hlt := (Nat.div_lt_iff_lt_mul (gridUnit_pos _).1).2 (digits_on_grid hvalue c).2
    exact Nat.le_trans hdigits (Nat.le_trans (Nat.succ_le_of_lt hlt) hpow)
  · have hleading := le_leadingExponent hvalue
    omega

/-- **The shortest decimal.** It lies in the rounding interval of its number, and has at most
seventeen digits (or is the seventeenth power of ten). -/
theorem shortest_spec (hx : x.isFinite = true) (hpos : 0 < x.significand) :
    (roundingInterval x).Contains x.shortest ∧ 0 < x.shortest.digits ∧
      x.shortest.digits ≤ 10 ^ 17 ∧ -416 ≤ x.shortest.exponent ∧ x.shortest.exponent ≤ 308 := by
  obtain ⟨found, hshort, hcontains, hdigits, hexponent⟩ := shortestFrom_found hx hpos
  have hin : (roundingInterval x).Contains x.shortest := hshort ▸ hcontains.dropZeros 400
  have hpos' := hin.digits_pos hpos
  refine ⟨hin, hpos', ?_, ?_, hin.exponent_le hx hpos'⟩
  · rw [hshort]
    exact Nat.le_trans (found.dropZeros_digits_le 400) hdigits
  · rw [hshort]
    exact Int.le_trans hexponent (found.le_dropZeros_exponent 400)

end Predictor.Binary64
