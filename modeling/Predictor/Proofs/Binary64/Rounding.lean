import Mathlib.Tactic.Ring
import Mathlib.Tactic.Linarith
import Predictor.Binary64.Shortest

/-!
Rounding to the nearest binary64 number. A finite number is a significand in a unit (`Fits`), and its
bits are those of `packMagnitude`. `nearestMagnitude` finds the bits of a number from every fraction
inside the rounding interval of that number (`nearestMagnitude_of_holds`), from the number itself in
particular, and it is monotone (`nearestMagnitude_mono`).
-/

namespace Predictor.Binary64

/-! ## Significand and unit -/

/-- A significand in its unit, as finite numbers have them: a unit above the lowest one is only used
when the significand fills it. -/
structure Fits (m u : Nat) : Prop where
  significand_lt : m < 2 * fractionBound
  unit_le : u ≤ 2045
  filled : u = 0 ∨ fractionBound ≤ m

variable {x y : Binary64} {m u num den : Nat}

theorem fits (h : x.isFinite = true) : Fits x.significand x.unit := by
  have hexp : x.exponentField ≤ 2046 := by
    have hne : x.exponentField ≠ 2047 := by simpa [isFinite] using h
    have hlt : x.exponentField < 2048 := Nat.mod_lt _ (by decide)
    omega
  have hfrac : x.fraction < fractionBound := Nat.mod_lt _ (by decide)
  refine ⟨?_, ?_, ?_⟩
  · unfold significand
    split <;> omega
  · unfold unit
    omega
  · unfold significand unit
    split <;> omega

theorem packMagnitude_of_fits (h : Fits m u) :
    packMagnitude m u =
      if m < fractionBound then m else (u + 1) * fractionBound + (m - fractionBound) := by
  obtain ⟨hm, hu, -⟩ := h
  refine min_eq_right ?_
  split
  · simp only [fractionBound] at hm ⊢
    omega
  · simp only [fractionBound] at hm ⊢
    omega

theorem packMagnitude_lt (h : Fits m u) : packMagnitude m u < 2047 * fractionBound := by
  rw [packMagnitude_of_fits h]
  obtain ⟨hm, hu, -⟩ := h
  split
  · simp only [fractionBound] at *
    omega
  · simp only [fractionBound] at *
    omega

/-- A significand one too large is the least of the next unit. -/
theorem packMagnitude_carry (u : Nat) :
    packMagnitude (2 * fractionBound) u = packMagnitude fractionBound (u + 1) := by
  have hlarge : ¬2 * fractionBound < fractionBound := by decide
  rw [packMagnitude, packMagnitude, if_neg hlarge, if_neg (Nat.lt_irrefl _)]
  refine congrArg (min _) ?_
  simp only [fractionBound]
  omega

theorem packMagnitude_lt_signBit (h : Fits m u) : packMagnitude m u < signBit :=
  Nat.lt_trans (packMagnitude_lt h) (by decide)

theorem bits_toNat_lt (x : Binary64) : x.bits.toNat < 2 * signBit := x.bits.toNat_lt

/-- The bits of a finite number, its sign apart. -/
theorem bits_mod_signBit (h : x.isFinite = true) :
    x.bits.toNat % signBit = packMagnitude x.significand x.unit := by
  rw [packMagnitude_of_fits (fits h)]
  have hlt := bits_toNat_lt x
  have hfrac : x.fraction < fractionBound := Nat.mod_lt _ (by decide)
  have hsplit : x.bits.toNat % signBit = x.exponentField * fractionBound + x.fraction := by
    simp only [exponentField, fraction, fractionBound, signBit] at hlt ⊢
    omega
  rw [hsplit]
  by_cases hexp : x.exponentField = 0
  · simp [significand, hexp, hfrac]
  · have hunit : x.unit + 1 = x.exponentField := by
      unfold unit
      omega
    simp [significand, hexp, hunit]

theorem pack_bits_mod_signBit (x : Binary64) : pack x.isNegative (x.bits.toNat % signBit) = x := by
  have hlt := bits_toNat_lt x
  have hbits : x.bits.toNat % signBit + (if x.isNegative then signBit else 0) = x.bits.toNat := by
    unfold isNegative
    split_ifs with hsign
    · have hle := of_decide_eq_true hsign
      simp only [signBit] at hlt hle ⊢
      omega
    · have hgt := of_decide_eq_false (Bool.eq_false_of_not_eq_true hsign)
      simp only [signBit] at hgt ⊢
      omega
  rw [pack, hbits, UInt64.ofNat_toNat]

theorem pack_toNat (negative : Bool) {b : Nat} (h : b < signBit) :
    (pack negative b).bits.toNat = b + if negative then signBit else 0 := by
  simp only [pack, signBit, UInt64.toNat_ofNat'] at h ⊢
  split_ifs <;> omega

theorem isNegative_pack (negative : Bool) {b : Nat} (h : b < signBit) :
    (pack negative b).isNegative = negative := by
  rw [isNegative, pack_toNat negative h]
  cases negative
  · simpa using h
  · simp

/-- What the fields of packed bits are. -/
theorem exponentField_pack (negative : Bool) {b : Nat} (h : b < signBit) :
    (pack negative b).exponentField = b / fractionBound := by
  rw [exponentField, pack_toNat negative h]
  simp only [fractionBound, signBit] at h ⊢
  split_ifs <;> omega

theorem fraction_pack (negative : Bool) {b : Nat} (h : b < signBit) :
    (pack negative b).fraction = b % fractionBound := by
  rw [fraction, pack_toNat negative h]
  simp only [fractionBound, signBit]
  split_ifs <;> omega

theorem isFinite_pack (negative : Bool) {b : Nat} (h : b < 2047 * fractionBound) :
    (pack negative b).isFinite = true := by
  have hb : b < signBit := by simp only [fractionBound, signBit] at h ⊢; omega
  have hne : b / fractionBound ≠ 2047 := by simp only [fractionBound] at h ⊢; omega
  simp [isFinite, exponentField_pack negative hb, hne]

theorem significand_unit_pack (negative : Bool) (h : Fits m u) :
    (pack negative (packMagnitude m u)).significand = m ∧
      (pack negative (packMagnitude m u)).unit = u := by
  have hb := packMagnitude_lt_signBit h
  have hpack := packMagnitude_of_fits h
  obtain ⟨hm, hu, hfill⟩ := h
  rw [significand, unit, exponentField_pack negative hb, fraction_pack negative hb]
  split at hpack
  · rename_i hlt
    rw [hpack, Nat.div_eq_of_lt hlt, Nat.mod_eq_of_lt hlt, if_pos rfl]
    omega
  · have hfield : packMagnitude m u / fractionBound = u + 1 := by
      simp only [fractionBound] at *
      omega
    have hfrac : packMagnitude m u % fractionBound = m - fractionBound := by
      simp only [fractionBound] at *
      omega
    rw [hfield, hfrac, if_neg (Nat.succ_ne_zero u)]
    omega

theorem magnitude_pack (negative : Bool) (h : Fits m u) :
    (pack negative (packMagnitude m u)).magnitude = m * 2 ^ u := by
  obtain ⟨hm, hu⟩ := significand_unit_pack negative h
  simp only [magnitude, hm, hu, Nat.pow_eq]

/-- A finite number is given by its sign, significand and unit. -/
theorem pack_significand_unit (h : x.isFinite = true) :
    pack x.isNegative (packMagnitude x.significand x.unit) = x := by
  rw [← bits_mod_signBit h, pack_bits_mod_signBit]

theorem significand_eq_zero (h : x.magnitude = 0) : x.significand = 0 := by
  rcases Nat.mul_eq_zero.1 h with h | h
  · exact h
  · exact absurd h (by simp [Nat.pow_eq])

theorem unitsOfOne_eq : unitsOfOne = 2 ^ 1074 := Nat.pow_eq

theorem unitsOfOne_pos : 0 < unitsOfOne := by
  rw [unitsOfOne_eq]
  exact Nat.two_pow_pos 1074

/-! ## Quotients -/

/-- The nearest whole number; of two that are equally near, the even one. -/
theorem roundQuotient_eq (hden : 0 < den) (hlow : 2 * (m * den) ≤ 2 * num + den)
    (hhigh : 2 * num ≤ 2 * (m * den) + den)
    (htie : 2 * (m * den) = 2 * num + den ∨ 2 * num = 2 * (m * den) + den → m % 2 = 0) :
    roundQuotient num den = m := by
  rcases Nat.lt_or_ge num (m * den) with hlt | hge
  · obtain ⟨n, rfl⟩ : ∃ n, m = n + 1 :=
      Nat.exists_eq_succ_of_ne_zero (by rintro rfl; simp at hlt)
    rw [Nat.add_one_mul n den] at hlow hhigh hlt htie
    obtain ⟨hq, hr⟩ : num / den = n ∧ num % den = num - n * den :=
      Nat.div_mod_unique hden |>.2 ⟨by rw [Nat.mul_comm den n]; omega, by omega⟩
    simp only [roundQuotient, hq, hr]
    split_ifs <;> omega
  · obtain ⟨hq, hr⟩ : num / den = m ∧ num % den = num - m * den :=
      Nat.div_mod_unique hden |>.2 ⟨by rw [Nat.mul_comm den m]; omega, by omega⟩
    simp only [roundQuotient, hq, hr]
    split_ifs <;> omega

theorem le_roundQuotient (hden : 0 < den) (h : m * den ≤ num) : m ≤ roundQuotient num den := by
  have hq : m ≤ num / den := (Nat.le_div_iff_mul_le hden).2 h
  simp only [roundQuotient]
  split_ifs <;> omega

theorem roundQuotient_le (hden : 0 < den) (h : num ≤ m * den) : roundQuotient num den ≤ m := by
  rcases Nat.lt_or_eq_of_le h with h | rfl
  · have hq : num / den < m := (Nat.div_lt_iff_lt_mul hden).2 h
    simp only [roundQuotient]
    split_ifs <;> omega
  · simp [roundQuotient, Nat.mul_div_cancel _ hden, hden]

/-- The rounded quotient is off by at most a half. -/
theorem roundQuotient_error (num : Nat) (hden : 0 < den) :
    2 * (roundQuotient num den * den) ≤ 2 * num + den ∧
      2 * num ≤ 2 * (roundQuotient num den * den) + den := by
  have hmod := Nat.mod_lt num hden
  have hdiv := Nat.div_add_mod num den
  rw [Nat.mul_comm] at hdiv
  simp only [roundQuotient]
  split_ifs with h1 h2
  · omega
  · rw [Nat.add_one_mul (num / den)]
    omega
  · rcases Nat.mod_two_eq_zero_or_one (num / den) with h | h
    · rw [h, Nat.add_zero]
      omega
    · rw [h, Nat.add_one_mul (num / den)]
      omega

theorem roundQuotient_scale {c : Nat} (hc : 0 < c) :
    roundQuotient (num * c) (den * c) = roundQuotient num den := by
  simp only [roundQuotient, Nat.mul_div_mul_right _ _ hc, Nat.mul_mod_mul_right]
  have hlt : ∀ a b : Nat, 2 * (a * c) < b * c ↔ 2 * a < b := fun a b => by
    rw [← Nat.mul_assoc, Nat.mul_lt_mul_right hc]
  have hgt : ∀ a b : Nat, b * c < 2 * (a * c) ↔ b < 2 * a := fun a b => by
    rw [← Nat.mul_assoc, Nat.mul_lt_mul_right hc]
  simp only [hlt, hgt]

theorem roundQuotient_mono_num {num' : Nat} (hden : 0 < den) (h : num ≤ num') :
    roundQuotient num den ≤ roundQuotient num' den := by
  by_contra hlt
  have hstep : (roundQuotient num' den + 1) * den ≤ roundQuotient num den * den :=
    Nat.mul_le_mul_right den (by omega)
  rw [Nat.add_one_mul (roundQuotient num' den)] at hstep
  have herr := (roundQuotient_error num hden).1
  have herr' := (roundQuotient_error num' hden).2
  obtain rfl : num = num' := by omega
  exact hlt (Nat.le_refl _)

theorem roundQuotient_mono {num' den' : Nat} (hden : 0 < den) (hden' : 0 < den')
    (h : num * den' ≤ num' * den) : roundQuotient num den ≤ roundQuotient num' den' := by
  have hscale : roundQuotient (num' * den) (den' * den) = roundQuotient num' den' :=
    roundQuotient_scale hden
  rw [← roundQuotient_scale hden', ← hscale, Nat.mul_comm den' den]
  exact roundQuotient_mono_num (Nat.mul_pos hden hden') h

/-! ## The nearest number -/

/-- The unit in which a fraction is rounded. -/
theorem unit_eq (hden : 0 < den) (hlow : u = 0 ∨ fractionBound * (den * 2 ^ u) ≤ num)
    (hhigh : num < 2 * fractionBound * (den * 2 ^ u)) : (num / den).log2 - 52 = u := by
  have hmul : ∀ k, 2 ^ k * (den * 2 ^ u) = 2 ^ (k + u) * den := fun k => by ring
  have hlt : num / den < 2 ^ (53 + u) := by
    refine (Nat.div_lt_iff_lt_mul hden).2 ?_
    rw [← hmul]
    exact hhigh
  by_cases hzero : num / den = 0
  · have hu : u = 0 := by
      refine hlow.resolve_right fun hge => ?_
      have hnum : num < den := Nat.lt_of_div_eq_zero hden hzero
      have hunit : den ≤ den * 2 ^ u := Nat.le_mul_of_pos_right den (Nat.two_pow_pos u)
      simp only [fractionBound] at hge
      omega
    simp [hzero, hu]
  · have hupper : (num / den).log2 < 53 + u := (Nat.log2_lt hzero).2 hlt
    rcases hlow with rfl | hge
    · omega
    · have hlower : 52 + u ≤ (num / den).log2 := by
        refine (Nat.le_log2 hzero).2 ((Nat.le_div_iff_mul_le hden).2 ?_)
        rw [← hmul]
        exact hge
      omega

/-- What is rounded in a unit is below the next one. -/
theorem lt_unit (num : Nat) (hden : 0 < den) :
    num < 2 * fractionBound * (den * 2 ^ ((num / den).log2 - 52)) := by
  have hfloor : num / den < 2 ^ ((num / den).log2 - 52 + 53) :=
    Nat.lt_of_lt_of_le Nat.lt_log2_self (Nat.pow_le_pow_right (by decide) (by omega))
  refine Nat.lt_of_lt_of_eq ((Nat.div_lt_iff_lt_mul hden).1 hfloor) ?_
  rw [Nat.pow_add]
  simp only [fractionBound]
  ring

/-- What is rounded in a unit above the lowest one fills it. -/
theorem unit_le (hden : 0 < den) (hu : 0 < (num / den).log2 - 52) :
    fractionBound * (den * 2 ^ ((num / den).log2 - 52)) ≤ num := by
  have hzero : num / den ≠ 0 := by
    intro hzero
    simp [hzero] at hu
  have hfloor : 2 ^ (52 + ((num / den).log2 - 52)) ≤ num / den :=
    Nat.le_trans (Nat.pow_le_pow_right (by decide) (by omega)) (Nat.log2_self_le hzero)
  refine Nat.le_trans (Nat.le_of_eq ?_) ((Nat.le_div_iff_mul_le hden).1 hfloor)
  rw [Nat.pow_add]
  simp only [fractionBound]
  ring

/-- Rounding to a number from within half a unit of it. -/
theorem nearestMagnitude_eq (h : Fits m u) (hden : 0 < den)
    (hfill : u = 0 ∨ fractionBound * (den * 2 ^ u) ≤ num)
    (hlow : 2 * (m * (den * 2 ^ u)) ≤ 2 * num + den * 2 ^ u)
    (hhigh : 2 * num ≤ 2 * (m * (den * 2 ^ u)) + den * 2 ^ u)
    (htie : 2 * (m * (den * 2 ^ u)) = 2 * num + den * 2 ^ u ∨
      2 * num = 2 * (m * (den * 2 ^ u)) + den * 2 ^ u → m % 2 = 0) :
    nearestMagnitude num den = packMagnitude m u := by
  have hpos : 0 < den * 2 ^ u := Nat.mul_pos hden (Nat.two_pow_pos u)
  have hunit : (num / den).log2 - 52 = u := by
    refine unit_eq hden hfill ?_
    have hm : m * (den * 2 ^ u) ≤ (2 * fractionBound - 1) * (den * 2 ^ u) :=
      Nat.mul_le_mul_right _ (Nat.le_sub_one_of_lt h.significand_lt)
    simp only [fractionBound] at hm ⊢
    omega
  simp only [nearestMagnitude, hunit, Nat.pow_eq, roundQuotient_eq hpos hlow hhigh htie]

/-- Rounding up to the least number of a unit from the finer unit below it. -/
theorem nearestMagnitude_eq_of_below (hden : 0 < den)
    (hlow : 4 * (fractionBound * (den * 2 ^ (u + 1))) ≤ 4 * num + den * 2 ^ (u + 1))
    (hhigh : num < fractionBound * (den * 2 ^ (u + 1))) :
    nearestMagnitude num den = packMagnitude fractionBound (u + 1) := by
  have hpos : 0 < den * 2 ^ u := Nat.mul_pos hden (Nat.two_pow_pos u)
  have hdouble : den * 2 ^ (u + 1) = 2 * (den * 2 ^ u) := by ring
  rw [hdouble] at hlow hhigh
  have hunit : (num / den).log2 - 52 = u := by
    refine unit_eq hden (.inr ?_) ?_
    · simp only [fractionBound] at hlow ⊢
      omega
    · simp only [fractionBound] at hhigh ⊢
      omega
  have hround : roundQuotient num (den * 2 ^ u) = 2 * fractionBound := by
    refine roundQuotient_eq hpos ?_ ?_ fun _ => by decide
    · simp only [fractionBound] at hlow ⊢
      omega
    · simp only [fractionBound] at hhigh ⊢
      omega
  simp only [nearestMagnitude, hunit, Nat.pow_eq, hround, packMagnitude_carry]

theorem RoundingInterval.holds_iff (i : RoundingInterval) (num den : Nat) :
    i.holds num den = true ↔ i.low * den ≤ num ∧ num ≤ i.high * den ∧
      (i.low * den = num ∨ num = i.high * den → i.closed = true) := by
  unfold holds
  cases i.closed
  · simp
    omega
  · simp

/-- **Reading back.** Every fraction in the rounding interval of a finite number rounds to it. -/
theorem nearestMagnitude_of_holds (hx : x.isFinite = true) (hden : 0 < den)
    (h : (roundingInterval x).holds (4 * num) den = true) :
    nearestMagnitude num den = packMagnitude x.significand x.unit := by
  have hfits := fits hx
  obtain ⟨hlow, hhigh, hclosed⟩ := (RoundingInterval.holds_iff _ _ _).1 h
  simp only [roundingInterval, magnitude, Nat.pow_eq, beq_iff_eq] at hlow hhigh hclosed
  generalize x.significand = m at *
  generalize x.unit = u at *
  have hhigh' : (4 * (m * 2 ^ u) + 2 * 2 ^ u) * den = 4 * (m * (den * 2 ^ u)) + 2 * (den * 2 ^ u) := by
    ring
  rw [hhigh'] at hhigh hclosed
  by_cases hedge : m = fractionBound ∧ 0 < u
  · rw [if_pos hedge] at hlow hclosed
    obtain ⟨rfl, hpos⟩ := hedge
    have hlow' : (4 * (fractionBound * 2 ^ u) - 2 ^ u) * den =
        4 * (fractionBound * (den * 2 ^ u)) - den * 2 ^ u := by
      rw [Nat.sub_mul]
      congr 1
      · ring
      · ring
    rw [hlow'] at hlow hclosed
    rcases Nat.lt_or_ge num (fractionBound * (den * 2 ^ u)) with hlt | hge
    · obtain ⟨v, rfl⟩ : ∃ v, u = v + 1 := Nat.exists_eq_add_one.2 hpos
      exact nearestMagnitude_eq_of_below hden (by omega) hlt
    · exact nearestMagnitude_eq hfits hden (.inr hge) (by omega) (by omega) fun _ => by decide
  · rw [if_neg hedge] at hlow hclosed
    have hlow' : (4 * (m * 2 ^ u) - 2 * 2 ^ u) * den = 4 * (m * (den * 2 ^ u)) - 2 * (den * 2 ^ u) := by
      rw [Nat.sub_mul]
      congr 1
      · ring
      · ring
    rw [hlow'] at hlow hclosed
    refine nearestMagnitude_eq hfits hden ?_ (by omega) (by omega) fun htie => hclosed (by omega)
    -- Above the least significand of a unit, half a unit less still fills the unit.
    refine or_iff_not_imp_left.2 fun hu => ?_
    have hfill : fractionBound + 1 ≤ m := by
      have := hfits.filled
      omega
    have hmul : (fractionBound + 1) * (den * 2 ^ u) ≤ m * (den * 2 ^ u) :=
      Nat.mul_le_mul_right _ hfill
    rw [Nat.add_one_mul fractionBound] at hmul
    omega

/-- A number rounds to itself. -/
theorem nearestMagnitude_exact (h : Fits m u) (hden : 0 < den) :
    nearestMagnitude (m * 2 ^ u * den) den = packMagnitude m u := by
  have hnum : m * 2 ^ u * den = m * (den * 2 ^ u) := by ring
  have hpos : 0 < den * 2 ^ u := Nat.mul_pos hden (Nat.two_pow_pos u)
  rw [hnum]
  refine nearestMagnitude_eq h hden ?_ (by omega) (by omega) (by omega)
  exact h.filled.imp_right fun hm => Nat.mul_le_mul_right _ hm

theorem nearestMagnitude_scale {c : Nat} (hc : 0 < c) :
    nearestMagnitude (num * c) (den * c) = nearestMagnitude num den := by
  simp only [nearestMagnitude, Nat.mul_div_mul_right _ _ hc]
  rw [Nat.mul_right_comm den c, roundQuotient_scale hc]

/-! ## Monotonicity -/

theorem packMagnitude_mono {n : Nat} (h : m ≤ n) : packMagnitude m u ≤ packMagnitude n u := by
  refine min_le_min_left _ ?_
  split
  · split
    · exact h
    · simp only [fractionBound] at *
      omega
  · rw [if_neg (by omega)]
    omega

/-- The bits found in a unit stand before those of the next one. -/
theorem packMagnitude_lt_unit {n v : Nat} (hm : m ≤ 2 * fractionBound) (hn : fractionBound ≤ n)
    (h : u < v) : packMagnitude m u ≤ packMagnitude n v := by
  have hstep : (u + 1 + 1) * fractionBound ≤ (v + 1) * fractionBound :=
    Nat.mul_le_mul_right _ (by omega)
  rw [Nat.add_one_mul (u + 1)] at hstep
  refine min_le_min_left _ ?_
  rw [if_neg (Nat.not_lt.2 hn)]
  split
  · omega
  · omega

theorem nearestMagnitude_mono {num' den' : Nat} (hden : 0 < den) (hden' : 0 < den')
    (h : num * den' ≤ num' * den) : nearestMagnitude num den ≤ nearestMagnitude num' den' := by
  have hquot : num / den ≤ num' / den' := by
    refine (Nat.le_div_iff_mul_le hden').2 ?_
    refine Nat.le_of_mul_le_mul_right ?_ hden
    calc num / den * den' * den = num / den * den * den' := by ring
      _ ≤ num * den' := Nat.mul_le_mul_right _ (Nat.div_mul_le_self num den)
      _ ≤ num' * den := h
  have hlog : (num / den).log2 ≤ (num' / den').log2 := by
    by_cases hzero : num / den = 0
    · simp [hzero]
    · have hpos : num' / den' ≠ 0 := fun h => hzero (Nat.le_zero.1 (h ▸ hquot))
      exact (Nat.le_log2 hpos).2 (Nat.le_trans (Nat.log2_self_le hzero) hquot)
  simp only [nearestMagnitude, Nat.pow_eq]
  rcases Nat.lt_or_eq_of_le (Nat.sub_le_sub_right hlog 52) with hlt | heq
  · refine packMagnitude_lt_unit ?_ ?_ hlt
    · exact roundQuotient_le (Nat.mul_pos hden (Nat.two_pow_pos _)) (Nat.le_of_lt (lt_unit num hden))
    · exact le_roundQuotient (Nat.mul_pos hden' (Nat.two_pow_pos _)) (unit_le hden' (by omega))
  · rw [heq]
    refine packMagnitude_mono (roundQuotient_mono (Nat.mul_pos hden (Nat.two_pow_pos _))
      (Nat.mul_pos hden' (Nat.two_pow_pos _)) ?_)
    calc num * (den' * 2 ^ ((num' / den').log2 - 52))
        = num * den' * 2 ^ ((num' / den').log2 - 52) := by ring
      _ ≤ num' * den * 2 ^ ((num' / den').log2 - 52) := Nat.mul_le_mul_right _ h
      _ = num' * (den * 2 ^ ((num' / den').log2 - 52)) := by ring

/-! ## Errors -/

theorem magnitude_pack_carry (hm : m ≤ 2 * fractionBound) (hfill : u = 0 ∨ fractionBound ≤ m)
    (hfin : packMagnitude m u < 2047 * fractionBound) :
    (pack false (packMagnitude m u)).magnitude = m * 2 ^ u := by
  rcases Nat.lt_or_eq_of_le hm with hlt | rfl
  · refine magnitude_pack false ⟨hlt, ?_, hfill⟩
    by_contra hu
    have hm' : fractionBound ≤ m := hfill.resolve_left (by omega)
    have hstep : (2046 + 1) * fractionBound ≤ (u + 1) * fractionBound :=
      Nat.mul_le_mul_right _ (by omega)
    rw [packMagnitude, if_neg (Nat.not_lt.2 hm')] at hfin
    omega
  · rw [packMagnitude_carry] at hfin ⊢
    have hfits : Fits fractionBound (u + 1) := by
      refine ⟨by decide, ?_, .inr (Nat.le_refl _)⟩
      by_contra hu
      have hstep : (2046 + 1) * fractionBound ≤ (u + 1 + 1) * fractionBound :=
        Nat.mul_le_mul_right _ (by omega)
      rw [packMagnitude, if_neg (Nat.lt_irrefl _)] at hfin
      omega
    rw [magnitude_pack false hfits, pow_succ]
    ring

/-- Rounding is off by at most half a unit, of a unit that is filled or the lowest one. -/
theorem nearest_half_unit (hden : 0 < den)
    (hfin : nearestMagnitude num den < 2047 * fractionBound) :
    ∃ u, (u = 0 ∨ fractionBound * (den * 2 ^ u) ≤ num) ∧
      2 * ((pack false (nearestMagnitude num den)).magnitude * den) ≤ 2 * num + den * 2 ^ u ∧
      2 * num ≤ 2 * ((pack false (nearestMagnitude num den)).magnitude * den) + den * 2 ^ u := by
  have hlt := lt_unit num hden
  have hle : 0 < (num / den).log2 - 52 → _ := unit_le hden
  simp only [nearestMagnitude, Nat.pow_eq] at hfin ⊢
  generalize (num / den).log2 - 52 = u at *
  have hpos : 0 < den * 2 ^ u := Nat.mul_pos hden (Nat.two_pow_pos u)
  have hfill : u = 0 ∨ fractionBound * (den * 2 ^ u) ≤ num :=
    (Nat.eq_zero_or_pos u).imp_right hle
  rw [magnitude_pack_carry (roundQuotient_le hpos (Nat.le_of_lt hlt))
    (hfill.imp_right (le_roundQuotient hpos)) hfin,
    show roundQuotient num (den * 2 ^ u) * 2 ^ u * den =
      roundQuotient num (den * 2 ^ u) * (den * 2 ^ u) by ring]
  exact ⟨u, hfill, roundQuotient_error num hpos⟩

/-- **Error.** Rounding is off by at most one part in 2^53, and half of 2^-1074. -/
theorem nearest_error (hden : 0 < den)
    (hfin : nearestMagnitude num den < 2047 * fractionBound) :
    (2 * fractionBound - 1) * num ≤
        2 * fractionBound * ((pack false (nearestMagnitude num den)).magnitude * den) +
          fractionBound * den ∧
      2 * fractionBound * ((pack false (nearestMagnitude num den)).magnitude * den) ≤
        (2 * fractionBound + 1) * num + fractionBound * den := by
  obtain ⟨u, hfill, hupper, hlower⟩ := nearest_half_unit hden hfin
  generalize (pack false (nearestMagnitude num den)).magnitude * den = rounded at *
  rcases hfill with rfl | hfill
  · simp only [fractionBound, pow_zero, Nat.mul_one] at *
    omega
  · simp only [fractionBound] at *
    omega

/-- **Relative error.** A number above the subnormal ones is off by at most one part in 2^53. -/
theorem nearest_error_of_normal (hden : 0 < den) (hnormal : fractionBound * den ≤ num)
    (hfin : nearestMagnitude num den < 2047 * fractionBound) :
    (2 * fractionBound - 1) * num ≤
        2 * fractionBound * ((pack false (nearestMagnitude num den)).magnitude * den) ∧
      2 * fractionBound * ((pack false (nearestMagnitude num den)).magnitude * den) ≤
        (2 * fractionBound + 1) * num := by
  obtain ⟨u, hfill, hupper, hlower⟩ := nearest_half_unit hden hfin
  have hunit : fractionBound * (den * 2 ^ u) ≤ num := by
    rcases hfill with rfl | hfill
    · simpa using hnormal
    · exact hfill
  generalize (pack false (nearestMagnitude num den)).magnitude * den = rounded at *
  simp only [fractionBound] at *
  omega

/-! ## Steps between numbers -/

/-- `n` units above a number are at most `n` numbers above it. -/
theorem nearestMagnitude_le_add {n : Nat} (h : Fits m u) (hden : 0 < den) (hn : n ≤ fractionBound)
    (hle : num ≤ (m + n) * 2 ^ u * den) : nearestMagnitude num den ≤ packMagnitude m u + n := by
  have hpack := packMagnitude_of_fits h
  obtain ⟨hm, hu, hfill⟩ := h
  rcases Nat.lt_or_ge (m + n) (2 * fractionBound) with hlt | hge
  · have hfits : Fits (m + n) u := ⟨hlt, hu, hfill.imp_right fun hm => Nat.le_add_right_of_le hm⟩
    refine Nat.le_trans (nearestMagnitude_mono hden hden (Nat.mul_le_mul_right den hle)) ?_
    rw [nearestMagnitude_exact hfits hden, packMagnitude_of_fits hfits, hpack]
    rcases hfill with rfl | hfill
    · split_ifs <;> omega
    · rw [if_neg (by omega), if_neg (by omega)]
      omega
  · have hm' : fractionBound ≤ m := by omega
    rw [if_neg (Nat.not_lt.2 hm')] at hpack
    rcases Nat.lt_or_eq_of_le hu with hu | rfl
    · -- Beyond the last number of the unit, the numbers are two units apart.
      have hfits : Fits (fractionBound + (m + n - 2 * fractionBound + 1) / 2) (u + 1) :=
        ⟨by omega, by omega, .inr (by omega)⟩
      have hle' : num ≤ (fractionBound + (m + n - 2 * fractionBound + 1) / 2) * 2 ^ (u + 1) * den :=
        calc num ≤ (m + n) * 2 ^ u * den := hle
          _ ≤ (fractionBound + (m + n - 2 * fractionBound + 1) / 2) * 2 * 2 ^ u * den :=
              Nat.mul_le_mul_right _ (Nat.mul_le_mul_right _ (by omega))
          _ = (fractionBound + (m + n - 2 * fractionBound + 1) / 2) * 2 ^ (u + 1) * den := by ring
      refine Nat.le_trans (nearestMagnitude_mono hden hden (Nat.mul_le_mul_right den hle')) ?_
      rw [nearestMagnitude_exact hfits hden, packMagnitude_of_fits hfits, hpack,
        if_neg (by omega), Nat.add_one_mul (u + 1)]
      omega
    · refine Nat.le_trans (min_le_left _ _) ?_
      rw [hpack]
      omega

/-- `n` units below a number are at most `n` numbers below it, as far as its unit goes. -/
theorem le_nearestMagnitude_add_same {n : Nat} (h : Fits m u) (hden : 0 < den)
    (hsame : u = 0 ∨ fractionBound + n ≤ m) (hge : m * 2 ^ u * den ≤ num + n * 2 ^ u * den) :
    packMagnitude m u ≤ nearestMagnitude num den + n := by
  have hpack := packMagnitude_of_fits h
  obtain ⟨hm, hu, -⟩ := h
  rcases Nat.lt_or_ge m n with hsmall | hlarge
  · have hu : u = 0 := hsame.resolve_right (by omega)
    subst hu
    rw [hpack]
    split_ifs <;> omega
  · have hfits : Fits (m - n) u := ⟨by omega, hu, hsame.imp_right (by omega)⟩
    have hle : (m - n) * 2 ^ u * den ≤ num := by
      rw [Nat.sub_mul, Nat.sub_mul]
      omega
    have hmono := nearestMagnitude_mono hden hden (Nat.mul_le_mul_right den hle)
    rw [nearestMagnitude_exact hfits hden, packMagnitude_of_fits hfits] at hmono
    rw [hpack]
    rcases hsame with rfl | hsame
    · split_ifs at hmono ⊢ <;> omega
    · rw [if_neg (by omega)] at hmono ⊢
      omega

/-- Below the numbers of a unit, a number is half a unit below the next one. -/
theorem le_nearestMagnitude_add_finer {n : Nat} (h : Fits m (u + 1)) (hden : 0 < den)
    (hn : n ≤ fractionBound) (hm : fractionBound ≤ m) (hlt : m < fractionBound + n)
    (hhalf : 2 * (m * 2 ^ (u + 1) * den) ≤ 2 * num + (n + (m - fractionBound)) * 2 ^ (u + 1) * den) :
    packMagnitude m (u + 1) ≤ nearestMagnitude num den + n := by
  have hpack := packMagnitude_of_fits h
  obtain ⟨-, hu, -⟩ := h
  have hfits : Fits (fractionBound - n + m) u := ⟨by omega, by omega, .inr (by omega)⟩
  have hle : (fractionBound - n + m) * 2 ^ u * den ≤ num := by
    have hsplit : 2 * m = (fractionBound - n + m) + (n + (m - fractionBound)) := by omega
    have hdouble : 2 * (m * 2 ^ (u + 1) * den) =
        (fractionBound - n + m) * 2 ^ (u + 1) * den +
          (n + (m - fractionBound)) * 2 ^ (u + 1) * den := by
      rw [← Nat.add_mul, ← Nat.add_mul, ← hsplit]
      ring
    have hpow : (fractionBound - n + m) * 2 ^ (u + 1) * den =
        2 * ((fractionBound - n + m) * 2 ^ u * den) := by ring
    omega
  have hmono := nearestMagnitude_mono hden hden (Nat.mul_le_mul_right den hle)
  rw [nearestMagnitude_exact hfits hden, packMagnitude_of_fits hfits, if_neg (by omega)] at hmono
  rw [hpack, if_neg (Nat.not_lt.2 hm), Nat.add_one_mul (u + 1)]
  omega

/-- `n` units below a number are at most `n` numbers below it; where the unit gets finer, half of
those units count. -/
theorem le_nearestMagnitude_add {n : Nat} (h : Fits m u) (hden : 0 < den) (hn : n ≤ fractionBound)
    (hge : m * 2 ^ u * den ≤ num + n * 2 ^ u * den)
    (hedge : 0 < u → fractionBound ≤ m → m < fractionBound + n →
      2 * (m * 2 ^ u * den) ≤ 2 * num + (n + (m - fractionBound)) * 2 ^ u * den) :
    packMagnitude m u ≤ nearestMagnitude num den + n := by
  by_cases hsame : u = 0 ∨ fractionBound + n ≤ m
  · exact le_nearestMagnitude_add_same h hden hsame hge
  · obtain ⟨hu, hlt⟩ := not_or.1 hsame
    have hm : fractionBound ≤ m := h.filled.resolve_left hu
    obtain ⟨v, rfl⟩ : ∃ v, u = v + 1 := Nat.exists_eq_succ_of_ne_zero hu
    have hlt' : m < fractionBound + n := Nat.not_le.1 hlt
    exact le_nearestMagnitude_add_finer h hden hn hm hlt' (hedge (Nat.succ_pos v) hm hlt')

/-! ## Order -/

/-- The place of a number among all numbers, counted from zero. -/
def rank (x : Binary64) : Int :=
  if x.isNegative then -((x.bits.toNat % signBit : Nat) : Int) else (x.bits.toNat % signBit : Nat)

theorem rank_pack (negative : Bool) {b : Nat} (h : b < signBit) :
    (pack negative b).rank = if negative then -(b : Int) else b := by
  rw [rank, isNegative_pack negative h, pack_toNat negative h]
  cases negative
  · simp [Nat.mod_eq_of_lt h]
  · simp [Nat.mod_eq_of_lt h]

/-- Magnitudes of finite numbers are in the order of their bits. -/
theorem magnitude_le_iff (hx : x.isFinite = true) (hy : y.isFinite = true) :
    x.magnitude ≤ y.magnitude ↔ x.bits.toNat % signBit ≤ y.bits.toNat % signBit := by
  have hmono : ∀ {v w : Binary64}, v.isFinite = true → w.isFinite = true →
      v.magnitude ≤ w.magnitude → v.bits.toNat % signBit ≤ w.bits.toNat % signBit := by
    intro v w hv hw hle
    have hround := nearestMagnitude_mono Nat.one_pos Nat.one_pos (Nat.mul_le_mul_right 1 hle)
    have hself := fun {z : Binary64} (hz : z.isFinite = true) =>
      nearestMagnitude_exact (fits hz) Nat.one_pos
    simp only [magnitude, Nat.pow_eq, Nat.mul_one] at hround hself
    rwa [hself hv, hself hw, ← bits_mod_signBit hv, ← bits_mod_signBit hw] at hround
  refine ⟨hmono hx hy, fun hle => ?_⟩
  rcases Nat.le_total x.magnitude y.magnitude with h | h
  · exact h
  · -- Equal bits are equal magnitudes.
    have hbits := Nat.le_antisymm hle (hmono hy hx h)
    rw [bits_mod_signBit hx, bits_mod_signBit hy] at hbits
    have hmag := magnitude_pack false (fits hx)
    rw [hbits, magnitude_pack false (fits hy)] at hmag
    exact Nat.le_of_eq hmag.symm

theorem isNaN_of_isFinite (h : x.isFinite = true) : x.isNaN = false := by
  have hne : x.exponentField ≠ 2047 := by simpa [isFinite] using h
  simp [isNaN, hne]

/-- **The order of numbers.** One finite number is at most another where its place is. -/
theorem le_iff_rank (hx : x.isFinite = true) (hy : y.isFinite = true) :
    x.le y = true ↔ x.rank ≤ y.rank := by
  have hzero : ∀ {v : Binary64}, v.isFinite = true →
      (v.magnitude = 0 ↔ v.bits.toNat % signBit = 0) := by
    intro v hv
    have hle := magnitude_le_iff hv (by decide : zero.isFinite = true)
    rw [show zero.magnitude = 0 by decide, show zero.bits.toNat % signBit = 0 by decide] at hle
    simpa using hle
  have hxy := magnitude_le_iff hx hy
  have hyx := magnitude_le_iff hy hx
  have hx0 := hzero hx
  have hy0 := hzero hy
  have hscaled : x.le y = true ↔ x.scaled ≤ y.scaled := by simp [le, isNaN_of_isFinite hx, isNaN_of_isFinite hy]
  rw [hscaled, scaled, scaled, rank, rank]
  generalize x.bits.toNat % signBit = a at *
  generalize y.bits.toNat % signBit = b at *
  split_ifs <;> omega

end Predictor.Binary64
