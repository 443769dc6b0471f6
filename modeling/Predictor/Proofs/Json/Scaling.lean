import Predictor.Json.Numeral
import Predictor.Proofs.Binary64.Shortest

/-!
The value of a numeral: a significand, rounded, times or divided by a rounded power of ten. The
result is finite when there is one (`scaledByPower?_isFinite`), it is the nearest number when
significand and power are numbers themselves (`scaledByPower?_exact`), and a decimal in the rounding
interval of a finite number always has a value (`isSome_of_contains`), with one exception that is
no shortest decimal.
-/

namespace Predictor.Binary64

variable {x y : Binary64} {m u num den : Nat} {d : Decimal}

/-! ## Finite results -/

theorem magnitude_le (hx : x.isFinite = true) : x.magnitude ≤ largestMagnitude :=
  Nat.mul_le_mul (Nat.le_sub_one_of_lt (fits hx).significand_lt)
    (Nat.pow_le_pow_right (by decide) (fits hx).unit_le)

theorem nearestMagnitude_lt (hden : 0 < den) (h : num ≤ largestMagnitude * den) :
    nearestMagnitude num den < 2047 * fractionBound := by
  have hfits : Fits (2 * fractionBound - 1) 2045 := ⟨by decide, by decide, by decide⟩
  refine Nat.lt_of_le_of_lt ?_ (packMagnitude_lt hfits)
  rw [← nearestMagnitude_exact hfits hden]
  exact nearestMagnitude_mono hden hden (Nat.mul_le_mul_right den h)

theorem nearestMagnitude_le (num den : Nat) : nearestMagnitude num den ≤ 2047 * fractionBound :=
  min_le_left _ _

theorem isFinite_nearest :
    (pack false (nearestMagnitude num den)).isFinite = true ↔
      nearestMagnitude num den < 2047 * fractionBound := by
  refine ⟨fun h => ?_, isFinite_pack false⟩
  refine Nat.lt_of_le_of_ne (nearestMagnitude_le num den) fun heq => ?_
  rw [heq] at h
  exact absurd h (by decide)

theorem isNegative_nearest : (pack false (nearestMagnitude num den)).isNegative = false := by
  refine isNegative_pack false (Nat.lt_of_le_of_lt (nearestMagnitude_le num den) ?_)
  decide

theorem isFinite_ofNat {n : Nat} (h : n < 2 ^ 64) : (ofNat n).isFinite = true := by
  refine isFinite_nearest.2 (nearestMagnitude_lt Nat.one_pos ?_)
  rw [Nat.mul_one]
  have hten : n ≤ 10 ^ 308 := by
    calc n ≤ 10 ^ 20 := Nat.le_trans (Nat.le_of_lt h) (by decide)
      _ ≤ 10 ^ 308 := Nat.pow_le_pow_right (by decide) (by decide)
  exact Nat.le_trans (Nat.mul_le_mul_right _ hten) sizes.2.2

theorem isFinite_divMagnitude (hx : x.isFinite = true) (hy : unitsOfOne ≤ y.magnitude) :
    (x.divMagnitude y).isFinite = true := by
  refine isFinite_nearest.2 (nearestMagnitude_lt (Nat.lt_of_lt_of_le unitsOfOne_pos hy) ?_)
  exact Nat.mul_le_mul (magnitude_le hx) hy

/-! ## Exact results -/

/-- The number nearest to a decimal. -/
def Decimal.nearest (d : Decimal) : Binary64 :=
  pack false (nearestMagnitude (d.digits * (gridUnit d.exponent).1) (4 * (gridUnit d.exponent).2))

/-- A decimal in the rounding interval of a finite number is nearest to that number. -/
theorem RoundingInterval.Contains.nearestMagnitude_eq (h : (roundingInterval x).Contains d)
    (hx : x.isFinite = true) :
    nearestMagnitude (d.digits * (gridUnit d.exponent).1) (4 * (gridUnit d.exponent).2) =
      packMagnitude x.significand x.unit := by
  have hden := (gridUnit_pos d.exponent).2
  have hden' : 0 < 4 * (gridUnit d.exponent).2 := Nat.mul_pos (by decide) hden
  exact nearestMagnitude_of_holds hx hden' (holds_congr hden hden' (by ring) h)

theorem magnitude_ofNat {n : Nat} (h : n < 2 * fractionBound) :
    (ofNat n).magnitude = n * unitsOfOne := by
  obtain ⟨m, u, hfits, hvalue⟩ : ∃ m u, Fits m u ∧ m * 2 ^ u = n * unitsOfOne := by
    rcases Nat.eq_zero_or_pos n with rfl | hn
    · exact ⟨0, 0, ⟨by decide, by decide, .inl rfl⟩, by simp⟩
    · have hlog : n.log2 < 53 := (Nat.log2_lt hn.ne').2 h
      have hsplit : ∀ a b : Nat, 2 ^ a * 2 ^ b = 2 ^ (a + b) := fun a b => (pow_add 2 a b).symm
      refine ⟨n * 2 ^ (52 - n.log2), 1022 + n.log2, ⟨?_, by omega, .inr ?_⟩, ?_⟩
      · calc n * 2 ^ (52 - n.log2) < 2 ^ (n.log2 + 1) * 2 ^ (52 - n.log2) :=
              Nat.mul_lt_mul_of_pos_right Nat.lt_log2_self (Nat.two_pow_pos _)
          _ = 2 * fractionBound := by
              rw [hsplit, show n.log2 + 1 + (52 - n.log2) = 53 by omega]
              rfl
      · calc fractionBound = 2 ^ n.log2 * 2 ^ (52 - n.log2) := by
              rw [hsplit, show n.log2 + (52 - n.log2) = 52 by omega]
              rfl
          _ ≤ n * 2 ^ (52 - n.log2) := Nat.mul_le_mul_right _ (Nat.log2_self_le hn.ne')
      · rw [Nat.mul_assoc, hsplit, show 52 - n.log2 + (1022 + n.log2) = 1074 by omega]
        rfl
  have hpack : ofNat n = pack false (packMagnitude m u) := by
    rw [← nearestMagnitude_exact hfits Nat.one_pos, Nat.mul_one, hvalue]
    rfl
  rw [hpack, magnitude_pack false hfits, hvalue]

/-! ## Monotonicity -/

theorem magnitude_mono {b b' : Nat} (h : b ≤ b') (hb' : b' < 2047 * fractionBound) :
    (pack false b).magnitude ≤ (pack false b').magnitude := by
  have hlt : ∀ c, c < 2047 * fractionBound → c < signBit := fun c hc =>
    Nat.lt_trans hc (by decide)
  have hb : b < 2047 * fractionBound := Nat.lt_of_le_of_lt h hb'
  have hx := fits (isFinite_pack false hb)
  have hy := fits (isFinite_pack false hb')
  have hbits := bits_mod_signBit (isFinite_pack false hb)
  have hbits' := bits_mod_signBit (isFinite_pack false hb')
  rw [pack_toNat false (hlt b hb), packMagnitude_of_fits hx] at hbits
  rw [pack_toNat false (hlt b' hb'), packMagnitude_of_fits hy] at hbits'
  simp only [Bool.false_eq_true, if_false, Nat.add_zero, Nat.mod_eq_of_lt (hlt b hb),
    Nat.mod_eq_of_lt (hlt b' hb')] at hbits hbits'
  simp only [magnitude, Nat.pow_eq]
  generalize (pack false b).significand = m at *
  generalize (pack false b').significand = m' at *
  generalize (pack false b).unit = u at *
  generalize (pack false b').unit = u' at *
  rcases Nat.lt_trichotomy u u' with hlt | rfl | hgt
  · calc m * 2 ^ u ≤ 2 * fractionBound * 2 ^ u :=
          Nat.mul_le_mul_right _ (Nat.le_of_lt hx.significand_lt)
      _ = fractionBound * 2 ^ (u + 1) := by ring
      _ ≤ m' * 2 ^ u' :=
          Nat.mul_le_mul (hy.filled.resolve_left (by omega))
            (Nat.pow_le_pow_right (by decide) hlt)
  · refine Nat.mul_le_mul_right _ ?_
    have hfield : fractionBound ≤ (u + 1) * fractionBound :=
      Nat.le_mul_of_pos_left _ (Nat.succ_pos u)
    split_ifs at hbits hbits' <;> omega
  · exfalso
    have hm := hx.filled.resolve_left (by omega)
    have hm' := hy.significand_lt
    have hstep : (u' + 1 + 1) * fractionBound ≤ (u + 1) * fractionBound :=
      Nat.mul_le_mul_right _ (by omega)
    rw [Nat.add_one_mul (u' + 1)] at hstep
    rw [if_neg (Nat.not_lt.2 hm)] at hbits
    split_ifs at hbits' <;> omega

end Predictor.Binary64

namespace Predictor.Json.Numeral

open Binary64

variable {x y : Binary64} {s : Nat} {e : Int} {d : Decimal}

/-! ## Powers of ten -/

theorem powerOfTen_lt {e : Nat} (h : e ≤ 308) :
    nearestMagnitude (10 ^ e * unitsOfOne) 1 < 2047 * fractionBound := by
  refine nearestMagnitude_lt Nat.one_pos ?_
  rw [Nat.mul_one]
  refine Nat.le_trans (Nat.mul_le_mul_right _ ?_) sizes.2.2
  exact Nat.pow_le_pow_right (by decide) h

/-- The powers up to the 22nd are exact. -/
theorem magnitude_powerOfTen {e : Nat} (h : e ≤ 22) :
    (powerOfTen e).magnitude = 10 ^ e * unitsOfOne := by
  have hall : ∀ e < 23, (powerOfTen e).magnitude = 10 ^ e * unitsOfOne := by decide +kernel
  exact hall e (Nat.lt_succ_of_le h)

/-- The powers up to the 308th are not below one. -/
theorem le_powerOfTen {e : Nat} (h : e ≤ 308) : unitsOfOne ≤ (powerOfTen e).magnitude := by
  have hone : (powerOfTen 0).magnitude = unitsOfOne := by
    simpa only [Nat.pow_zero, Nat.one_mul] using magnitude_powerOfTen (Nat.zero_le 22)
  refine Nat.le_trans (Nat.le_of_eq hone.symm) ?_
  refine magnitude_mono (nearestMagnitude_mono Nat.one_pos Nat.one_pos ?_) (powerOfTen_lt h)
  simp only [Nat.mul_one]
  exact Nat.mul_le_mul_right _ (Nat.pow_le_pow_right (by decide) (Nat.zero_le e))

/-! ## Finite results -/

theorem isFinite_dividedByPower (hx : x.isFinite = true) (e : Nat) :
    (dividedByPower x e).isFinite = true := by
  unfold dividedByPower
  split_ifs with hone htwo
  · exact isFinite_divMagnitude hx (le_powerOfTen hone)
  · refine isFinite_divMagnitude ?_ (le_powerOfTen (by omega))
    exact isFinite_divMagnitude hx (le_powerOfTen (Nat.le_refl _))
  · decide

theorem isNegative_dividedByPower (x : Binary64) (e : Nat) :
    (dividedByPower x e).isNegative = false := by
  unfold dividedByPower
  split_ifs
  · exact isNegative_nearest
  · exact isNegative_nearest
  · decide

/-- A significand under reading scaled by a power of ten is a finite number without a sign. -/
theorem scaledByPower?_isFinite (hs : s ≤ maxSignificand) (h : scaledByPower? s e = some y) :
    y.isFinite = true ∧ y.isNegative = false := by
  have hx : (ofNat s).isFinite = true := isFinite_ofNat (Nat.lt_succ_of_le hs)
  simp only [scaledByPower?] at h
  split_ifs at h with hneg hpow hfin hzero
  · obtain rfl := Option.some.inj h
    exact ⟨isFinite_dividedByPower hx _, isNegative_dividedByPower _ _⟩
  · obtain rfl := Option.some.inj h
    exact ⟨hfin, isNegative_nearest⟩
  · obtain rfl := Option.some.inj h
    exact ⟨by decide, by decide⟩

/-! ## Exact results -/

/-- **Exact reading.** A significand below 2^53 and a power of ten within 22 give the number nearest
to the decimal. -/
theorem scaledByPower?_exact (hs : s < 2 * fractionBound) (hlow : -22 ≤ e) (hhigh : e ≤ 22) :
    scaledByPower? s e = some (Decimal.nearest ⟨s, e⟩) := by
  simp only [scaledByPower?, Decimal.nearest, gridUnit, Nat.pow_eq]
  rcases Int.lt_or_le e 0 with hneg | hnonneg
  · have hsmall : (-e).toNat ≤ 22 := by omega
    rw [if_pos hneg, if_neg (Int.not_le.2 hneg), dividedByPower, if_pos (by omega), divMagnitude,
      magnitude_ofNat hs, magnitude_powerOfTen hsmall, nearestMagnitude_scale unitsOfOne_pos,
      show s * (4 * unitsOfOne) = s * unitsOfOne * 4 by ring, Nat.mul_comm 4,
      nearestMagnitude_scale (by decide)]
  · have hsmall : e.toNat ≤ 22 := by omega
    rw [if_neg (Int.not_lt.2 hnonneg), if_pos hnonneg, if_pos (by omega), mulMagnitude,
      magnitude_ofNat hs, magnitude_powerOfTen hsmall]
    have hvalue : nearestMagnitude (s * unitsOfOne * (10 ^ e.toNat * unitsOfOne)) unitsOfOne =
        nearestMagnitude (s * (4 * unitsOfOne * 10 ^ e.toNat)) (4 * 1) := by
      rw [show s * unitsOfOne * (10 ^ e.toNat * unitsOfOne) =
          s * 10 ^ e.toNat * unitsOfOne * unitsOfOne by ring]
      rw [show s * (4 * unitsOfOne * 10 ^ e.toNat) = s * 10 ^ e.toNat * unitsOfOne * 4 by ring]
      rw [Nat.mul_comm 4 1, nearestMagnitude_scale (show 0 < 4 by decide)]
      have hscale : nearestMagnitude (s * 10 ^ e.toNat * unitsOfOne * unitsOfOne) (1 * unitsOfOne) =
          nearestMagnitude (s * 10 ^ e.toNat * unitsOfOne) 1 := nearestMagnitude_scale unitsOfOne_pos
      rwa [Nat.one_mul] at hscale
    rw [hvalue, if_pos]
    refine isFinite_nearest.2 (nearestMagnitude_lt (by decide) ?_)
    have hten : s * 10 ^ e.toNat ≤ 10 ^ 308 := by
      calc s * 10 ^ e.toNat ≤ 10 ^ 16 * 10 ^ 22 :=
            Nat.mul_le_mul (Nat.le_trans (Nat.le_of_lt hs) (by decide))
              (Nat.pow_le_pow_right (by decide) hsmall)
        _ ≤ 10 ^ 308 := by
            rw [← Nat.pow_add]
            exact Nat.pow_le_pow_right (by decide) (by decide)
    have hlarge := Nat.le_trans (Nat.mul_le_mul_right unitsOfOne hten) sizes.2.2
    calc s * (4 * unitsOfOne * 10 ^ e.toNat) = s * 10 ^ e.toNat * unitsOfOne * (4 * 1) := by ring
      _ ≤ largestMagnitude * (4 * 1) := Nat.mul_le_mul_right _ hlarge

theorem scaledByPower?_of_contains (h : (roundingInterval x).Contains d) (hx : x.isFinite = true)
    (hdigits : d.digits < 2 * fractionBound) (hlow : -22 ≤ d.exponent) (hhigh : d.exponent ≤ 22) :
    scaledByPower? d.digits d.exponent = some (pack false (packMagnitude x.significand x.unit)) := by
  rw [scaledByPower?_exact hdigits hlow hhigh, ← h.nearestMagnitude_eq hx]
  rfl

/-! ## No overflow -/

theorem isFinite_mulMagnitude_mono {x' y' : Binary64} (hx : x.magnitude ≤ x'.magnitude)
    (hy : y.magnitude ≤ y'.magnitude) (h : (x'.mulMagnitude y').isFinite = true) :
    (x.mulMagnitude y).isFinite = true := by
  refine isFinite_nearest.2 (Nat.lt_of_le_of_lt ?_ (isFinite_nearest.1 h))
  exact nearestMagnitude_mono unitsOfOne_pos unitsOfOne_pos
    (Nat.mul_le_mul_right _ (Nat.mul_le_mul hx hy))

theorem magnitude_ofNat_mono {n n' : Nat} (h : n ≤ n') (hn' : n' < 2 ^ 64) :
    (ofNat n).magnitude ≤ (ofNat n').magnitude := by
  refine magnitude_mono (nearestMagnitude_mono Nat.one_pos Nat.one_pos ?_)
    (isFinite_nearest.1 (isFinite_ofNat hn'))
  simp only [Nat.mul_one]
  exact Nat.mul_le_mul_right _ h

/-- A smaller significand and a smaller power give no overflow either. -/
theorem scaledByPower?_isSome_mono {s' : Nat} {e e' : Nat} (hs : s ≤ s') (hs' : s' < 2 ^ 64)
    (he : e ≤ e') (he' : e' ≤ 308) (h : (scaledByPower? s' e').isSome = true) :
    (scaledByPower? s e).isSome = true := by
  have hpower : (powerOfTen e).magnitude ≤ (powerOfTen e').magnitude := by
    refine magnitude_mono (nearestMagnitude_mono Nat.one_pos Nat.one_pos ?_) (powerOfTen_lt he')
    simp only [Nat.mul_one]
    exact Nat.mul_le_mul_right _ (Nat.pow_le_pow_right (by decide) he)
  simp only [scaledByPower?, Int.toNat_natCast] at h ⊢
  rw [if_neg (by omega), if_pos (by omega)] at h ⊢
  split at h
  · rename_i hfin
    rw [if_pos (isFinite_mulMagnitude_mono (magnitude_ofNat_mono hs hs') hpower hfin)]
    rfl
  · simp at h

/-- The most digits, as a number, that a decimal of at most seventeen digits in a rounding interval
has in front of a power of ten. In front of the 292nd stands one digit less than the interval of the
largest number would allow. -/
def mostDigits (e : Nat) : Nat :=
  if e = 292 then 17976931348623157
  else min (10 ^ 17) ((4 * largestMagnitude + 2 * 2 ^ 2045) / (4 * unitsOfOne * 10 ^ e))

theorem mostDigits_le (e : Nat) : mostDigits e ≤ 10 ^ 17 := by
  unfold mostDigits
  split_ifs
  · decide
  · exact min_le_left _ _

/-- At the upper end: every decimal of most digits has a value, below the 292nd power all seventeen
digits do, and the decimal left out rounds to the largest number, whose shortest decimal is another. -/
theorem upper_end :
    (∀ j < 18, (scaledByPower? (mostDigits (291 + j)) (291 + j : Nat)).isSome = true) ∧
    mostDigits 291 = 10 ^ 17 ∧
    (4 * largestMagnitude + 2 * 2 ^ 2045) / (4 * unitsOfOne * 10 ^ 292) = 17976931348623158 ∧
    nearestMagnitude (17976931348623158 * (gridUnit 292).1) (4 * (gridUnit 292).2) =
      2047 * fractionBound - 1 ∧
    ∀ negative, (pack negative (2047 * fractionBound - 1)).shortest.digits ≠ 17976931348623158 := by
  decide +kernel

theorem mostDigits_isSome {e : Nat} (hlow : 291 ≤ e) (h : e ≤ 308) :
    (scaledByPower? (mostDigits e) e).isSome = true := by
  have hj := upper_end.1 (e - 291) (by omega)
  rwa [show 291 + (e - 291) = e by omega] at hj

/-- **No overflow.** Decimals in the rounding interval of a finite number have a finite value. -/
theorem isSome_of_contains (h : (roundingInterval x).Contains d) (hx : x.isFinite = true)
    (hpos : 0 < d.digits) (hle : d.digits ≤ 10 ^ 17)
    (hne : ¬(d.digits = 17976931348623158 ∧ d.exponent = 292)) :
    (scaledByPower? d.digits d.exponent).isSome = true := by
  rcases Int.lt_or_le d.exponent 0 with hneg | hnonneg
  · simp [scaledByPower?, hneg]
  · have hexp := h.exponent_le hx hpos
    obtain ⟨e, he⟩ := Int.eq_ofNat_of_zero_le hnonneg
    rw [he] at hexp hne ⊢
    have hlarge : (10 : Nat) ^ 17 < 2 ^ 64 := by decide
    have hbound : d.digits ≤ (4 * largestMagnitude + 2 * 2 ^ 2045) / (4 * unitsOfOne * 10 ^ e) := by
      have hhigh := ((RoundingInterval.holds_iff _ _ _).1 h).2.1
      have hunit : 2 ^ x.unit ≤ 2 ^ 2045 := Nat.pow_le_pow_right (by decide) (fits hx).unit_le
      have hmag := magnitude_le hx
      have hunits : 0 < 4 * unitsOfOne := Nat.mul_pos (by decide) unitsOfOne_pos
      refine (Nat.le_div_iff_mul_le (Nat.mul_pos hunits (Nat.pow_pos (by decide)))).2 ?_
      simp only [he, gridUnit_natCast, Nat.mul_one, roundingInterval, Nat.pow_eq] at hhigh
      generalize 2 ^ 2045 = top at *
      omega
    rcases Nat.lt_or_ge e 291 with hsmall | hlow
    · have htop := mostDigits_isSome (show 291 ≤ 291 by decide) (by decide)
      rw [upper_end.2.1] at htop
      exact scaledByPower?_isSome_mono hle hlarge (Nat.le_of_lt hsmall) (by decide) htop
    · have hmost := Nat.lt_of_le_of_lt (mostDigits_le e) hlarge
      refine scaledByPower?_isSome_mono ?_ hmost (Nat.le_refl e) (by omega)
        (mostDigits_isSome hlow (by omega))
      unfold mostDigits
      split
      · rename_i h292
        subst h292
        rw [upper_end.2.2.1] at hbound
        have hne' : d.digits ≠ 17976931348623158 := fun hd => hne ⟨hd, rfl⟩
        omega
      · exact Nat.le_min.2 ⟨hle, hbound⟩

/-- The one decimal in an interval that overflows is not the shortest one of its number. -/
theorem shortest_ne (hx : x.isFinite = true) (hpos : 0 < x.significand) :
    ¬(x.shortest.digits = 17976931348623158 ∧ x.shortest.exponent = 292) := by
  rintro ⟨hdigits, hexp⟩
  have hcontains := (shortest_spec hx hpos).1
  have hbits := hcontains.nearestMagnitude_eq hx
  obtain ⟨-, -, -, hlargest, heval⟩ := upper_end
  rw [hdigits, hexp, hlargest] at hbits
  refine heval x.isNegative ?_
  rw [hbits, pack_significand_unit hx, hdigits]

end Predictor.Json.Numeral
