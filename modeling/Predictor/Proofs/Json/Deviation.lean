import Mathlib.Algebra.Order.Field.Basic
import Mathlib.Data.Rat.Cast.Order
import Mathlib.Tactic.FieldSimp
import Mathlib.Tactic.Linarith
import Mathlib.Tactic.Positivity
import Predictor.Proofs.Json.NumberText

/-!
How far the number that comes back is from the number written. Every rounding on the way is off by at
most one part in 2^53 (`Near`): of the significand, of the power of ten, and of a first quotient when
the power is taken in two steps. The decimal itself is within half a unit of the number, so what is
read is at most five numbers away from it (`reread_apart_five`), and at most three when one power of
ten is enough (`reread_apart_three`).
-/

namespace Predictor.Json

open Binary64 Numeral

variable {x y : Binary64} {s : Nat} {d : Decimal}

/-! ## Relative errors -/

/-- One part in 2^53. -/
def part : ℚ := 1 / 9007199254740992

/-- `a` is off from `b` by at most `k` times `b`. -/
structure Near (k a b : ℚ) : Prop where
  low : b * (1 - k) ≤ a
  high : a ≤ b * (1 + k)

theorem part_pos : 0 < part := by norm_num [part]

theorem part_le : part ≤ 1 / 100 := by norm_num [part]

theorem Near.pos {k a b : ℚ} (h : Near k a b) (hb : 0 < b) (hk : k ≤ 1 / 100) : 0 < a :=
  lt_of_lt_of_le (mul_pos hb (by linarith)) h.low

theorem Near.mul {k a b c d : ℚ} (h : Near k a b) (h' : Near part c d) (hb : 0 < b) (hd : 0 < d)
    (hk : 0 ≤ k) (hsmall : k ≤ 1 / 100) : Near (k + 51 / 50 * part) (a * c) (b * d) := by
  have hp := part_pos
  have hp' := part_le
  have hc := h'.pos hd hp'
  have hcross : k * part ≤ 1 / 100 * part := mul_le_mul_of_nonneg_right hsmall hp.le
  have hcross' : 0 ≤ k * part := mul_nonneg hk hp.le
  constructor
  · calc b * d * (1 - (k + 51 / 50 * part)) ≤ b * d * (1 - k - part + k * part) :=
          mul_le_mul_of_nonneg_left (by linarith) (mul_pos hb hd).le
      _ = b * (1 - k) * (d * (1 - part)) := by ring
      _ ≤ a * c := mul_le_mul h.low h'.low (mul_nonneg hd.le (by linarith)) (h.pos hb hsmall).le
  · calc a * c ≤ b * (1 + k) * (d * (1 + part)) :=
          mul_le_mul h.high h'.high hc.le (mul_nonneg hb.le (by linarith))
      _ = b * d * (1 + k + part + k * part) := by ring
      _ ≤ b * d * (1 + (k + 51 / 50 * part)) :=
          mul_le_mul_of_nonneg_left (by linarith) (mul_pos hb hd).le

theorem Near.div {k a b c d : ℚ} (h : Near k a b) (h' : Near part c d) (hb : 0 < b) (hd : 0 < d)
    (hk : 0 ≤ k) (hsmall : k ≤ 1 / 100) : Near (k + 51 / 50 * part) (a / c) (b / d) := by
  have hp := part_pos
  have hp' := part_le
  have hc := h'.pos hd hp'
  have hcross : k * part ≤ 1 / 100 * part := mul_le_mul_of_nonneg_right hsmall hp.le
  have hcross' : 0 ≤ k * part := mul_nonneg hk hp.le
  have hsquare : part * part ≤ 1 / 1000 * part := by norm_num [part]
  have hsquare' : 0 ≤ part * part := (mul_pos hp hp).le
  constructor
  · rw [le_div_iff₀ hc]
    have hscale : 0 ≤ b / d * (1 - (k + 51 / 50 * part)) :=
      mul_nonneg (div_pos hb hd).le (by linarith)
    calc b / d * (1 - (k + 51 / 50 * part)) * c
        ≤ b / d * (1 - (k + 51 / 50 * part)) * (d * (1 + part)) :=
          mul_le_mul_of_nonneg_left h'.high hscale
      _ = b * ((1 - (k + 51 / 50 * part)) * (1 + part)) := by field_simp
      _ ≤ b * (1 - k) := mul_le_mul_of_nonneg_left (by linarith) hb.le
      _ ≤ a := h.low
  · rw [div_le_iff₀ hc]
    have hscale : 0 ≤ b / d * (1 + (k + 51 / 50 * part)) :=
      mul_nonneg (div_pos hb hd).le (by linarith)
    calc a ≤ b * (1 + k) := h.high
      _ ≤ b * ((1 + (k + 51 / 50 * part)) * (1 - part)) :=
          mul_le_mul_of_nonneg_left (by linarith) hb.le
      _ = b / d * (1 + (k + 51 / 50 * part)) * (d * (1 - part)) := by field_simp
      _ ≤ b / d * (1 + (k + 51 / 50 * part)) * c := mul_le_mul_of_nonneg_left h'.low hscale

/-! ## Rounded significands and powers -/

theorem near_ofNat {n : Nat} (hn : 0 < n)
    (hfin : nearestMagnitude (n * unitsOfOne) 1 < 2047 * fractionBound) :
    Near part (ofNat n).magnitude (n * unitsOfOne) := by
  have hlarge : fractionBound ≤ unitsOfOne := by
    rw [unitsOfOne_eq, show fractionBound = 2 ^ 52 by decide]
    exact Nat.pow_le_pow_right (by decide) (by decide)
  have hnormal : fractionBound * 1 ≤ n * unitsOfOne := by
    rw [Nat.mul_one]
    exact Nat.le_trans hlarge (Nat.le_mul_of_pos_left _ hn)
  obtain ⟨hlow, hhigh⟩ := nearest_error_of_normal Nat.one_pos hnormal hfin
  have hnum : (ofNat n).magnitude =
      (pack false (nearestMagnitude (n * unitsOfOne) 1)).magnitude := rfl
  rw [← hnum, Nat.mul_one] at hlow hhigh
  simp only [fractionBound] at hlow hhigh
  have hlow' : (9007199254740991 : ℚ) * (n * unitsOfOne) ≤
      9007199254740992 * (ofNat n).magnitude := by exact_mod_cast hlow
  have hhigh' : (9007199254740992 : ℚ) * (ofNat n).magnitude ≤
      9007199254740993 * (n * unitsOfOne) := by exact_mod_cast hhigh
  generalize (n : ℚ) * unitsOfOne = exact at *
  constructor
  · rw [part]
    linarith
  · rw [part]
    linarith

theorem near_significand (hs : 0 < s) (hfit : s ≤ maxSignificand) :
    Near part (ofNat s).magnitude (s * unitsOfOne) :=
  near_ofNat hs (isFinite_nearest.1 (isFinite_ofNat (Nat.lt_succ_of_le hfit)))

theorem near_powerOfTen {e : Nat} (h : e ≤ 308) :
    Near part (powerOfTen e).magnitude (10 ^ e * unitsOfOne) := by
  have hnear := near_ofNat (n := 10 ^ e) (Nat.pow_pos (by decide)) (powerOfTen_lt h)
  push_cast at hnear
  exact hnear

/-! ## The value that is rounded last -/

/-- The value of a decimal in units of 2^-1074. -/
def value (d : Decimal) : ℚ := d.digits * (gridUnit d.exponent).1 / (4 * (gridUnit d.exponent).2)

theorem value_natCast (s e : Nat) : value ⟨s, e⟩ = s * unitsOfOne * 10 ^ e := by
  simp only [value, gridUnit_natCast]
  push_cast
  ring

theorem value_neg {e : Nat} (he : 0 < e) (s : Nat) :
    value ⟨s, -(e : Int)⟩ = s * unitsOfOne / 10 ^ e := by
  have hgrid : gridUnit (-(e : Int)) = (4 * unitsOfOne, 10 ^ e) := by
    rw [gridUnit, if_neg (by omega), neg_neg, Int.toNat_natCast, Nat.pow_eq]
  simp only [value, hgrid]
  push_cast
  generalize (unitsOfOne : ℚ) = u
  field_simp

/-- The number is rounded from a fraction that is off from a decimal by `k` parts in 2^53 at most,
and a little where numbers get no finer. -/
def Close (k : ℚ) (d : Decimal) (y : Binary64) : Prop :=
  ∃ num den : Nat, 0 < den ∧ y = pack false (nearestMagnitude num den) ∧
    value d * (1 - k * part) - 1 / 16 ≤ num / den ∧ (num / den : ℚ) ≤ value d * (1 + k * part) + 1 / 16

theorem Near.close {k : ℚ} {num den : Nat} (hden : 0 < den)
    (h : Near (k * part) (num / den) (value d)) :
    Close k d (pack false (nearestMagnitude num den)) :=
  ⟨num, den, hden, rfl, by linarith [h.low], by linarith [h.high]⟩

theorem Near.weaken {k k' a b : ℚ} (h : Near k a b) (hb : 0 < b) (hk : k ≤ k') : Near k' a b :=
  ⟨le_trans (mul_le_mul_of_nonneg_left (by linarith) hb.le) h.low,
    le_trans h.high (mul_le_mul_of_nonneg_left (by linarith) hb.le)⟩

theorem Near.scale {k a b c : ℚ} (h : Near k a b) (hc : 0 < c) : Near k (a * c) (b * c) :=
  ⟨by linarith [mul_le_mul_of_nonneg_right h.low hc.le],
    by linarith [mul_le_mul_of_nonneg_right h.high hc.le]⟩

theorem unitsOfOne_pos' : (0 : ℚ) < unitsOfOne := by exact_mod_cast unitsOfOne_pos

/-- Times a power of ten. -/
theorem close_mul {e : Nat} (hs : 0 < s) (hfit : s ≤ maxSignificand) (he : e ≤ 308) :
    Close (21 / 10) ⟨s, e⟩ ((ofNat s).mulMagnitude (powerOfTen e)) := by
  have hs' : (0 : ℚ) < s := by exact_mod_cast hs
  have hunits := unitsOfOne_pos'
  have hten : (0 : ℚ) < 10 ^ e := by positivity
  have hp := part_pos
  have hnear := ((near_significand hs hfit).mul (near_powerOfTen he) (mul_pos hs' hunits)
    (mul_pos hten hunits) hp.le part_le).scale (inv_pos.2 hunits)
  have hvalue : value ⟨s, e⟩ = s * unitsOfOne * (10 ^ e * unitsOfOne) * (unitsOfOne : ℚ)⁻¹ := by
    rw [value_natCast]
    field_simp
  have hvalue_pos : 0 < value ⟨s, e⟩ := by
    rw [value_natCast]
    exact mul_pos (mul_pos hs' hunits) hten
  refine Near.close unitsOfOne_pos (Near.weaken ?_ hvalue_pos (?_ : part + 51 / 50 * part ≤ _))
  · rw [hvalue, Nat.cast_mul, div_eq_mul_inv]
    exact hnear
  · linarith

/-- The quotient by a power of ten, before it is rounded. -/
theorem near_quotient {e : Nat} (hs : 0 < s) (hfit : s ≤ maxSignificand) (he : e ≤ 308) :
    Near (part + 51 / 50 * part)
      ((((ofNat s).magnitude * unitsOfOne : Nat) : ℚ) / (powerOfTen e).magnitude)
      (s * unitsOfOne / 10 ^ e) := by
  have hs' : (0 : ℚ) < s := by exact_mod_cast hs
  have hunits := unitsOfOne_pos'
  have hten : (0 : ℚ) < 10 ^ e := by positivity
  have hnear := ((near_significand hs hfit).div (near_powerOfTen he) (mul_pos hs' hunits)
    (mul_pos hten hunits) part_pos.le part_le).scale hunits
  have hexact : (s * unitsOfOne / (10 ^ e * unitsOfOne) : ℚ) * unitsOfOne =
      s * unitsOfOne / 10 ^ e := by field_simp
  rw [hexact, div_mul_eq_mul_div ((ofNat s).magnitude : ℚ)] at hnear
  rw [Nat.cast_mul]
  exact hnear

theorem powerOfTen_pos {e : Nat} (he : e ≤ 308) : 0 < (powerOfTen e).magnitude :=
  Nat.lt_of_lt_of_le unitsOfOne_pos (le_powerOfTen he)

/-- Divided by a power of ten. -/
theorem close_div {e : Nat} (hpos : 0 < e) (hs : 0 < s) (hfit : s ≤ maxSignificand) (he : e ≤ 308) :
    Close (21 / 10) ⟨s, -(e : Int)⟩ ((ofNat s).divMagnitude (powerOfTen e)) := by
  have hs' : (0 : ℚ) < s := by exact_mod_cast hs
  have hvalue_pos : 0 < value ⟨s, -(e : Int)⟩ := by
    rw [value_neg hpos]
    exact div_pos (mul_pos hs' unitsOfOne_pos') (by positivity)
  refine Near.close (powerOfTen_pos he)
    (Near.weaken ?_ hvalue_pos (?_ : part + 51 / 50 * part ≤ _))
  · rw [value_neg hpos]
    exact near_quotient hs hfit he
  · linarith [part_pos]

theorem nearest_error_cast {num den : Nat} (hden : 0 < den)
    (hfin : nearestMagnitude num den < 2047 * fractionBound) :
    (num / den : ℚ) * (1 - part) - 1 / 2 ≤ (pack false (nearestMagnitude num den)).magnitude ∧
      ((pack false (nearestMagnitude num den)).magnitude : ℚ) ≤ num / den * (1 + part) + 1 / 2 := by
  obtain ⟨hlow, hhigh⟩ := nearest_error hden hfin
  generalize (pack false (nearestMagnitude num den)).magnitude = r at *
  have hden' : (0 : ℚ) < den := by exact_mod_cast hden
  simp only [fractionBound] at hlow hhigh
  have hlow' : (9007199254740991 : ℚ) * num ≤
      9007199254740992 * (r * den) + 4503599627370496 * den := by exact_mod_cast hlow
  have hhigh' : (9007199254740992 : ℚ) * (r * den) ≤
      9007199254740993 * num + 4503599627370496 * den := by exact_mod_cast hhigh
  constructor
  · rw [sub_le_iff_le_add, div_mul_eq_mul_div, div_le_iff₀ hden', part]
    linarith
  · rw [← sub_le_iff_le_add, div_mul_eq_mul_div, le_div_iff₀ hden', part]
    linarith

/-- A quotient that is rounded in the middle: what the numbers that get no finer add there is divided
by ten at least. -/
theorem near_twice {p q r c b u : ℚ} (h : Near (part + 51 / 50 * part) p q) (h' : Near part c b)
    (hlow : p * (1 - part) - 1 / 2 ≤ r) (hhigh : r ≤ p * (1 + part) + 1 / 2) (hq : 0 < q)
    (hb : 0 < b) (hu : 0 < u) (hlarge : 10 * u ≤ b) :
    q / b * u * (1 - 41 / 10 * part) - 1 / 16 ≤ r / c * u ∧
      r / c * u ≤ q / b * u * (1 + 41 / 10 * part) + 1 / 16 := by
  have hp := part_pos
  have hp' := part_le
  have hcross : part * part ≤ 1 / 1000 * part := by norm_num [part]
  have hcross' : 0 ≤ part * part := (mul_pos hp hp).le
  have hsmall : part + 51 / 50 * part ≤ 1 / 100 := by norm_num [part]
  have hc := h'.pos hb hp'
  have hnear := (h.div h' hq hb (by linarith) hsmall).scale hu
  have hvalue : 0 < q / b * u := mul_pos (div_pos hq hb) hu
  have hhalf : 1 / 2 / c * u ≤ 1 / 16 := by
    have hbound : 10 * u * (99 / 100) ≤ c :=
      calc 10 * u * (99 / 100) ≤ b * (99 / 100) :=
            mul_le_mul_of_nonneg_right hlarge (by norm_num)
        _ ≤ b * (1 - part) := mul_le_mul_of_nonneg_left (by linarith) hb.le
        _ ≤ c := h'.low
    rw [div_mul_eq_mul_div, div_le_iff₀ hc]
    linarith
  constructor
  · calc q / b * u * (1 - 41 / 10 * part) - 1 / 16
        ≤ q / b * u * ((1 - (part + 51 / 50 * part + 51 / 50 * part)) * (1 - part)) - 1 / 16 := by
          linarith [mul_le_mul_of_nonneg_left (show 1 - 41 / 10 * part ≤
            (1 - (part + 51 / 50 * part + 51 / 50 * part)) * (1 - part) by linarith) hvalue.le]
      _ = q / b * u * (1 - (part + 51 / 50 * part + 51 / 50 * part)) * (1 - part) - 1 / 16 := by ring
      _ ≤ p / c * u * (1 - part) - 1 / 2 / c * u := by
          linarith [mul_le_mul_of_nonneg_right hnear.low (show 0 ≤ 1 - part by linarith)]
      _ = (p * (1 - part) - 1 / 2) / c * u := by ring
      _ ≤ r / c * u := mul_le_mul_of_nonneg_right (div_le_div_of_nonneg_right hlow hc.le) hu.le
  · calc r / c * u ≤ (p * (1 + part) + 1 / 2) / c * u :=
          mul_le_mul_of_nonneg_right (div_le_div_of_nonneg_right hhigh hc.le) hu.le
      _ = p / c * u * (1 + part) + 1 / 2 / c * u := by ring
      _ ≤ q / b * u * (1 + (part + 51 / 50 * part + 51 / 50 * part)) * (1 + part) + 1 / 16 := by
          linarith [mul_le_mul_of_nonneg_right hnear.high (show 0 ≤ 1 + part by linarith)]
      _ = q / b * u * ((1 + (part + 51 / 50 * part + 51 / 50 * part)) * (1 + part)) + 1 / 16 := by ring
      _ ≤ q / b * u * (1 + 41 / 10 * part) + 1 / 16 := by
          linarith [mul_le_mul_of_nonneg_left (show (1 + (part + 51 / 50 * part + 51 / 50 * part)) *
            (1 + part) ≤ 1 + 41 / 10 * part by linarith) hvalue.le]

/-- Divided by two powers of ten, the first quotient rounded. -/
theorem close_div_twice {j : Nat} (hj : 0 < j) (hj' : j ≤ 308) (hs : 0 < s)
    (hfit : s ≤ maxSignificand) :
    Close (41 / 10) ⟨s, -((308 + j : Nat) : Int)⟩
      (((ofNat s).divMagnitude (powerOfTen 308)).divMagnitude (powerOfTen j)) := by
  have hs' : (0 : ℚ) < s := by exact_mod_cast hs
  have hunits := unitsOfOne_pos'
  have hten : (0 : ℚ) < 10 ^ 308 := by positivity
  have htenj : (0 : ℚ) < 10 ^ j := by positivity
  have hpower := powerOfTen_pos (e := 308) (Nat.le_refl _)
  have hpower' : (0 : ℚ) < (powerOfTen 308).magnitude := by exact_mod_cast hpower
  have hfirst : ((ofNat s).divMagnitude (powerOfTen 308)).isFinite = true :=
    isFinite_divMagnitude (isFinite_ofNat (Nat.lt_succ_of_le hfit)) (le_powerOfTen (Nat.le_refl _))
  obtain ⟨hlow, hhigh⟩ := nearest_error_cast hpower (isFinite_nearest.1 hfirst)
  have hquot := near_quotient (e := 308) hs hfit (Nat.le_refl _)
  refine ⟨((ofNat s).divMagnitude (powerOfTen 308)).magnitude * unitsOfOne, (powerOfTen j).magnitude,
    powerOfTen_pos hj', rfl, ?_⟩
  have hvalue : value ⟨s, -((308 + j : Nat) : Int)⟩ =
      s * unitsOfOne / 10 ^ 308 / (10 ^ j * unitsOfOne) * unitsOfOne := by
    rw [value_neg (by omega), pow_add]
    field_simp
  have hfraction : ((((ofNat s).divMagnitude (powerOfTen 308)).magnitude * unitsOfOne : Nat) : ℚ) /
      (powerOfTen j).magnitude = ((ofNat s).divMagnitude (powerOfTen 308)).magnitude /
        (powerOfTen j).magnitude * unitsOfOne := by
    push_cast
    ring
  rw [hvalue, hfraction]
  refine near_twice hquot (near_powerOfTen hj') hlow hhigh (div_pos (mul_pos hs' hunits) hten)
    (mul_pos htenj hunits) hunits ?_
  exact mul_le_mul_of_nonneg_right (le_self_pow₀ (by norm_num) hj.ne') hunits.le

theorem scaledByPower?_close (hs : 0 < d.digits) (hfit : d.digits ≤ maxSignificand)
    (hlow : -308 ≤ d.exponent) (h : scaledByPower? d.digits d.exponent = some y) :
    Close (21 / 10) d y := by
  obtain ⟨s, e⟩ := d
  simp only [scaledByPower?] at hs hfit hlow h
  rcases Int.lt_or_le e 0 with hneg | hnonneg
  · obtain ⟨j, rfl⟩ : ∃ j : Nat, e = -(j : Int) := ⟨(-e).toNat, by omega⟩
    rw [if_pos hneg, neg_neg, Int.toNat_natCast, dividedByPower, if_pos (by omega)] at h
    rw [← Option.some.inj h]
    exact close_div (by omega) hs hfit (by omega)
  · obtain ⟨j, rfl⟩ := Int.eq_ofNat_of_zero_le hnonneg
    rw [if_neg (Int.not_lt.2 hnonneg), Int.toNat_natCast] at h
    split_ifs at h with hpow hfin hzero
    · rw [← Option.some.inj h]
      exact close_mul hs hfit (by omega)
    · omega

theorem scaledByPower?_close_twice (hs : 0 < d.digits) (hfit : d.digits ≤ maxSignificand)
    (hlow : -616 ≤ d.exponent) (hhigh : d.exponent < -308)
    (h : scaledByPower? d.digits d.exponent = some y) : Close (41 / 10) d y := by
  obtain ⟨s, e⟩ := d
  simp only at hs hfit hlow hhigh h
  obtain ⟨j, rfl⟩ : ∃ j : Nat, e = -((308 + j : Nat) : Int) := ⟨(-e).toNat - 308, by omega⟩
  rw [scaledByPower?, if_pos (by omega), neg_neg, Int.toNat_natCast, dividedByPower,
    if_neg (by omega), if_pos (by omega), Nat.add_sub_cancel_left] at h
  rw [← Option.some.inj h]
  exact close_div_twice (by omega) (by omega) hs hfit

/-! ## Numbers apart -/

/-- A decimal in the rounding interval of a number is within half a unit of it, and at the least
significand of a unit within a quarter below. -/
theorem value_bounds (h : (roundingInterval x).Contains d) :
    (x.significand - 1 / 2) * 2 ^ x.unit ≤ value d ∧
      value d ≤ (x.significand + 1 / 2) * 2 ^ x.unit ∧
      (x.significand = fractionBound → 0 < x.unit →
        (x.significand - 1 / 4) * 2 ^ x.unit ≤ value d) := by
  obtain ⟨hlow, hhigh, -⟩ := (RoundingInterval.holds_iff _ _ _).1 h
  have hden := (gridUnit_pos d.exponent).2
  have hden' : (0 : ℚ) < (gridUnit d.exponent).2 := by exact_mod_cast hden
  have hvalue : value d * (4 * (gridUnit d.exponent).2) = d.digits * (gridUnit d.exponent).1 := by
    rw [value, div_mul_cancel₀]
    positivity
  have hlow' : ((roundingInterval x).low : ℚ) ≤ value d * 4 := by
    refine le_of_mul_le_mul_right (?_ : _ * ((gridUnit d.exponent).2 : ℚ) ≤ _) hden'
    rw [mul_assoc, hvalue]
    exact_mod_cast hlow
  have hhigh' : value d * 4 ≤ ((roundingInterval x).high : ℚ) := by
    refine le_of_mul_le_mul_right (?_ : _ * ((gridUnit d.exponent).2 : ℚ) ≤ _) hden'
    rw [mul_assoc, hvalue]
    exact_mod_cast hhigh
  have hbelow : 4 * (x.significand * 2 ^ x.unit) ≤ (roundingInterval x).low + 2 * 2 ^ x.unit := by
    simp only [roundingInterval, magnitude, Nat.pow_eq]
    split_ifs <;> omega
  have hbelow' : (4 : ℚ) * (x.significand * 2 ^ x.unit) ≤
      (roundingInterval x).low + 2 * 2 ^ x.unit := by exact_mod_cast hbelow
  have habove : ((roundingInterval x).high : ℚ) =
      4 * (x.significand * 2 ^ x.unit) + 2 * 2 ^ x.unit := by
    simp only [roundingInterval, magnitude, Nat.pow_eq]
    push_cast
    ring
  refine ⟨by linarith, by linarith, fun hm hu => ?_⟩
  have hedge : 4 * (x.significand * 2 ^ x.unit) ≤ (roundingInterval x).low + 2 ^ x.unit := by
    simp only [roundingInterval, magnitude, Nat.pow_eq]
    rw [if_pos ⟨hm, hu⟩]
    omega
  have hedge' : (4 : ℚ) * (x.significand * 2 ^ x.unit) ≤
      (roundingInterval x).low + 2 ^ x.unit := by exact_mod_cast hedge
  linarith

/-- One part in 2^53 of a decimal is less than the unit of the number it is written for. -/
theorem value_mul_part_le (hx : x.isFinite = true) (hd : (roundingInterval x).Contains d) :
    value d * part ≤ 2 ^ x.unit := by
  obtain ⟨-, hhigh, -⟩ := value_bounds hd
  have hunit : (0 : ℚ) < 2 ^ x.unit := by positivity
  have hm : (x.significand : ℚ) ≤ 9007199254740991 := by
    have hlt := (fits hx).significand_lt
    simp only [fractionBound] at hlt
    exact_mod_cast Nat.le_sub_one_of_lt hlt
  have hscaled := mul_le_mul_of_nonneg_right hm hunit.le
  rw [part, mul_one_div, div_le_iff₀ (by norm_num)]
  linarith

/-- Where numbers get finer below, it is about half a unit. -/
theorem value_mul_part_le_half {j : Nat} (hj : j ≤ 4) (hm : x.significand = fractionBound + j)
    (hd : (roundingInterval x).Contains d) : value d * part ≤ 51 / 100 * 2 ^ x.unit := by
  obtain ⟨-, hhigh, -⟩ := value_bounds hd
  have hunit : (0 : ℚ) < 2 ^ x.unit := by positivity
  have hm' : (x.significand : ℚ) ≤ 4503599627370500 := by
    rw [hm]
    simp only [fractionBound]
    exact_mod_cast Nat.add_le_add_left hj 4503599627370496
  have hscaled := mul_le_mul_of_nonneg_right hm' hunit.le
  rw [part, mul_one_div, div_le_iff₀ (by norm_num)]
  linarith

/-- At the least significand of the unit the decimal is nearer; above it there is a whole unit more. -/
theorem value_ge_of_edge {j : Nat} (hu : 0 < x.unit) (hm : x.significand = fractionBound + j)
    (hd : (roundingInterval x).Contains d) :
    (x.significand - 1 / 4 - j / 4 : ℚ) * 2 ^ x.unit ≤ value d := by
  obtain ⟨hlow, -, hedge⟩ := value_bounds hd
  have hunit : (0 : ℚ) < 2 ^ x.unit := by positivity
  rcases Nat.eq_zero_or_pos j with rfl | hj
  · simpa using hedge hm hu
  · have hone : (1 : ℚ) ≤ j := by exact_mod_cast hj
    have hscaled := mul_le_mul_of_nonneg_right hone hunit.le
    linarith

theorem bits_nearest {num den : Nat}
    (hfin : (pack false (nearestMagnitude num den)).isFinite = true) :
    packMagnitude (pack false (nearestMagnitude num den)).significand
      (pack false (nearestMagnitude num den)).unit = nearestMagnitude num den := by
  have hlt : nearestMagnitude num den < signBit :=
    Nat.lt_trans (isFinite_nearest.1 hfin) (by decide)
  rw [← bits_mod_signBit hfin, pack_toNat false hlt, if_neg Bool.false_ne_true, Nat.add_zero,
    Nat.mod_eq_of_lt hlt]

/-- A number rounded from close to a decimal is few numbers away from the one that the decimal is
written for. -/
theorem bits_near {n : Nat} {k : ℚ} (hk : 0 ≤ k) (hn : k + 3 / 4 ≤ n) (hsmall : n ≤ 5)
    (hx : x.isFinite = true) (hd : (roundingInterval x).Contains d)
    (h : Close k d y) (hfin : y.isFinite = true) :
    packMagnitude y.significand y.unit ≤ packMagnitude x.significand x.unit + n ∧
      packMagnitude x.significand x.unit ≤ packMagnitude y.significand y.unit + n := by
  obtain ⟨num, den, hden, rfl, hlow, hhigh⟩ := h
  rw [bits_nearest hfin]
  obtain ⟨hvlow, hvhigh, -⟩ := value_bounds hd
  have hbound : n ≤ fractionBound := Nat.le_trans hsmall (by decide)
  have hsmall' : (n : ℚ) ≤ 5 := by exact_mod_cast hsmall
  have hden' : (0 : ℚ) < den := by exact_mod_cast hden
  have hunit : (1 : ℚ) ≤ 2 ^ x.unit := one_le_pow₀ (by norm_num)
  have hroom : (k + 3 / 4) * 2 ^ x.unit ≤ n * 2 ^ x.unit :=
    mul_le_mul_of_nonneg_right hn (by linarith)
  have herror : value d * (k * part) ≤ k * 2 ^ x.unit := by
    rw [mul_left_comm]
    exact mul_le_mul_of_nonneg_left (value_mul_part_le hx hd) hk
  refine ⟨nearestMagnitude_le_add (fits hx) hden hbound ?_,
    le_nearestMagnitude_add (fits hx) hden hbound ?_ ?_⟩
  · have hupper : (num : ℚ) / den ≤ (x.significand + n) * 2 ^ x.unit := by linarith
    rw [div_le_iff₀ hden'] at hupper
    exact_mod_cast hupper
  · have hlower : (x.significand : ℚ) * 2 ^ x.unit - n * 2 ^ x.unit ≤ num / den := by linarith
    rw [le_div_iff₀ hden'] at hlower
    have hcast : (x.significand : ℚ) * 2 ^ x.unit * den ≤ num + n * 2 ^ x.unit * den := by linarith
    exact_mod_cast hcast
  · intro hu hfull hedge
    obtain ⟨j, hj⟩ := Nat.exists_eq_add_of_le hfull
    have hvedge := value_ge_of_edge hu hj hd
    have hhalf : value d * (k * part) ≤ 51 / 100 * k * 2 ^ x.unit := by
      rw [mul_left_comm, mul_comm (51 / 100) k, mul_assoc]
      exact mul_le_mul_of_nonneg_left (value_mul_part_le_half (by omega) hj hd) hk
    have hbelow : (0 : ℚ) ≤ j * 2 ^ x.unit := by positivity
    have hfive : k * 2 ^ x.unit ≤ 17 / 4 * 2 ^ x.unit :=
      mul_le_mul_of_nonneg_right (by linarith) (by linarith)
    have hlower : (x.significand : ℚ) * 2 ^ x.unit - (n + j) / 2 * 2 ^ x.unit ≤ num / den := by
      linarith
    rw [le_div_iff₀ hden'] at hlower
    have hcast : (2 : ℚ) * (x.significand * 2 ^ x.unit * den) ≤
        2 * num + (n + j) * 2 ^ x.unit * den := by linarith
    rw [show x.significand - fractionBound = j by omega]
    exact_mod_cast hcast

/-- At most `n` places from one number to the other. -/
def Apart (n : Nat) (x y : Binary64) : Prop :=
  x.rank ≤ y.rank + n ∧ y.rank ≤ x.rank + n

theorem Apart.refl (n : Nat) (x : Binary64) : Apart n x x := ⟨by omega, by omega⟩

theorem apart_of_magnitudes {n m u m' u' : Nat} (negative : Bool) (h : Fits m u) (h' : Fits m' u')
    (hle : packMagnitude m u ≤ packMagnitude m' u' + n)
    (hge : packMagnitude m' u' ≤ packMagnitude m u + n) :
    Apart n (pack negative (packMagnitude m u)) (pack negative (packMagnitude m' u')) := by
  simp only [Apart, rank_pack negative (packMagnitude_lt_signBit h),
    rank_pack negative (packMagnitude_lt_signBit h')]
  split_ifs <;> omega

/-- How far a number moves when its text is read close to the decimal written. -/
theorem reread_apart {n : Nat} {k : ℚ} (hk : 0 ≤ k) (hn : k + 3 / 4 ≤ n) (hsmall : n ≤ 5)
    (hx : x.isFinite = true) (hmag : x.magnitude ≠ 0)
    (h : ∀ y, scaledByPower? x.shortest.asRead.digits x.shortest.asRead.exponent = some y →
      Close k x.shortest.asRead y) : Apart n (reread x) x := by
  obtain ⟨y, hy, hfin, hread⟩ := reread_eq_pack hx hmag
  have hcontains := (shortest_spec hx (significand_pos hmag)).1.asRead
  obtain ⟨hle, hge⟩ := bits_near hk hn hsmall hx hcontains (h y hy) hfin
  have hapart := apart_of_magnitudes x.isNegative (fits hfin) (fits hx) hle hge
  rwa [← hread, pack_significand_unit hx] at hapart

/-- **How far a number moves.** What comes back is at most three numbers away from the number written,
unless its text has a power of ten below the -308th. -/
theorem reread_apart_three (hx : x.isFinite = true) (hexp : -308 ≤ x.shortest.exponent) :
    Apart 3 (reread x) x := by
  by_cases hmag : x.magnitude = 0
  · rw [reread_zero hmag]
    exact Apart.refl _ x
  · obtain ⟨-, hpos, hle, -, -⟩ := shortest_spec hx (significand_pos hmag)
    have hfit := Nat.le_trans (Decimal.asRead_digits_le hle) (by decide : 10 ^ 17 ≤ maxSignificand)
    refine reread_apart (k := 21 / 10) (by norm_num) (by norm_num) (by decide) hx hmag fun y hy => ?_
    refine scaledByPower?_close (Decimal.asRead_digits_pos hpos) hfit ?_ hy
    rcases x.shortest.asRead_exponent with h | h <;> omega

/-- In any case it is at most five numbers away. -/
theorem reread_apart_five (hx : x.isFinite = true) : Apart 5 (reread x) x := by
  rcases Int.lt_or_le x.shortest.exponent (-308) with hsmall | hlarge
  · by_cases hmag : x.magnitude = 0
    · rw [reread_zero hmag]
      exact Apart.refl _ x
    · obtain ⟨-, hpos, hle, hlow, -⟩ := shortest_spec hx (significand_pos hmag)
      have hfit := Nat.le_trans (Decimal.asRead_digits_le hle) (by decide : 10 ^ 17 ≤ maxSignificand)
      have hexp := x.shortest.asRead_exponent
      refine reread_apart (k := 41 / 10) (by norm_num) (by norm_num) (by decide) hx hmag fun y hy => ?_
      exact scaledByPower?_close_twice (Decimal.asRead_digits_pos hpos) hfit (by omega) (by omega) hy
  · obtain ⟨hle, hge⟩ := reread_apart_three hx hlarge
    exact ⟨by omega, by omega⟩

/-- What is kept of a number `x` when `y` is read from its text. -/
structure ComesBack (x y : Binary64) : Prop where
  isFinite : y.isFinite = true
  isNegative : y.isNegative = x.isNegative
  near : Apart 5 y x
  nearer : -308 ≤ x.shortest.exponent → Apart 3 y x
  exact : ReadsExactly x → y = x

theorem comesBack_reread (hx : x.isFinite = true) : ComesBack x (reread x) where
  isFinite := (reread_spec hx).1
  isNegative := (reread_spec hx).2
  near := reread_apart_five hx
  nearer := reread_apart_three hx
  exact := reread_eq hx

end Predictor.Json
