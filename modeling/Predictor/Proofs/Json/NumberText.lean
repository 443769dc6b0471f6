import Predictor.Proofs.Json.Scaling
import Predictor.Proofs.Json.Spelling

/-!
The text of a finite number, read again. The digits that are read make the decimal that was written
(`Decimal.asRead`), and their value is that decimal as `scaledByPower?` computes it, not the nearest
number: `reread` says which number comes back (`double?_numberText`). It is finite and has the sign
of the number written (`reread_spec`), and it is that number when the digits stay below 2^53 and the
power of ten within 22 (`reread_eq`).
-/

namespace Predictor.Binary64

/-- The decimal that is read where `d` is written. A whole number below 10^16 is written with a point
and one zero, and that zero is a digit too. -/
def Decimal.asRead (d : Decimal) : Decimal :=
  if 0 ≤ d.exponent ∧ d.digits * 10 ^ d.exponent.toNat < 10 ^ 16 then
    ⟨d.digits * 10 ^ (d.exponent.toNat + 1), -1⟩
  else d

theorem Decimal.asRead_digits_pos {d : Decimal} (h : 0 < d.digits) : 0 < d.asRead.digits := by
  unfold asRead
  split
  · exact Nat.mul_pos h (Nat.pow_pos (by decide))
  · exact h

theorem Decimal.asRead_digits_le {d : Decimal} (h : d.digits ≤ 10 ^ 17) :
    d.asRead.digits ≤ 10 ^ 17 := by
  unfold asRead
  split
  · rename_i hwhole
    calc d.digits * 10 ^ (d.exponent.toNat + 1) = d.digits * 10 ^ d.exponent.toNat * 10 := by ring
      _ ≤ 10 ^ 16 * 10 := Nat.mul_le_mul_right 10 (Nat.le_of_lt hwhole.2)
      _ = 10 ^ 17 := by norm_num
  · exact h

theorem Decimal.asRead_exponent (d : Decimal) :
    d.asRead.exponent = d.exponent ∨ 0 ≤ d.exponent ∧ d.asRead.exponent = -1 := by
  unfold asRead
  split
  · rename_i hwhole
    exact .inr ⟨hwhole.1, rfl⟩
  · exact .inl rfl

/-- The decimal that is read has the value of the shortest one. -/
theorem RoundingInterval.Contains.asRead {i : RoundingInterval} {d : Decimal}
    (h : i.Contains d) :
    i.Contains d.asRead := by
  unfold Decimal.asRead
  split
  · rename_i hwhole
    refine holds_congr (gridUnit_pos _).2 (gridUnit_pos _).2 ?_ h
    have hexp : gridUnit d.exponent = (4 * unitsOfOne * 10 ^ d.exponent.toNat, 1) := by
      rw [← gridUnit_natCast, Int.toNat_of_nonneg hwhole.1]
    have htenth : gridUnit (-1) = (4 * unitsOfOne, 10) := rfl
    simp only [hexp, htenth]
    ring
  · exact h

/-- The number that is read where a finite number is written. -/
def reread (x : Binary64) : Binary64 :=
  if x.magnitude = 0 then x
  else
    (Json.Numeral.scaledByPower? x.shortest.asRead.digits x.shortest.asRead.exponent).elim x
      fun y => if x.isNegative then y.neg else y

end Predictor.Binary64

namespace Predictor.Json

open Binary64 Numeral

variable {x : Binary64} {digits : List Char} {d : Decimal}

/-! ## Layout -/

theorem spell_none (whole : List Char) {fraction : List Char} (h : fraction ≠ []) :
    spell whole fraction none = whole ++ '.' :: fraction := by
  simp [spell, spellExponent, h]

/-- Below one, positional. -/
theorem write_small {e : Int} (hne : digits ≠ []) (hlow : -5 ≤ e) (hneg : e < 0) :
    numberLayout.write digits e =
      String.ofList (spell ['0'] (List.replicate (-e - 1).toNat '0' ++ digits) none) := by
  have hrange : numberLayout.least ≤ e ∧ e < numberLayout.most :=
    ⟨hlow, Int.lt_trans hneg (by decide)⟩
  have hpoint : "0." = String.ofList ['0', '.'] := rfl
  rw [Layout.write, if_pos hrange, Layout.positional, if_pos hneg, zeros, hpoint,
    ← String.ofList_append, ← String.ofList_append, spell_none _ (by simp [hne])]
  rfl

/-- A whole number, positional. -/
theorem write_whole {e : Int} (hnonneg : 0 ≤ e) (hlt : e < 16) (hlen : digits.length ≤ e.toNat + 1) :
    numberLayout.write digits e = String.ofList
      (spell (digits ++ List.replicate (e.toNat + 1 - digits.length) '0') ['0'] none) := by
  have hrange : numberLayout.least ≤ e ∧ e < numberLayout.most :=
    ⟨Int.le_trans (by decide) hnonneg, hlt⟩
  have hpoint : (if numberLayout.wholePlace = true then ".0" else "") = String.ofList ['.', '0'] :=
    rfl
  rw [Layout.write, if_pos hrange, Layout.positional, if_neg (Int.not_lt.2 hnonneg)]
  simp only [hlen, if_true]
  rw [hpoint, zeros, ← String.ofList_append, ← String.ofList_append, spell_none _ (by simp)]

/-- With a point between the digits, positional. -/
theorem write_split {e : Int} (hnonneg : 0 ≤ e) (hlt : e < 16) (hlen : e.toNat + 1 < digits.length) :
    numberLayout.write digits e = String.ofList
      (spell (digits.take (e.toNat + 1)) (digits.drop (e.toNat + 1)) none) := by
  have hrange : numberLayout.least ≤ e ∧ e < numberLayout.most :=
    ⟨Int.le_trans (by decide) hnonneg, hlt⟩
  have hpoint : "." = String.ofList ['.'] := rfl
  rw [Layout.write, if_pos hrange, Layout.positional, if_neg (Int.not_lt.2 hnonneg)]
  simp only [Nat.not_le.2 hlen, if_false]
  rw [hpoint, ← String.ofList_append, ← String.ofList_append, spell_none _ (by simp [hlen]),
    List.append_assoc]
  rfl

/-- With an exponent. -/
theorem write_scientific {e : Int} (h : e < -5 ∨ 16 ≤ e) :
    numberLayout.write digits e =
      String.ofList (spell (digits.take 1) (digits.drop 1) (some e)) := by
  have hrange : ¬(numberLayout.least ≤ e ∧ e < numberLayout.most) := by
    rintro ⟨hlow, hlt⟩
    simp only [numberLayout] at hlow hlt
    omega
  have hpoint : (if (digits.drop 1).isEmpty = true then "" else "." ++ String.ofList (digits.drop 1)) =
      String.ofList (if (digits.drop 1).isEmpty = true then [] else '.' :: digits.drop 1) := by
    split
    · rfl
    · rw [show "." = String.ofList ['.'] from rfl, ← String.ofList_append]
      rfl
  have hexponent : "e" ++ (if e < 0 then "-" ++ decimalDigits e.natAbs
      else numberLayout.plus ++ decimalDigits e.natAbs) = String.ofList (spellExponent (some e)) := by
    rw [show "e" = String.ofList ['e'] from rfl, spellExponent, Option.elim_some]
    split
    · rw [show "-" = String.ofList ['-'] from rfl, decimalDigits, ← String.ofList_append,
        ← String.ofList_append]
      rfl
    · rw [show numberLayout.plus = String.ofList ['+'] from rfl, decimalDigits,
        ← String.ofList_append, ← String.ofList_append]
      rfl
  rw [Layout.write, if_neg hrange, Layout.scientific]
  simp only [hpoint]
  rw [String.append_assoc, hexponent, ← String.ofList_append, ← String.ofList_append, spell,
    List.append_assoc]

/-! ## Reading -/

/-- Which whole numbers are written positionally. -/
theorem whole_iff {n k : Nat} (hn : 0 < n) :
    n * 10 ^ k < 10 ^ 16 ↔ k + (Nat.toDigits 10 n).length ≤ 16 := by
  have hlen := Nat.length_toDigits_pos (b := 10) (n := n)
  rcases Nat.lt_or_ge k 16 with hlt | hge
  · have hsplit : (10 : Nat) ^ 16 = 10 ^ (16 - k) * 10 ^ k := by
      rw [← pow_add, Nat.sub_add_cancel (Nat.le_of_lt hlt)]
    rw [hsplit, Nat.mul_lt_mul_right (Nat.pow_pos (by decide)),
      ← Nat.length_toDigits_le_iff (by decide) (by omega)]
    omega
  · have hlarge : 10 ^ 16 ≤ n * 10 ^ k :=
      Nat.le_trans (Nat.pow_le_pow_right (by decide) hge) (Nat.le_mul_of_pos_left _ hn)
    omega

theorem leads_toDigits {n : Nat} (hn : 0 < n) (rest : List Char) :
    Leads (Nat.toDigits 10 n ++ rest) := by
  have hfirst := head?_toDigits hn
  obtain ⟨c, tail, hcons⟩ := List.exists_cons_of_ne_nil (Nat.toDigits_ne_nil (b := 10) (n := n))
  rw [hcons] at hfirst ⊢
  exact ⟨by simp, .inr hfirst⟩

theorem leads_take {n k : Nat} (hn : 0 < n) : Leads ((Nat.toDigits 10 n).take (k + 1)) := by
  have hfirst := head?_toDigits hn
  obtain ⟨c, tail, hcons⟩ := List.exists_cons_of_ne_nil (Nat.toDigits_ne_nil (b := 10) (n := n))
  rw [hcons] at hfirst ⊢
  exact ⟨by simp, .inr hfirst⟩

/-- The text is read as this decimal, also behind a sign. -/
def ReadsAs (text : String) (d : Decimal) : Prop :=
  ∀ negative : Bool, (Numeral.ofBytes? ((if negative then [45] else []) ++ bytesOf text)).bind
    double? = (scaledByPower? d.digits d.exponent).map fun y => if negative then y.neg else y

theorem readsAs_spell {whole fraction : List Char} {exponent : Option Int} {n : Nat} {k : Int}
    (hwhole : Digits whole) (hlead : Leads whole) (hfraction : Digits fraction)
    (hvalue : Nat.ofDigitChars 10 (whole ++ fraction) 0 = n) (hn : n ≤ 10 ^ 17)
    (hlength : fraction.length ≤ 1000) (hexp : ∀ e ∈ exponent, e.natAbs ≤ 1000)
    (hk : exponent.getD 0 - fraction.length = k) :
    ReadsAs (String.ofList (spell whole fraction exponent)) ⟨n, k⟩ := by
  intro negative
  subst hvalue hk
  exact double?_spell negative hwhole hlead hfraction (Nat.le_trans hn (by decide)) hlength hexp

section Written

variable {n : Nat} {k : Int}

theorem digits_zero : Digits ['0'] := digits_zeros 1

theorem length_toDigits_le (hle : n ≤ 10 ^ 17) : (Nat.toDigits 10 n).length ≤ 18 :=
  (Nat.length_toDigits_le_iff (by decide) (by decide)).2 (Nat.lt_of_le_of_lt hle (by decide))

theorem readsAs_small (hle : n ≤ 10 ^ 17) (hlow : -5 ≤ k + (Nat.toDigits 10 n).length - 1)
    (hneg : k + (Nat.toDigits 10 n).length - 1 < 0) :
    ReadsAs (numberLayout.write (Nat.toDigits 10 n) (k + (Nat.toDigits 10 n).length - 1))
      ⟨n, k⟩ := by
  have hlen := length_toDigits_le hle
  rw [write_small Nat.toDigits_ne_nil hlow hneg]
  refine readsAs_spell digits_zero ⟨by simp, .inl rfl⟩
    ((digits_zeros _).append (digits_toDigits n)) ?_ hle ?_ (by simp) ?_
  · rw [Nat.ofDigitChars_append, Nat.ofDigitChars_append, Nat.ofDigitChars_replicate_zero]
    exact Nat.ofDigitChars_ten_toDigits
  · rw [List.length_append, List.length_replicate]
    omega
  · rw [List.length_append, List.length_replicate, Option.getD_none]
    omega

/-- The zero behind the point is read as one more digit. -/
theorem readsAs_whole (hpos : 0 < n) (hk : 0 ≤ k) (hlt : n * 10 ^ k.toNat < 10 ^ 16) :
    ReadsAs (numberLayout.write (Nat.toDigits 10 n) (k + (Nat.toDigits 10 n).length - 1))
      ⟨n * 10 ^ (k.toNat + 1), -1⟩ := by
  have hlen := Nat.length_toDigits_pos (b := 10) (n := n)
  have hfit := (whole_iff hpos).1 hlt
  rw [write_whole (by omega) (by omega) (by omega)]
  refine readsAs_spell ((digits_toDigits n).append (digits_zeros _)) (leads_toDigits hpos _)
    digits_zero ?_ ?_ (by simp) (by simp) rfl
  · rw [Nat.ofDigitChars_append, Nat.ofDigitChars_append, Nat.ofDigitChars_ten_toDigits,
      Nat.ofDigitChars_replicate_zero]
    rw [show (k + (Nat.toDigits 10 n).length - 1).toNat + 1 - (Nat.toDigits 10 n).length = k.toNat
      by omega]
    simp only [Nat.ofDigitChars_cons, Nat.ofDigitChars_nil, Nat.sub_self, Nat.add_zero]
    ring
  · rw [Nat.pow_succ, ← Nat.mul_assoc]
    omega

/-- The digits on both sides of a point, for any place of it inside them. -/
theorem readsAs_point (hpos : 0 < n) (hle : n ≤ 10 ^ 17) (j : Nat) (exponent : Option Int)
    (hexp : ∀ e ∈ exponent, e.natAbs ≤ 1000)
    (hk : exponent.getD 0 - ((Nat.toDigits 10 n).length - (j + 1) : Nat) = k) :
    ReadsAs (String.ofList (spell ((Nat.toDigits 10 n).take (j + 1))
      ((Nat.toDigits 10 n).drop (j + 1)) exponent)) ⟨n, k⟩ := by
  have hlen := length_toDigits_le hle
  refine readsAs_spell (fun c hc => digits_toDigits n c (List.mem_of_mem_take hc)) (leads_take hpos)
    (fun c hc => digits_toDigits n c (List.mem_of_mem_drop hc)) ?_ hle ?_ hexp ?_
  · rw [List.take_append_drop]
    exact Nat.ofDigitChars_ten_toDigits
  · rw [List.length_drop]
    omega
  · rw [List.length_drop]
    exact hk

end Written

/-- **Reading what is written.** The text of a decimal is read as the decimal `asRead`. -/
theorem readsAs_asRead (hpos : 0 < d.digits) (hle : d.digits ≤ 10 ^ 17) (hlow : -416 ≤ d.exponent)
    (hhigh : d.exponent ≤ 308) :
    ReadsAs (numberLayout.write (Nat.toDigits 10 d.digits)
      (d.exponent + (Nat.toDigits 10 d.digits).length - 1)) d.asRead := by
  have hlen := length_toDigits_le hle
  have hlen' := Nat.length_toDigits_pos (b := 10) (n := d.digits)
  unfold Decimal.asRead
  split
  · rename_i hwhole
    exact readsAs_whole hpos hwhole.1 hwhole.2
  · rename_i hwhole
    have hfit : 0 ≤ d.exponent → 16 < d.exponent.toNat + (Nat.toDigits 10 d.digits).length :=
      fun hk => Nat.not_le.1 fun h => hwhole ⟨hk, (whole_iff hpos).2 h⟩
    rcases Int.lt_or_le (d.exponent + (Nat.toDigits 10 d.digits).length - 1) (-5) with hless | hge
    · rw [write_scientific (.inl hless)]
      refine readsAs_point hpos hle 0 _ ?_ ?_
      · rintro _ ⟨⟩
        omega
      · rw [Option.getD_some]
        omega
    rcases Int.lt_or_le (d.exponent + (Nat.toDigits 10 d.digits).length - 1) 0 with hneg | hnonneg
    · exact readsAs_small hle hge hneg
    rcases Int.lt_or_le (d.exponent + (Nat.toDigits 10 d.digits).length - 1) 16 with hlt | hmore
    · rw [write_split hnonneg hlt (by omega)]
      refine readsAs_point hpos hle _ _ (by simp) ?_
      rw [Option.getD_none]
      omega
    · rw [write_scientific (.inr hmore)]
      refine readsAs_point hpos hle 0 _ ?_ ?_
      · rintro _ ⟨⟩
        omega
      · rw [Option.getD_some]
        omega

/-! ## Reading again -/

theorem neg_pack {b : Nat} (h : b < signBit) : (pack false b).neg = pack true b := by
  have hmod : (pack false b).bits.toNat % signBit = b := by
    rw [pack_toNat false h, if_neg (by decide), Nat.add_zero, Nat.mod_eq_of_lt h]
  rw [neg, isNegative_pack false h, hmod]
  rfl

/-- A zero of either sign. -/
theorem eq_pack_zero (hx : x.isFinite = true) (h : x.magnitude = 0) :
    x = pack x.isNegative 0 := by
  have hfits := fits hx
  have hzero := significand_eq_zero h
  have hunit : x.unit = 0 := by
    refine hfits.filled.resolve_right fun hfull => ?_
    rw [hzero] at hfull
    exact absurd hfull (by decide)
  have hself := pack_significand_unit hx
  rw [hzero, hunit] at hself
  exact hself.symm

theorem significand_pos (h : x.magnitude ≠ 0) : 0 < x.significand :=
  Nat.pos_of_ne_zero fun hzero => h (by simp [magnitude, hzero])

/-- What is read when a finite number other than zero is written. -/
theorem scaledByPower?_asRead (hx : x.isFinite = true) (hmag : x.magnitude ≠ 0) :
    ∃ y, scaledByPower? x.shortest.asRead.digits x.shortest.asRead.exponent = some y ∧
      y.isFinite = true ∧ y.isNegative = false := by
  have hpos := significand_pos hmag
  obtain ⟨hcontains, hdigits, hle, -, -⟩ := shortest_spec hx hpos
  have hne := shortest_ne hx hpos
  generalize x.shortest = d at *
  have hsome : (scaledByPower? d.asRead.digits d.asRead.exponent).isSome = true := by
    unfold Decimal.asRead
    split
    · simp [scaledByPower?]
    · exact isSome_of_contains hcontains hx hdigits hle hne
  obtain ⟨y, hy⟩ := Option.isSome_iff_exists.1 hsome
  exact ⟨y, hy, scaledByPower?_isFinite
    (Nat.le_trans (Decimal.asRead_digits_le hle) (by decide)) hy⟩

/-- **The text of a number.** Read again, it gives the number `reread`. -/
theorem double?_numberText (hx : x.isFinite = true) :
    (Numeral.ofBytes? (bytesOf (numberText x))).bind double? = some (reread x) := by
  have hsign : ∀ text, bytesOf ((if x.isNegative then "-" else "") ++ text) =
      (if x.isNegative then [45] else []) ++ bytesOf text := by
    have hminus : bytesOf "-" = [45] := by decide +kernel
    have hnone : bytesOf "" = [] := by decide +kernel
    intro text
    rw [bytesOf_append]
    split
    · rw [hminus]
    · rw [hnone]
  rw [numberText, if_pos hx, writeShortest]
  by_cases hmag : x.magnitude = 0
  · have hzero : ReadsAs (numberLayout.write ['0'] 0) ⟨0, -1⟩ := by
      rw [write_whole (by decide) (by decide) (by decide)]
      exact readsAs_spell digits_zero ⟨by simp, .inl rfl⟩ digits_zero rfl (by decide) (by simp)
        (by simp) rfl
    have hvalue : scaledByPower? 0 (-1) = some (pack false 0) := by decide +kernel
    rw [if_pos hmag, hsign, hzero, hvalue, Option.map_some, reread, if_pos hmag]
    refine congrArg some ?_
    have hself := eq_pack_zero hx hmag
    generalize x.isNegative = negative at *
    rw [hself]
    cases negative
    · rfl
    · exact neg_pack (by decide)
  · have hpos := significand_pos hmag
    obtain ⟨-, hdigits, hle, hlow, hhigh⟩ := shortest_spec hx hpos
    obtain ⟨y, hy, -, -⟩ := scaledByPower?_asRead hx hmag
    rw [if_neg hmag, hsign, readsAs_asRead hdigits hle hlow hhigh, hy, reread, if_neg hmag, hy]
    rfl

theorem reread_zero (h : x.magnitude = 0) : reread x = x := if_pos h

/-- The number that comes back: finite, with the sign of the number written in front. -/
theorem reread_eq_pack (hx : x.isFinite = true) (hmag : x.magnitude ≠ 0) :
    ∃ y, scaledByPower? x.shortest.asRead.digits x.shortest.asRead.exponent = some y ∧
      y.isFinite = true ∧
      reread x = pack x.isNegative (packMagnitude y.significand y.unit) := by
  obtain ⟨y, hy, hfin, hsign⟩ := scaledByPower?_asRead hx hmag
  refine ⟨y, hy, hfin, ?_⟩
  have hself := pack_significand_unit hfin
  rw [hsign] at hself
  have hneg : y.neg = pack true (packMagnitude y.significand y.unit) := by
    rw [← neg_pack (packMagnitude_lt_signBit (fits hfin)), hself]
  rw [reread, if_neg hmag, hy, Option.elim_some]
  cases x.isNegative with
  | true => rw [if_pos rfl, hneg]
  | false => rw [if_neg Bool.false_ne_true, hself]

theorem reread_spec (hx : x.isFinite = true) :
    (reread x).isFinite = true ∧ (reread x).isNegative = x.isNegative := by
  by_cases hmag : x.magnitude = 0
  · rw [reread_zero hmag]
    exact ⟨hx, rfl⟩
  · obtain ⟨y, -, hfin, hread⟩ := reread_eq_pack hx hmag
    rw [hread]
    exact ⟨isFinite_pack _ (packMagnitude_lt (fits hfin)),
      isNegative_pack _ (packMagnitude_lt_signBit (fits hfin))⟩

/-- Numbers whose text is read exactly: both zeros, and a number whose digits, as they are read, stay
below 2^53 with a power of ten within 22. -/
def ReadsExactly (x : Binary64) : Prop :=
  x.magnitude = 0 ∨ x.shortest.asRead.digits < 2 * fractionBound ∧
    -22 ≤ x.shortest.asRead.exponent ∧ x.shortest.asRead.exponent ≤ 22

/-- **Read back exactly.** -/
theorem reread_eq (hx : x.isFinite = true) (h : ReadsExactly x) : reread x = x := by
  by_cases hmag : x.magnitude = 0
  · exact reread_zero hmag
  · obtain ⟨hdigits, hlow, hhigh⟩ := h.resolve_left hmag
    have hcontains := (shortest_spec hx (significand_pos hmag)).1.asRead
    obtain ⟨y, hy, hfin, hread⟩ := reread_eq_pack hx hmag
    rw [scaledByPower?_of_contains hcontains hx hdigits hlow hhigh] at hy
    obtain ⟨hm, hu⟩ := significand_unit_pack false (fits hx)
    rw [hread, ← Option.some.inj hy, hm, hu, pack_significand_unit hx]

end Predictor.Json
