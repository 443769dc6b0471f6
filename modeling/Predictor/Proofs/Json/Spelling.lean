import Mathlib.Tactic.Ring
import Predictor.Json.Numeral
import Predictor.Proofs.Text.Ascii

/-!
Numerals as they are spelled: whole digits, fraction digits, an exponent with its sign (`spell`). The
bytes are split into these parts again (`ofBytes?_spell`), and while the digits fit a significand the
value is the number that all of them make, scaled by the exponent less the number of fraction digits
(`double?_spell`).
-/

namespace Predictor.Json.Numeral

variable {whole fraction : List Char} {exponent : Option Int}

/-! ## Digits -/

def Digits (chars : List Char) : Prop := ∀ c ∈ chars, c.isDigit = true

theorem digits_toDigits (n : Nat) : Digits (Nat.toDigits 10 n) := fun _ h =>
  Nat.isDigit_of_mem_toDigits (by decide) (by decide) h

theorem Digits.append (h : Digits whole) (h' : Digits fraction) : Digits (whole ++ fraction) := by
  intro c hc
  rcases List.mem_append.1 hc with hc | hc
  · exact h c hc
  · exact h' c hc

theorem digits_zeros (n : Nat) : Digits (List.replicate n '0') := by
  intro c hc
  rw [List.eq_of_mem_replicate hc]
  decide

theorem toNat_bounds {c : Char} (h : c.isDigit = true) : 48 ≤ c.toNat ∧ c.toNat ≤ 57 :=
  Char.isDigit_iff_toNat.1 h

theorem Digits.ascii_lt (h : Digits whole) : ∀ c ∈ whole, c.toNat < 128 := fun c hc =>
  Nat.lt_of_le_of_lt (toNat_bounds (h c hc)).2 (by decide)

theorem toNat_ofNat_digit {c : Char} (h : c.isDigit = true) :
    (UInt8.ofNat c.toNat).toNat = c.toNat :=
  UInt8.toNat_ofNat_of_lt' (Nat.lt_of_le_of_lt (toNat_bounds h).2 (by decide))

theorem isDigit_ofNat {c : Char} (h : c.isDigit = true) : isDigit (UInt8.ofNat c.toNat) = true := by
  obtain ⟨hlow, hhigh⟩ := toNat_bounds h
  simp only [isDigit, Bool.and_eq_true, decide_eq_true_eq, UInt8.le_iff_toNat_le,
    toNat_ofNat_digit h]
  exact ⟨hlow, hhigh⟩

theorem Digits.isDigit_ascii (h : Digits whole) : ∀ b ∈ ascii whole, isDigit b = true := by
  intro b hb
  obtain ⟨c, hc, rfl⟩ := List.mem_map.1 hb
  exact isDigit_ofNat (h c hc)

/-- The value of digits, as they are read from their bytes. -/
theorem foldl_digitsOf (h : Digits whole) (s : Nat) :
    (digitsOf (ascii whole)).foldl (fun v d => v * 10 + d) s = Nat.ofDigitChars 10 whole s := by
  induction whole generalizing s with
  | nil => rfl
  | cons c rest ih =>
    have hc := toNat_ofNat_digit (h c List.mem_cons_self)
    have hrest := ih (fun c hc => h c (List.mem_cons_of_mem _ hc)) (10 * s + (c.toNat - 48))
    rw [Nat.ofDigitChars_cons]
    simp only [ascii, digitsOf, List.map_cons, List.foldl_cons, hc] at hrest ⊢
    rw [Nat.mul_comm s 10]
    exact hrest

theorem head?_toDigits {n : Nat} (h : 0 < n) : (Nat.toDigits 10 n).head? ≠ some '0' := by
  induction n using Nat.strong_induction_on with
  | h n ih =>
    rcases Nat.lt_or_ge n 10 with hlt | hge
    · rw [Nat.toDigits_of_lt_base hlt]
      have hall : ∀ d < 10, 0 < d → [Nat.digitChar d].head? ≠ some '0' := by decide
      exact hall n hlt h
    · have hfirst := ih (n / 10) (Nat.div_lt_self h (by decide)) (Nat.div_pos hge (by decide))
      obtain ⟨c, rest, hcons⟩ :=
        List.exists_cons_of_ne_nil (Nat.toDigits_ne_nil (b := 10) (n := n / 10))
      rw [hcons] at hfirst
      rw [Nat.toDigits_of_base_le (by decide) hge, hcons]
      exact hfirst

/-! ## Significands -/

theorem le_foldl (digits : List Nat) (s : Nat) : s ≤ digits.foldl (fun v d => v * 10 + d) s := by
  induction digits generalizing s with
  | nil => exact Nat.le_refl s
  | cons d rest ih => exact Nat.le_trans (by omega) (ih (s * 10 + d))

theorem appendWhole_eq (digits : List Nat) {s : Nat}
    (h : digits.foldl (fun v d => v * 10 + d) s ≤ maxSignificand) :
    appendWhole s digits = (digits.foldl (fun v d => v * 10 + d) s, 0) := by
  induction digits generalizing s with
  | nil => rfl
  | cons d rest ih =>
    have hle := Nat.le_trans (le_foldl rest (s * 10 + d)) h
    rw [appendWhole, if_neg (Nat.not_lt.2 hle), ih h]
    rfl

theorem appendFraction_eq (digits : List Nat) {s : Nat}
    (h : digits.foldl (fun v d => v * 10 + d) s ≤ maxSignificand) :
    appendFraction s digits = (digits.foldl (fun v d => v * 10 + d) s, digits.length) := by
  induction digits generalizing s with
  | nil => rfl
  | cons d rest ih =>
    have hle := Nat.le_trans (le_foldl rest (s * 10 + d)) h
    rw [appendFraction, if_neg (Nat.not_lt.2 hle), ih h]
    rfl

/-! ## Splitting -/

/-- The characters of an exponent. -/
def spellExponent (exponent : Option Int) : List Char :=
  exponent.elim [] fun e => 'e' :: (if e < 0 then '-' else '+') :: Nat.toDigits 10 e.natAbs

/-- The characters of a numeral: whole digits, fraction digits unless there are none, and an exponent
with its sign. -/
def spell (whole fraction : List Char) (exponent : Option Int) : List Char :=
  whole ++ ((if fraction.isEmpty then [] else '.' :: fraction) ++ spellExponent exponent)

theorem spellExponent_ascii (exponent : Option Int) : ∀ c ∈ spellExponent exponent, c.toNat < 128 := by
  cases exponent with
  | none => simp [spellExponent]
  | some e =>
    intro c hc
    rcases List.mem_cons.1 hc with rfl | hc
    · decide
    · rcases List.mem_cons.1 hc with rfl | hc
      · split <;> decide
      · exact (digits_toDigits e.natAbs).ascii_lt c hc

theorem spell_ascii (hwhole : Digits whole) (hfraction : Digits fraction) :
    ∀ c ∈ spell whole fraction exponent, c.toNat < 128 := by
  intro c hc
  rcases List.mem_append.1 hc with hc | hc
  · exact hwhole.ascii_lt c hc
  · rcases List.mem_append.1 hc with hc | hc
    · split at hc
      · simp at hc
      · rcases List.mem_cons.1 hc with rfl | hc
        · decide
        · exact hfraction.ascii_lt c hc
    · exact spellExponent_ascii exponent c hc

/-- The exponent as it is read. -/
def readExponent (exponent : Option Int) : Option (Bool × List UInt8) :=
  exponent.map fun e => (decide (e < 0), ascii (Nat.toDigits 10 e.natAbs))

theorem spanDigits_append (h : Digits whole) (rest : List UInt8)
    (hrest : ∀ b ∈ rest.head?, isDigit b = false) :
    spanDigits (ascii whole ++ rest) = (ascii whole, rest) := by
  have htake : rest.takeWhile isDigit = [] := by
    cases rest with
    | nil => rfl
    | cons b rest => simp [hrest b rfl]
  have hdrop : rest.dropWhile isDigit = rest := by
    cases rest with
    | nil => rfl
    | cons b rest => simp [hrest b rfl]
  rw [spanDigits, List.takeWhile_append_of_pos h.isDigit_ascii,
    List.dropWhile_append_of_pos h.isDigit_ascii, htake, hdrop, List.append_nil]

theorem head?_spellExponent (exponent : Option Int) :
    ∀ b ∈ (ascii (spellExponent exponent)).head?, b = 101 := by
  cases exponent with
  | none => simp [spellExponent, ascii]
  | some e =>
    intro b hb
    exact (Option.some.inj hb).symm

theorem splitExponent?_spell (exponent : Option Int) :
    splitExponent? (ascii (spellExponent exponent)) = some (readExponent exponent) := by
  cases exponent with
  | none => rfl
  | some e =>
    have hdigits := (digits_toDigits e.natAbs).isDigit_ascii
    have hne : ascii (Nat.toDigits 10 e.natAbs) ≠ [] := by
      simp [ascii, Nat.toDigits_ne_nil]
    have hall : (ascii (Nat.toDigits 10 e.natAbs)).all isDigit = true := List.all_eq_true.2 hdigits
    have hread : (!(ascii (Nat.toDigits 10 e.natAbs)).isEmpty &&
        (ascii (Nat.toDigits 10 e.natAbs)).all isDigit) = true := by
      rw [hall, Bool.and_true]
      simpa using hne
    by_cases hneg : e < 0
    · have hbytes : ascii (spellExponent (some e)) =
          101 :: 45 :: ascii (Nat.toDigits 10 e.natAbs) := by
        simp only [spellExponent, Option.elim_some, hneg, if_true]
        rfl
      have hsplit : ∀ rest, splitExponent? (101 :: 45 :: rest) =
          if !rest.isEmpty && rest.all isDigit then some (some (true, rest)) else none :=
        fun _ => rfl
      rw [hbytes, hsplit, if_pos hread]
      simp [readExponent, hneg]
    · have hbytes : ascii (spellExponent (some e)) =
          101 :: 43 :: ascii (Nat.toDigits 10 e.natAbs) := by
        simp only [spellExponent, Option.elim_some, hneg, if_false]
        rfl
      have hsplit : ∀ rest, splitExponent? (101 :: 43 :: rest) =
          if !rest.isEmpty && rest.all isDigit then some (some (false, rest)) else none :=
        fun _ => rfl
      rw [hbytes, hsplit, if_pos hread]
      simp [readExponent, hneg]

theorem splitFraction?_spell (h : Digits fraction) (exponent : Option Int) :
    splitFraction? (ascii ((if fraction.isEmpty then [] else '.' :: fraction) ++
      spellExponent exponent)) = some (ascii fraction, ascii (spellExponent exponent)) := by
  have hhead := head?_spellExponent exponent
  cases fraction with
  | nil =>
    simp only [List.isEmpty_nil, if_true, List.nil_append]
    generalize ascii (spellExponent exponent) = rest at *
    unfold splitFraction?
    split
    · exact absurd (hhead 46 rfl) (by decide)
    · rfl
  | cons c rest =>
    have hspan := spanDigits_append h (ascii (spellExponent exponent)) (by
      intro b hb
      rw [hhead b hb]
      decide)
    have hbytes : ascii ((if (c :: rest).isEmpty then [] else '.' :: c :: rest) ++
        spellExponent exponent) =
        46 :: (ascii (c :: rest) ++ ascii (spellExponent exponent)) := by
      rw [← ascii_append]
      rfl
    rw [hbytes]
    simp only [splitFraction?, hspan]
    rfl

/-- Whole digits as a numeral has them: one digit, or a first digit other than zero. -/
def Leads (whole : List Char) : Prop :=
  whole ≠ [] ∧ (whole.length = 1 ∨ whole.head? ≠ some '0')

theorem Leads.isWhole (h : Leads whole) (hd : Digits whole) : isWhole (ascii whole) = true := by
  obtain ⟨hne, hlead⟩ := h
  match whole, hne, hlead, hd with
  | [_], _, _, _ => rfl
  | c :: c' :: rest, _, hlead, hd =>
    have hzero : c ≠ '0' := by simpa using hlead
    have hbyte : UInt8.ofNat c.toNat ≠ 48 := by
      intro heq
      have hnat := congrArg UInt8.toNat heq
      rw [toNat_ofNat_digit (hd c List.mem_cons_self)] at hnat
      exact hzero (Char.toNat_inj.1 hnat)
    simpa [ascii, Numeral.isWhole] using hbyte

/-- **Splitting.** A numeral that is spelled is read in its parts. -/
theorem ofBytes?_spell (negative : Bool) (exponent : Option Int) (hwhole : Digits whole) (hlead : Leads whole)
    (hfraction : Digits fraction) :
    ofBytes? ((if negative then [45] else []) ++ ascii (spell whole fraction exponent)) =
      some ⟨negative, digitsOf (ascii whole), digitsOf (ascii fraction),
        (readExponent exponent).map fun (sign, digits) => (sign, digitsOf digits)⟩ := by
  have hspan := spanDigits_append hwhole (ascii ((if fraction.isEmpty then [] else
      '.' :: fraction) ++ spellExponent exponent)) (by
    intro b hb
    cases fraction with
    | nil =>
      rw [head?_spellExponent exponent b hb]
      decide
    | cons c rest =>
      rw [← Option.some.inj hb]
      decide)
  rw [← ascii_append] at hspan
  cases negative with
  | true =>
    simp only [if_true, List.singleton_append, ofBytes?, spell, hspan, hlead.isWhole hwhole,
      Bool.not_true, Bool.false_eq_true, if_false, splitFraction?_spell hfraction,
      splitExponent?_spell, Option.bind_eq_bind, Option.bind_some]
  | false =>
    have hfirst : ∀ rest, ascii (spell whole fraction exponent) ≠ 45 :: rest := by
      intro rest heq
      obtain ⟨c, tail, rfl⟩ := List.exists_cons_of_ne_nil hlead.1
      have hc := isDigit_ofNat (hwhole c List.mem_cons_self)
      have hbyte : UInt8.ofNat c.toNat = 45 := (List.cons.inj heq).1
      rw [hbyte] at hc
      exact absurd hc (by decide)
    simp only [Bool.false_eq_true, if_false, List.nil_append, ofBytes?]
    simp only [spell, hspan, hlead.isWhole hwhole, Bool.not_true, Bool.false_eq_true, if_false,
      splitFraction?_spell hfraction, splitExponent?_spell, Option.bind_eq_bind, Option.bind_some]

/-! ## Values -/

/-- The value of a numeral whose digits fit a significand. -/
theorem magnitude?_spell (negative : Bool) (hwhole : Digits whole) (hfraction : Digits fraction)
    (hfit : Nat.ofDigitChars 10 (whole ++ fraction) 0 ≤ maxSignificand)
    (hlength : fraction.length ≤ 1000) (hexp : ∀ e ∈ exponent, e.natAbs ≤ 1000) :
    magnitude? ⟨negative, digitsOf (ascii whole), digitsOf (ascii fraction),
        (readExponent exponent).map fun (sign, digits) => (sign, digitsOf digits)⟩ =
      scaledByPower? (Nat.ofDigitChars 10 (whole ++ fraction) 0)
        (exponent.getD 0 - fraction.length) := by
  rw [Nat.ofDigitChars_append] at hfit ⊢
  have hfit' : Nat.ofDigitChars 10 whole 0 ≤ maxSignificand := by
    refine Nat.le_trans ?_ hfit
    rw [← foldl_digitsOf hfraction]
    exact le_foldl _ _
  have hw := appendWhole_eq (digitsOf (ascii whole)) (s := 0)
    (by rwa [foldl_digitsOf hwhole])
  have hf := appendFraction_eq (digitsOf (ascii fraction)) (s := Nat.ofDigitChars 10 whole 0)
    (by rwa [foldl_digitsOf hfraction])
  rw [foldl_digitsOf hwhole] at hw
  rw [foldl_digitsOf hfraction] at hf
  have hcount : (digitsOf (ascii fraction)).length = fraction.length := by
    simp [digitsOf, ascii]
  simp only [magnitude?, hw, hf, hcount]
  generalize Nat.ofDigitChars 10 fraction (Nat.ofDigitChars 10 whole 0) = s at *
  cases exponent with
  | none => simp [readExponent]
  | some e =>
    have hsmall := hexp e rfl
    simp only [readExponent, Option.map_some, foldl_digitsOf (digits_toDigits e.natAbs),
      Nat.ofDigitChars_ten_toDigits, Option.getD_some]
    rw [if_neg (by simp only [maxExponent]; omega)]
    by_cases hneg : e < 0
    · simp only [hneg, decide_true, if_true]
      congr 1
      omega
    · simp only [hneg, decide_false, Bool.false_eq_true, if_false, maxExponent]
      congr 1
      omega

/-- **Reading.** The value of a numeral that is spelled. -/
theorem double?_spell (negative : Bool) (hwhole : Digits whole) (hlead : Leads whole)
    (hfraction : Digits fraction)
    (hfit : Nat.ofDigitChars 10 (whole ++ fraction) 0 ≤ maxSignificand)
    (hlength : fraction.length ≤ 1000) (hexp : ∀ e ∈ exponent, e.natAbs ≤ 1000) :
    (ofBytes? ((if negative then [45] else []) ++
        bytesOf (String.ofList (spell whole fraction exponent)))).bind double? =
      (scaledByPower? (Nat.ofDigitChars 10 (whole ++ fraction) 0)
        (exponent.getD 0 - fraction.length)).map fun y => if negative then y.neg else y := by
  rw [bytesOf_ofList (spell_ascii hwhole hfraction),
    ofBytes?_spell negative exponent hwhole hlead hfraction, Option.bind_some, double?,
    magnitude?_spell negative hwhole hfraction hfit hlength hexp]

end Predictor.Json.Numeral
