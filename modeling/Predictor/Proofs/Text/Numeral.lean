import Mathlib.Data.List.TakeWhile
import Predictor.Text.Numeral

/-!
Natural numbers in decimal digits. A text is read as a number exactly when it is an optional `+` and
at least one digit, and the number that the digits make is within the limit (`natural_eq_ok_iff`);
of all others it is known which fault is reported (`natural_eq_error_iff`).
-/

namespace Predictor.Text

/-- The number that the digits of a text make. -/
def Spells (chars : List Char) (n : Nat) : Prop :=
  ∃ sign digits, chars = sign ++ digits ∧ (sign = [] ∨ sign = ['+']) ∧ digits ≠ [] ∧
    (∀ c ∈ digits, c.isDigit = true) ∧ Nat.ofDigitChars 10 digits 0 = n

/-- A text begins with digits that make a number above the limit. -/
def Exceeds (limit : Nat) (chars : List Char) : Prop :=
  ∃ sign digits rest, chars = sign ++ (digits ++ rest) ∧ (sign = [] ∨ sign = ['+']) ∧
    (∀ c ∈ digits, c.isDigit = true) ∧ limit < Nat.ofDigitChars 10 digits 0

/-- Why a text is no number up to the limit. -/
inductive Misspells (limit : Nat) (chars : List Char) : NumeralFault → Prop
  | empty (nothing : chars = []) : Misspells limit chars .empty
  | tooLarge (exceeds : Exceeds limit chars) : Misspells limit chars .tooLarge
  | invalidDigit (something : chars ≠ []) (fits : ¬ Exceeds limit chars)
      (unspelled : ∀ n, ¬ Spells chars n) : Misspells limit chars .invalidDigit

/-! ## Digits -/

theorem digitValue?_eq (c : Char) :
    digitValue? c = if c.isDigit = true then some (c.toNat - '0'.toNat) else none := by
  have same : ('0' ≤ c ∧ c ≤ '9') ↔ c.isDigit = true := by
    rw [Char.isDigit_iff_toNat]
    exact Iff.rfl
  simp only [digitValue?, same]

theorem le_ofDigitChars (digits : List Char) (value : Nat) :
    value ≤ Nat.ofDigitChars 10 digits value := by
  induction digits generalizing value with
  | nil => exact Nat.le_refl value
  | cons c rest ih =>
    rw [Nat.ofDigitChars_cons]
    exact Nat.le_trans (by omega) (ih _)

/-- The digits in front are read until they pass the limit, and then there must be nothing else. -/
theorem digitsOnto_eq {limit value : Nat} (fault : NumeralFault) (fits : value ≤ limit)
    (chars : List Char) : digitsOnto limit fault value chars =
      if limit < Nat.ofDigitChars 10 (chars.takeWhile Char.isDigit) value then .error fault
      else if chars.all Char.isDigit then .ok (Nat.ofDigitChars 10 chars value)
      else .error .invalidDigit := by
  induction chars generalizing value with
  | nil => simp [digitsOnto, Nat.not_lt.2 fits]
  | cons c rest ih =>
    rw [digitsOnto, digitValue?_eq]
    by_cases digit : c.isDigit = true
    · have next := le_ofDigitChars (rest.takeWhile Char.isDigit)
        (10 * value + (c.toNat - '0'.toNat))
      rw [if_pos digit, List.takeWhile_cons_of_pos digit]
      simp only [Nat.ofDigitChars_cons, List.all_cons, digit, Bool.true_and,
        Nat.mul_comm value 10]
      split
      · rw [if_pos (by omega)]
      · rw [ih (by omega)]
    · simp [digit, Nat.not_lt.2 fits]

/-! ## Signs -/

/-- What is left of a text without its sign. -/
def unsigned : List Char → List Char
  | '+' :: rest => rest
  | chars => chars

theorem unsigned_append {sign digits : List Char} (hsign : sign = [] ∨ sign = ['+'])
    (first : ∀ c ∈ digits.head?, c.isDigit = true) : unsigned (sign ++ digits) = digits := by
  rcases hsign with rfl | rfl
  · unfold unsigned
    split
    · rename_i rest heq
      rw [List.nil_append] at heq
      simp [heq] at first
    · rfl
  · rfl

theorem sign_unsigned (chars : List Char) :
    ∃ sign, chars = sign ++ unsigned chars ∧ (sign = [] ∨ sign = ['+']) := by
  unfold unsigned
  split
  · exact ⟨['+'], rfl, .inr rfl⟩
  · exact ⟨[], rfl, .inl rfl⟩

theorem spells_iff {chars : List Char} {n : Nat} : Spells chars n ↔
    unsigned chars ≠ [] ∧ (∀ c ∈ unsigned chars, c.isDigit = true) ∧
      Nat.ofDigitChars 10 (unsigned chars) 0 = n := by
  constructor
  · rintro ⟨sign, digits, rfl, hsign, some, all, rfl⟩
    rw [unsigned_append hsign fun c hc => all c (List.mem_of_mem_head? hc)]
    exact ⟨some, all, rfl⟩
  · rintro ⟨some, all, value⟩
    obtain ⟨sign, split, hsign⟩ := sign_unsigned chars
    exact ⟨sign, unsigned chars, split, hsign, some, all, value⟩

theorem exceeds_iff {limit : Nat} {chars : List Char} : Exceeds limit chars ↔
    limit < Nat.ofDigitChars 10 ((unsigned chars).takeWhile Char.isDigit) 0 := by
  constructor
  · rintro ⟨sign, digits, rest, rfl, hsign, all, above⟩
    have first : ∀ c ∈ (digits ++ rest).head?, c.isDigit = true := by
      cases digits with
      | nil => simp at above
      | cons d digits =>
        intro c hc
        exact all c (by simp_all)
    rw [unsigned_append hsign first, List.takeWhile_append_of_pos all, Nat.ofDigitChars_append]
    exact Nat.lt_of_lt_of_le above (le_ofDigitChars _ _)
  · intro above
    obtain ⟨sign, split, hsign⟩ := sign_unsigned chars
    refine ⟨sign, (unsigned chars).takeWhile Char.isDigit, (unsigned chars).dropWhile Char.isDigit,
      ?_, hsign, fun c => List.mem_takeWhile_imp, above⟩
    rw [List.takeWhile_append_dropWhile]
    exact split

/-! ## Numbers -/

theorem natural_eq (limit : Nat) {chars : List Char} (something : chars ≠ []) :
    natural limit chars =
      if limit < Nat.ofDigitChars 10 ((unsigned chars).takeWhile Char.isDigit) 0 then
        .error .tooLarge
      else if unsigned chars ≠ [] ∧ (unsigned chars).all Char.isDigit then
        .ok (Nat.ofDigitChars 10 (unsigned chars) 0)
      else .error .invalidDigit := by
  have read : natural limit chars = if unsigned chars = [] then .error .invalidDigit
      else digitsOnto limit .tooLarge 0 (unsigned chars) := by
    unfold natural unsigned
    split <;> simp_all
  rw [read, digitsOnto_eq _ (Nat.zero_le limit)]
  by_cases bare : unsigned chars = [] <;> simp [bare]

theorem natural_eq_ok_iff {limit n : Nat} {chars : List Char} :
    natural limit chars = .ok n ↔ Spells chars n ∧ n ≤ limit := by
  by_cases something : chars = []
  · simp [something, natural, spells_iff, unsigned]
  · rw [natural_eq limit something, spells_iff]
    split
    · rename_i above
      constructor
      · nofun
      · rintro ⟨⟨-, all, rfl⟩, le⟩
        rw [List.takeWhile_eq_self_iff.2 all] at above
        exact absurd le (Nat.not_le.2 above)
    · rename_i within
      split
      · rename_i digits
        have all := List.all_eq_true.1 digits.2
        rw [List.takeWhile_eq_self_iff.2 all] at within
        constructor
        · rintro ⟨⟩
          exact ⟨⟨digits.1, all, rfl⟩, Nat.not_lt.1 within⟩
        · rintro ⟨⟨-, -, rfl⟩, -⟩
          rfl
      · rename_i other
        constructor
        · nofun
        · rintro ⟨⟨some, all, -⟩, -⟩
          exact absurd ⟨some, List.all_eq_true.2 all⟩ other

/-- Of a text that is no number it is known what is the matter. -/
theorem natural_eq_error_iff {limit : Nat} {chars : List Char} {fault : NumeralFault} :
    natural limit chars = .error fault ↔ Misspells limit chars fault := by
  by_cases something : chars = []
  · subst something
    have fits : ¬ Exceeds limit [] := by simp [exceeds_iff, unsigned]
    constructor
    · rintro ⟨⟩
      exact .empty rfl
    · rintro (_ | exceeds | nonempty)
      · rfl
      · exact absurd exceeds fits
      · exact absurd rfl nonempty
  · have spelled : (∃ n, Spells chars n) ↔
        unsigned chars ≠ [] ∧ (unsigned chars).all Char.isDigit = true := by
      simp [spells_iff]
    rw [natural_eq limit something]
    split
    · rename_i above
      have exceeds := exceeds_iff.2 above
      constructor
      · rintro ⟨⟩
        exact .tooLarge exceeds
      · rintro (nothing | _ | ⟨-, fits⟩)
        · exact absurd nothing something
        · rfl
        · exact absurd exceeds fits
    · rename_i within
      have fits := mt exceeds_iff.1 within
      split
      · rename_i digits
        obtain ⟨n, spells⟩ := spelled.2 digits
        constructor
        · nofun
        · rintro (nothing | exceeds | ⟨-, -, unspelled⟩)
          · exact absurd nothing something
          · exact absurd exceeds fits
          · exact absurd spells (unspelled n)
      · rename_i other
        constructor
        · rintro ⟨⟩
          exact .invalidDigit something fits fun n spells => other (spelled.1 ⟨n, spells⟩)
        · rintro (nothing | exceeds | _)
          · exact absurd nothing something
          · exact absurd exceeds fits
          · rfl

end Predictor.Text
