import Mathlib.Algebra.Group.Nat.Defs
import Mathlib.Tactic.Common
import Predictor.Id

/-!
Ids are read back from their text. A number below 16^n is read back from its n hexadecimal digits
(`ofHex?_fixedHex`), and taking the hyphens out undoes putting them in (`ungrouped?_grouped`).
-/

namespace Predictor

namespace Text

theorem length_fixedHex (count n : Nat) : (fixedHex count n).length = count := by
  induction count generalizing n with
  | zero => rfl
  | succ count ih => simp [fixedHex, ih]

theorem hexValue?_hexDigit : ∀ n < 16, hexValue? (hexDigit n) = some n := by
  decide

/-- Digits are read onto a number that has been read before. -/
theorem foldlM_fixedHex (count n read : Nat) :
    (fixedHex count n).foldlM (fun n c => (hexValue? c).map (n * 16 + ·)) read =
      some (read * 16 ^ count + n % 16 ^ count) := by
  induction count generalizing n with
  | zero => simp [fixedHex, Nat.mod_one]
  | succ count ih =>
    have hlast := hexValue?_hexDigit (n % 16) (Nat.mod_lt n (by decide))
    have hsplit : n % 16 ^ (count + 1) = n / 16 % 16 ^ count * 16 + n % 16 := by
      rw [Nat.pow_succ, Nat.mul_comm, Nat.mod_mul]
      omega
    rw [fixedHex, List.foldlM_append, ih, Option.bind_eq_bind, Option.bind_some]
    simp only [List.foldlM_cons, List.foldlM_nil, hlast, Option.map_some, Option.bind_eq_bind,
      Option.bind_some, Option.pure_def, Option.some.injEq]
    calc (read * 16 ^ count + n / 16 % 16 ^ count) * 16 + n % 16
      _ = read * 16 ^ (count + 1) + (n / 16 % 16 ^ count * 16 + n % 16) := by
        rw [Nat.add_mul, Nat.pow_succ, Nat.mul_assoc, Nat.add_assoc]
      _ = read * 16 ^ (count + 1) + n % 16 ^ (count + 1) := by rw [hsplit]

/-- **Digits.** A number that fits its digits is read back from them. -/
theorem ofHex?_fixedHex {count n : Nat} (fits : n < 16 ^ count) :
    ofHex? (fixedHex count n) = some n := by
  rw [ofHex?, foldlM_fixedHex, Nat.mod_eq_of_lt fits]
  simp

end Text

namespace PredictionId

/-- Taking the hyphens out undoes putting them in. -/
theorem ungrouped?_grouped {digits : List Char} (h : digits.length = 32) :
    ungrouped? (grouped digits) = some digits := by
  have hlength : (grouped digits).length = 36 := by
    simp [grouped, h]
  -- The groups by their lengths, so that every place in the text lies in one of them.
  obtain ⟨a, b, c, d, e, rfl, ha, hb, hc, hd⟩ : ∃ a b c d e : List Char,
      digits = a ++ (b ++ (c ++ (d ++ e))) ∧ a.length = 8 ∧ b.length = 4 ∧ c.length = 4 ∧
        d.length = 4 := by
    refine ⟨digits.take 8, (digits.drop 8).take 4, (digits.drop 12).take 4,
      (digits.drop 16).take 4, digits.drop 20, ?_, ?_, ?_, ?_, ?_⟩
    · have hdrop : ∀ n, (digits.drop n).take 4 ++ digits.drop (n + 4) = digits.drop n := by
        intro n
        rw [← List.drop_drop, List.take_append_drop]
      rw [hdrop 16, hdrop 12, hdrop 8, List.take_append_drop]
    all_goals simp [h]
  have hgrouped : grouped (a ++ (b ++ (c ++ (d ++ e)))) =
      a ++ '-' :: (b ++ '-' :: (c ++ '-' :: (d ++ '-' :: e))) := by
    simp [grouped, List.drop_append, List.drop_eq_nil_of_le, ha, hb, hc, hd]
  rw [ungrouped?, if_pos, hgrouped]
  · simp [List.drop_append, List.drop_eq_nil_of_le, ha, hb, hc, hd]
  · refine ⟨hlength, ?_⟩
    rw [hgrouped]
    simp [List.getElem?_append, ha, hb, hc, hd]

/-- **Ids.** An id is read back from its text. -/
theorem ofText?_text (id : PredictionId) : ofText? id.text = some id := by
  have hdigits := Text.length_fixedHex 32 id.value.toNat
  have hlength : id.toChars.length = 36 := by
    simp [toChars, grouped, hdigits]
  have hbare : ofBare? id.toChars = none := by
    simp [ofBare?, hlength]
  have hgrouped : ofGrouped? id.toChars = some id := by
    rw [ofGrouped?, toChars, ungrouped?_grouped hdigits, Option.bind_some, ofBare?, if_pos hdigits,
      Text.ofHex?_fixedHex id.value.isLt, Option.map_some, BitVec.ofNat_toNat, BitVec.setWidth_eq]
  rw [ofText?, text, String.toList_ofList, ofChars?, hbare, hgrouped]
  rfl

end PredictionId

end Predictor
