import Predictor.Proofs.Json.RoundTrip

/-!
Texts in JSON strings. Each byte is written in one of three forms (`Escaped`), and each form is read
back as that byte, whatever follows it; so the inside of a string denotes the text it was written for
(`denoted?_escape`). A string that is written can stand in a well-formed tree (`quotable_escape`).
-/

namespace Predictor.Json

/-! ## The forms of a byte -/

/-- How a byte is written: by a letter after a backslash, by the number of a control byte, or as
itself. -/
inductive Escaped (b : UInt8) : Bytes → Prop
  | letter (c : UInt8) (other : c ≠ 117) (stands : simpleEscape? c = some b) : Escaped b [92, c]
  | control (small : b.toNat < 32) :
    Escaped b [92, 117, 48, 48, hexDigit (b.toNat / 16), hexDigit (b.toNat % 16)]
  | plain (large : 32 ≤ b) (quote : b ≠ 34) (slash : b ≠ 92) : Escaped b [b]

theorem escaped_escapeByte (b : UInt8) : Escaped b (escapeByte b) := by
  have same : ∀ n : Nat, b.toNat = n → b = UInt8.ofNat n := by
    intro n h
    rw [← h, UInt8.ofNat_toNat]
  unfold escapeByte
  split
  case h_8 quote slash _ _ _ _ _ =>
    split
    · rename_i small
      exact .control small
    · rename_i large
      refine .plain ?_ ?_ ?_
      · rw [UInt8.le_iff_toNat_le]
        exact Nat.not_lt.1 large
      · rintro rfl
        exact quote rfl
      · rintro rfl
        exact slash rfl
  all_goals
    rename_i h
    rw [same _ h]
    exact .letter _ (by decide) (by decide)

/-! ## Reading a byte back -/

theorem hexValue?_hexDigit : ∀ n < 16, hexValue? (hexDigit n) = some n := by
  decide

/-- The number of a control byte. -/
theorem hexUnit?_control {n : Nat} (small : n < 256) :
    hexUnit? 48 48 (hexDigit (n / 16)) (hexDigit (n % 16)) = some n := by
  have zero : hexValue? 48 = some 0 := by decide
  have high := hexValue?_hexDigit (n / 16) (by omega)
  have low := hexValue?_hexDigit (n % 16) (by omega)
  simp only [hexUnit?, zero, high, low, Option.bind_eq_bind, Option.bind_some]
  congr 1
  omega

theorem encodeScalar_control : ∀ n < 32, encodeScalar n = [UInt8.ofNat n] := by
  decide +kernel

/-- Each form of a byte is read as that byte, whatever comes behind it. -/
theorem Escaped.unescape?_append {b : UInt8} {written : Bytes} (h : Escaped b written)
    (rest : Bytes) : unescape? (written ++ rest) = (unescape? rest).map (b :: ·) := by
  rw [Option.map_eq_bind, Function.comp_def]
  cases h with
  | letter c other stands =>
    rw [List.cons_append, List.cons_append, List.nil_append, unescape?]
    · simp [stands]
    · intro _ _ _ _ _ hc _
      exact other hc
  | control small =>
    have hnumber := hexUnit?_control (n := b.toNat) (by omega)
    have hhigh : ¬(55296 ≤ b.toNat ∧ b.toNat ≤ 56319) := by omega
    have hlow : ¬(56320 ≤ b.toNat ∧ b.toNat ≤ 57343) := by omega
    simp only [List.cons_append, List.nil_append]
    rw [unescape?.eq_def]
    simp [hnumber, hhigh, hlow, encodeScalar_control _ small]
  | plain large quote slash =>
    rw [List.singleton_append, unescape?]
    · simp
    · intro _ _ _ _ _ hb _
      exact slash hb
    · intro _ _ hb _
      exact slash hb
    · intro hb _
      exact slash hb

theorem escape_cons (b : UInt8) (rest : Bytes) : escape (b :: rest) = escapeByte b ++ escape rest :=
  List.flatMap_cons

/-- **Strings.** What is written for bytes is read as those bytes. -/
theorem unescape?_escape (bytes : Bytes) : unescape? (escape bytes) = some bytes := by
  induction bytes with
  | nil => rfl
  | cons b rest ih =>
    rw [escape_cons, (escaped_escapeByte b).unescape?_append, ih]
    rfl

/-- The inside of a string denotes the text it was written for. -/
theorem denoted?_escape (s : String) : denoted? (escape (bytesOf s)) = some s := by
  rw [denoted?, unescape?_escape, Option.bind_some, textOf?_bytesOf]

/-! ## Standing between quotes -/

/-- A scanner inside a string takes each form of a byte and stays inside. -/
theorem Escaped.scanned {b : UInt8} {written : Bytes} (h : Escaped b written) (read : Bytes)
    (tokens : List Token) : written.foldlM Scanner.step? ⟨.string read, tokens⟩ =
      some ⟨.string (written.reverse ++ read), tokens⟩ := by
  cases h with
  | letter c other stands =>
    simp [Scanner.step?, other, stands]
  | control small =>
    have high := hexValue?_hexDigit (b.toNat / 16) (by omega)
    have low := hexValue?_hexDigit (b.toNat % 16) (by omega)
    have zero : hexValue? 48 = some 0 := by decide
    simp [Scanner.step?, high, low, zero]
  | plain large quote slash =>
    have hlarge : ¬b < 32 := UInt8.not_lt.2 large
    simp [Scanner.step?, quote, slash, hlarge]

theorem escape_scanned (bytes read : Bytes) (tokens : List Token) :
    (escape bytes).foldlM Scanner.step? ⟨.string read, tokens⟩ =
      some ⟨.string ((escape bytes).reverse ++ read), tokens⟩ := by
  induction bytes generalizing read with
  | nil => rfl
  | cons b rest ih =>
    rw [escape_cons, List.foldlM_append, (escaped_escapeByte b).scanned, Option.bind_eq_bind,
      Option.bind_some, ih, List.reverse_append, List.append_assoc]

/-! ## Written strings are texts -/

/-- A byte below 128 is written in ASCII. -/
theorem Escaped.ascii {b : UInt8} {written : Bytes} (h : Escaped b written) (small : b.toNat < 128) :
    ∀ c ∈ written, c.toNat < 128 := by
  have hdigit : ∀ n < 16, (hexDigit n).toNat < 128 := by decide
  have hletter : ∀ c : UInt8, ∀ d, simpleEscape? c = some d → c.toNat < 128 := by
    intro c d hc
    by_contra hlarge
    unfold simpleEscape? at hc
    split at hc <;> simp_all
  cases h with
  | letter c other stands =>
    simp [hletter c b stands]
  | control small' =>
    have high := hdigit (b.toNat / 16) (by omega)
    have low := hdigit (b.toNat % 16) (by omega)
    simp [high, low]
  | plain => simpa using small

/-- A byte from 128 on is written as itself. -/
theorem Escaped.eq_of_large {b : UInt8} {written : Bytes} (h : Escaped b written)
    (large : 128 ≤ b.toNat) : written = [b] := by
  cases h with
  | letter c other stands =>
    have hsmall : ∀ c : UInt8, simpleEscape? c = some b → b.toNat < 128 := by
      intro c hc
      unfold simpleEscape? at hc
      split at hc <;> simp_all <;> subst hc <;> decide
    exact absurd large (Nat.not_le.2 (hsmall c stands))
  | control small => omega
  | plain => rfl

/-- The bytes of a character that is not ASCII. -/
theorem large_of_utf8EncodeChar {c : Char} (large : 128 ≤ c.toNat) :
    ∀ b ∈ String.utf8EncodeChar c, 128 ≤ b.toNat := by
  have hc : ¬c.val.toNat ≤ 127 := Nat.not_le.2 large
  have hbyte : ∀ n, 128 ≤ n → n < 256 → 128 ≤ (UInt8.ofNat n).toNat := by
    intro n hlow hhigh
    rwa [UInt8.toNat_ofNat_of_lt' hhigh]
  intro b hb
  rw [String.utf8EncodeChar, if_neg hc] at hb
  split_ifs at hb
  all_goals
    simp only [List.mem_cons, List.not_mem_nil, or_false] at hb
    rcases hb with rfl | rfl | rfl | rfl <;> apply hbyte <;> omega

/-- One character in a string. -/
theorem isText_escape_char (c : Char) : IsText (escape (String.utf8EncodeChar c)) := by
  by_cases small : c.toNat < 128
  · have hbyte : (UInt8.ofNat c.toNat).toNat < 128 := by
      rwa [UInt8.toNat_ofNat_of_lt' (Nat.lt_trans small (by decide))]
    rw [utf8EncodeChar_ascii small, escape, List.flatMap_singleton]
    exact isText_of_ascii ((escaped_escapeByte _).ascii hbyte)
  · have hlarge := large_of_utf8EncodeChar (Nat.not_lt.1 small)
    have hsame : escape (String.utf8EncodeChar c) = String.utf8EncodeChar c := by
      generalize String.utf8EncodeChar c = bytes at hlarge
      induction bytes with
      | nil => rfl
      | cons b rest ih =>
        obtain ⟨hb, hrest⟩ := List.forall_mem_cons.1 hlarge
        rw [escape_cons, (escaped_escapeByte b).eq_of_large hb, ih hrest]
        rfl
    rw [hsame]
    exact ⟨String.singleton c, by simp [bytesOf_eq_flatMap]⟩

theorem isText_escape (s : String) : IsText (escape (bytesOf s)) := by
  rw [bytesOf_eq_flatMap]
  induction s.toList with
  | nil => exact isText_of_all rfl
  | cons c rest ih =>
    have hsplit : escape ((c :: rest).flatMap String.utf8EncodeChar) =
        escape (String.utf8EncodeChar c) ++ escape (rest.flatMap String.utf8EncodeChar) := by
      rw [List.flatMap_cons, escape, List.flatMap_append]
      rfl
    rw [hsplit]
    exact (isText_escape_char c).append ih

/-- What is written for a text can stand between quotes. -/
theorem quotable_escape (s : String) : Quotable (escape (bytesOf s)) where
  isText := isText_escape s
  scanned := escape_scanned (bytesOf s)

namespace Tree

theorem wellFormed_ofText (s : String) : (ofText s).WellFormed := by
  rw [ofText, WellFormed]
  exact quotable_escape s

theorem text?_ofText (s : String) : (ofText s).text? = some s := denoted?_escape s

end Tree

end Predictor.Json
