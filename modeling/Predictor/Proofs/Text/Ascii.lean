import Predictor.Text.Utf8

/-!
Bytes of texts. A text is read back from its bytes (`textOf?_bytesOf`), bytes follow concatenation
(`bytesOf_append`), and each ASCII character is one byte (`bytesOf_ofList`).
-/

namespace Predictor

/-! ## Bytes as lists -/

theorem toList_loop (bytes : ByteArray) (i : Nat) (read : List UInt8) :
    ByteArray.toList.loop bytes i read = read.reverse ++ bytes.data.toList.drop i := by
  fun_induction ByteArray.toList.loop bytes i read with
  | case1 i read h ih =>
    have hi : i < bytes.data.toList.length := by simpa using h
    rw [ih, List.drop_eq_getElem_cons hi]
    simp [ByteArray.get!, h]
  | case2 i read h =>
    rw [List.drop_eq_nil_of_le (by simpa using Nat.le_of_not_lt h), List.append_nil]

theorem toList_eq (bytes : ByteArray) : bytes.toList = bytes.data.toList := by
  simp [ByteArray.toList, toList_loop]

/-! ## Bytes of texts -/

/-- Bytes that some text has. -/
def IsText (bytes : Bytes) : Prop := ∃ s, bytesOf s = bytes

theorem bytesOf_append (a b : String) : bytesOf (a ++ b) = bytesOf a ++ bytesOf b := by
  simp [bytesOf, toList_eq, ByteArray.data_append]

theorem textOf?_bytesOf (s : String) : textOf? (bytesOf s) = some s := by
  have hvalid : s.toUTF8.IsValidUTF8 := s.isValidUTF8
  simp only [textOf?, bytesOf, toList_eq, Array.toArray_toList]
  exact dif_pos hvalid

/-- No other bytes are read as the text. -/
theorem textOf?_eq_some_iff {bytes : Bytes} {s : String} :
    textOf? bytes = some s ↔ bytes = bytesOf s := by
  constructor
  · intro h
    unfold textOf? String.fromUTF8? at h
    split at h
    · obtain rfl := Option.some.inj h
      simp [bytesOf, toList_eq, String.fromUTF8]
    · simp at h
  · rintro rfl
    exact textOf?_bytesOf s

/-- The bytes of a text are those of its characters. -/
theorem bytesOf_eq_flatMap (s : String) :
    bytesOf s = s.toList.flatMap String.utf8EncodeChar := by
  obtain ⟨chars, rfl⟩ : ∃ chars, s = String.ofList chars := ⟨s.toList, String.ofList_toList.symm⟩
  simp [bytesOf, toList_eq, List.utf8Encode]

/-- The bytes of ASCII characters. -/
def ascii (chars : List Char) : Bytes := chars.map fun c => UInt8.ofNat c.toNat

theorem ascii_append (a b : List Char) : ascii (a ++ b) = ascii a ++ ascii b := List.map_append

theorem utf8EncodeChar_ascii {c : Char} (h : c.toNat < 128) :
    String.utf8EncodeChar c = [UInt8.ofNat c.toNat] := by
  have hsize : c.utf8Size = 1 := Char.utf8Size_eq_one_iff.2 (by
    simp only [UInt32.le_iff_toNat_le]
    exact Nat.le_of_lt_succ h)
  rw [String.utf8EncodeChar_eq_singleton hsize]
  rfl

theorem bytesOf_ofList {chars : List Char} (h : ∀ c ∈ chars, c.toNat < 128) :
    bytesOf (String.ofList chars) = ascii chars := by
  have hflat : chars.flatMap String.utf8EncodeChar = ascii chars := by
    induction chars with
    | nil => rfl
    | cons c rest ih =>
      rw [List.flatMap_cons, utf8EncodeChar_ascii (h c List.mem_cons_self),
        ih fun c hc => h c (List.mem_cons_of_mem _ hc)]
      rfl
  simp [bytesOf, toList_eq, List.utf8Encode, hflat]

theorem IsText.append {a b : Bytes} (h : IsText a) (h' : IsText b) : IsText (a ++ b) := by
  obtain ⟨s, rfl⟩ := h
  obtain ⟨s', rfl⟩ := h'
  exact ⟨s ++ s', bytesOf_append s s'⟩

/-- ASCII bytes are a text. -/
theorem isText_of_ascii {bytes : Bytes} (h : ∀ b ∈ bytes, b.toNat < 128) : IsText bytes := by
  refine ⟨String.ofList (bytes.map fun b => Char.ofNat b.toNat), ?_⟩
  have hchar : ∀ n < 128, (Char.ofNat n).toNat = n := by decide
  have hnat : ∀ b ∈ bytes, (Char.ofNat b.toNat).toNat = b.toNat := fun b hb => hchar _ (h b hb)
  rw [bytesOf_ofList, ascii, List.map_map]
  · refine (List.map_congr_left fun b hb => ?_).trans (List.map_id bytes)
    simp only [Function.comp_apply, hnat b hb, id_eq]
    exact UInt8.ofNat_toNat
  · intro c hc
    obtain ⟨b, hb, rfl⟩ := List.mem_map.1 hc
    rw [hnat b hb]
    exact h b hb

theorem isText_of_all {bytes : Bytes} (h : (bytes.all fun b => decide (b.toNat < 128)) = true) :
    IsText bytes :=
  isText_of_ascii fun b hb => of_decide_eq_true (List.all_eq_true.1 h b hb)

theorem IsText.cons {b : UInt8} {bytes : Bytes} (hb : b.toNat < 128) (h : IsText bytes) :
    IsText (b :: bytes) := by
  have hsingle : IsText [b] := isText_of_ascii (by simpa using hb)
  exact hsingle.append h

/-- A text is read from the bytes it has. -/
theorem IsText.textOf? {bytes : Bytes} (h : IsText bytes) :
    ∃ s, textOf? bytes = some s ∧ bytesOf s = bytes := by
  obtain ⟨s, rfl⟩ := h
  exact ⟨s, textOf?_bytesOf s, rfl⟩

end Predictor
