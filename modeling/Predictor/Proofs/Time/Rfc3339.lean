import Predictor.Proofs.Json.Spelling
import Predictor.Proofs.Time.Calendar
import Predictor.Time.Rfc3339

/-!
Instants are read back from their text. Each reader takes the characters that were written for its
part and leaves the rest (`digits_append` and the lemmas named after the readers); an instant that is
read lies in the calendar and has its inserted second behind a second 59 (`writable_of_ofRfc3339?`),
and every such instant is read back from its text (`ofRfc3339?_rfc3339`).
-/

namespace Predictor.Time

open Json.Numeral (Digits digits_toDigits digits_zeros)

/-! ## Digits -/

theorem valueOf_eq (ds : List Char) : valueOf ds = Nat.ofDigitChars 10 ds 0 := by
  have hfold : ∀ n : Nat, ds.foldl (fun n c => n * 10 + (c.toNat - '0'.toNat)) n =
      Nat.ofDigitChars 10 ds n := by
    induction ds with
    | nil =>
      intro n
      rfl
    | cons c rest ih =>
      intro n
      rw [List.foldl_cons, ih, Nat.ofDigitChars_cons, Nat.mul_comm]
  exact hfold 0

/-- The value of digits stays below the power of ten of their number. -/
theorem valueOf_lt {ds : List Char} (h : Digits ds) : valueOf ds < 10 ^ ds.length := by
  have hfold : ∀ n : Nat, Nat.ofDigitChars 10 ds n < (n + 1) * 10 ^ ds.length := by
    induction ds with
    | nil =>
      intro n
      simp
    | cons c rest ih =>
      intro n
      obtain ⟨hc, hrest⟩ := List.forall_mem_cons.1 h
      have hdigit := Json.Numeral.toNat_bounds hc
      rw [Nat.ofDigitChars_cons]
      calc Nat.ofDigitChars 10 rest (10 * n + (c.toNat - '0'.toNat))
        _ < (10 * n + (c.toNat - '0'.toNat) + 1) * 10 ^ rest.length := ih hrest _
        _ ≤ ((n + 1) * 10) * 10 ^ rest.length := by
          refine Nat.mul_le_mul_right _ ?_
          have hzero : '0'.toNat = 48 := rfl
          omega
        _ = (n + 1) * 10 ^ (c :: rest).length := by
          rw [List.length_cons, Nat.pow_succ, Nat.mul_assoc, Nat.mul_comm 10]
  rw [valueOf_eq]
  simpa using hfold 0

/-- What follows is no digit. -/
def EndsDigits (rest : List Char) : Prop := ∀ c ∈ rest.head?, c.isDigit = false

theorem takeWhile_digits {ds rest : List Char} (h : Digits ds) (hrest : EndsDigits rest) :
    (ds ++ rest).takeWhile Char.isDigit = ds := by
  induction ds with
  | nil =>
    cases rest with
    | nil => rfl
    | cons c rest => simp [hrest c rfl]
  | cons c ds ih =>
    obtain ⟨hc, hds⟩ := List.forall_mem_cons.1 h
    simp [hc, ih hds]

/-- **Numbers.** Digits are read up to the most that are allowed, or up to what follows them. -/
theorem digits_append {most : Nat} {ds : List Char} (rest : List Char) (h : Digits ds)
    (hne : ds ≠ []) (hmost : ds.length ≤ most) (hrest : ds.length = most ∨ EndsDigits rest) :
    digits most (ds ++ rest) = some (valueOf ds, rest) := by
  have hread : ((ds ++ rest).take most).takeWhile Char.isDigit = ds := by
    rcases hrest with hfull | hends
    · rw [← hfull, List.take_left]
      have hends : EndsDigits [] := by simp [EndsDigits]
      simpa using takeWhile_digits h hends
    · rw [List.take_append, List.take_of_length_le hmost]
      refine takeWhile_digits h ?_
      intro c hc
      cases rest with
      | nil => simp at hc
      | cons d rest =>
        cases hleft : most - ds.length with
        | zero => simp [hleft] at hc
        | succ n => 
          rw [hleft, List.take_succ_cons] at hc
          exact hends c hc
  simp [digits, hread, hne]

/-! ## Padded numbers -/

theorem toList_padded (width n : Nat) : (Instant.padded width n).toList =
    List.replicate (width - (Nat.toDigits 10 n).length) '0' ++ Nat.toDigits 10 n := by
  simp [Instant.padded]

theorem digits_padded (width n : Nat) : Digits (Instant.padded width n).toList := by
  rw [toList_padded]
  exact (digits_zeros _).append (digits_toDigits n)

theorem padded_ne_nil (width n : Nat) : (Instant.padded width n).toList ≠ [] := by
  rw [toList_padded]
  simp [Nat.toDigits_ne_nil]

theorem valueOf_padded (width n : Nat) : valueOf (Instant.padded width n).toList = n := by
  rw [toList_padded, valueOf_eq, Nat.ofDigitChars_append, Nat.ofDigitChars_replicate_zero]
  simp

/-- A number that fits has as many digits as are asked for. -/
theorem length_padded (width : Nat) {n : Nat} (h : n < 10 ^ width) (hpos : 0 < width) :
    (Instant.padded width n).toList.length = width := by
  have hlen := (Nat.length_toDigits_le_iff (n := n) (by decide : 1 < 10) hpos).2 h
  rw [toList_padded, List.length_append, List.length_replicate]
  omega

/-! ## Readers -/

theorem isBlank_of_isDigit {c : Char} (h : c.isDigit = true) : Text.isBlank c = false := by
  obtain ⟨hlow, hhigh⟩ := Json.Numeral.toNat_bounds h
  simp only [Text.isBlank, Bool.or_eq_false_iff, Bool.and_eq_false_iff, decide_eq_false_iff_not,
    beq_eq_false_iff_ne, ne_eq]
  omega

theorem skipBlanks_cons {c : Char} (h : Text.isBlank c = false) (rest : List Char) :
    skipBlanks (c :: rest) = c :: rest := by
  simp [skipBlanks, h]

theorem skipBlanks_digits {ds : List Char} (h : Digits ds) (hne : ds ≠ []) (rest : List Char) :
    skipBlanks (ds ++ rest) = ds ++ rest := by
  cases ds with
  | nil => exact absurd rfl hne
  | cons c ds => exact skipBlanks_cons (isBlank_of_isDigit (h c List.mem_cons_self)) _

theorem punctuation_cons {mark : Char} (h : Text.isBlank mark = false) (rest : List Char) :
    punctuation mark (mark :: rest) = some rest := by
  simp [punctuation, skipBlanks_cons h]

theorem field_padded {least greatest n : Nat} (hn : n < 100) (hle : least ≤ n ∧ n ≤ greatest)
    (rest : List Char) :
    field least greatest ((Instant.padded 2 n).toList ++ rest) = some (n, rest) := by
  have hlength := length_padded 2 hn (by decide)
  have hread := digits_append rest (digits_padded 2 n) (padded_ne_nil 2 n) (Nat.le_of_eq hlength)
    (.inl hlength)
  rw [valueOf_padded] at hread
  simp [field, skipBlanks_digits (digits_padded 2 n) (padded_ne_nil 2 n), hread, hle]

/-- Without a sign, four digits at most are the year. -/
theorem year_digits {ds rest : List Char} (h : Digits ds) (hlength : ds.length = 4) :
    year (ds ++ rest) = some (Int.ofNat (valueOf ds), rest) := by
  have hne : ds ≠ [] := by
    rintro rfl
    cases hlength
  have hread := digits_append rest h hne (Nat.le_of_eq hlength) (.inl hlength)
  have hfirst : ∀ {c : Char} {tail : List Char}, c.isDigit = false → ds ++ rest ≠ c :: tail := by
    intro c tail hc heq
    cases ds with
    | nil => exact hne rfl
    | cons d ds =>
      obtain ⟨rfl, -⟩ := List.cons_eq_cons.1 heq
      rw [h d List.mem_cons_self] at hc
      cases hc
  rw [year, skipBlanks_digits h hne]
  split
  · rename_i heq
    exact absurd heq (hfirst (by decide))
  · rename_i heq
    exact absurd heq (hfirst (by decide))
  · rw [hread]
    rfl

/-- A sign may be followed by any count of digits. -/
theorem signedDigits_padded {n : Nat} (hn : n < 0x8000000000000000) (width : Nat)
    {rest : List Char} (hends : EndsDigits rest) :
    signedDigits ((Instant.padded width n).toList ++ rest) = some (n, rest) := by
  have hle : (Instant.padded width n).toList.length ≤
      ((Instant.padded width n).toList ++ rest).length := by simp
  have hread := digits_append rest (digits_padded width n) (padded_ne_nil width n) hle (.inr hends)
  rw [valueOf_padded] at hread
  rw [signedDigits, hread]
  simp [hn]

theorem year_minus (rest : List Char) :
    year ('-' :: rest) = (signedDigits rest).map fun (n, rest) => (-Int.ofNat n, rest) := by
  rw [year, skipBlanks_cons (by decide)]
  rfl

theorem year_plus (rest : List Char) :
    year ('+' :: rest) = (signedDigits rest).map fun (n, rest) => (Int.ofNat n, rest) := by
  rw [year, skipBlanks_cons (by decide)]
  rfl

theorem endsDigits_cons {c : Char} (h : c.isDigit = false) (rest : List Char) :
    EndsDigits (c :: rest) := by
  intro d hd
  obtain rfl : c = d := by simpa using hd
  exact h

/-- A year of the calendar, before the hyphen of its date. -/
theorem year_yearText {y : Int} (low : Date.firstYear ≤ y) (high : y ≤ Date.lastYear)
    (rest : List Char) :
    year ((Instant.yearText y).toList ++ '-' :: rest) = some (y, '-' :: rest) := by
  simp only [Date.firstYear, Date.lastYear] at low high
  have hsigned := signedDigits_padded (n := y.natAbs) (by omega) 4
    (endsDigits_cons (c := '-') (by decide) rest)
  unfold Instant.yearText
  split
  · rename_i hplain
    have hlength := length_padded 4 (n := y.toNat) (by omega) (by decide)
    rw [year_digits (digits_padded 4 y.toNat) hlength, valueOf_padded]
    simp [hplain.1]
  · rename_i hsign
    split
    · rename_i hneg
      have hvalue : -Int.ofNat y.natAbs = y := by
        simp only [Int.ofNat_eq_natCast]
        omega
      rw [String.toList_append]
      change year ('-' :: ((Instant.padded 4 y.natAbs).toList ++ '-' :: rest)) = _
      rw [year_minus, hsigned, Option.map_some]
      simp only [hvalue]
    · rename_i hpos
      have hvalue : Int.ofNat y.natAbs = y := by
        simp only [Int.ofNat_eq_natCast]
        omega
      rw [String.toList_append]
      change year ('+' :: ((Instant.padded 4 y.natAbs).toList ++ '-' :: rest)) = _
      rw [year_plus, hsigned, Option.map_some]
      simp only [hvalue]

theorem fraction_padded (width : Nat) {n : Nat} (hn : n < 10 ^ width) (hpos : 0 < width)
    (hwidth : width ≤ 9) {rest : List Char} (hends : EndsDigits rest) :
    fraction (('.' :: (Instant.padded width n).toList) ++ rest) =
      some (n * 10 ^ (9 - width), rest) := by
  have hdigits := digits_padded width n
  have hlength := length_padded width hn hpos
  have htake := takeWhile_digits hdigits hends
  simp only [List.cons_append, fraction, htake, List.isEmpty_iff, padded_ne_nil, if_false,
    List.take_of_length_le (Nat.le_trans (Nat.le_of_eq hlength) hwidth), valueOf_padded, hlength,
    List.drop_left' hlength, Nat.pow_eq]

theorem fraction_fractionText {nano : Nat} (h : nano < 1000000000) {rest : List Char}
    (hends : EndsDigits rest) (hpoint : rest.head? ≠ some '.') :
    fraction ((Instant.fractionText nano).toList ++ rest) = some (nano, rest) := by
  unfold Instant.fractionText
  split
  · rename_i hzero
    subst hzero
    cases rest with
    | nil => rfl
    | cons c rest =>
      have hc : c ≠ '.' := by
        rintro rfl
        exact hpoint rfl
      simp [fraction, hc]
  · split
    · rename_i hmilli
      rw [String.toList_append]
      refine (fraction_padded 3 (n := nano / 1000000) (by omega) (by decide) (by decide)
        hends).trans ?_
      congr 2
      omega
    · split
      · rename_i hmicro
        rw [String.toList_append]
        refine (fraction_padded 6 (n := nano / 1000) (by omega) (by decide) (by decide)
          hends).trans ?_
        congr 2
        omega
      · rw [String.toList_append]
        refine (fraction_padded 9 (n := nano) (by omega) (by decide) (by decide)
          hends).trans ?_
        simp

/-! ## Instants -/

/-- The instants that are written as a date of the calendar, with a second of at most 60. -/
structure Writable (t : Instant) : Prop where
  firstYear_le : Date.firstYear ≤ t.date.year
  le_lastYear : t.date.year ≤ Date.lastYear
  inserted : 1000000000 ≤ t.nano → t.second % 60 = 59

/-- The characters of an instant, part by part. -/
theorem toList_rfc3339 (t : Instant) : t.rfc3339.toList =
    (Instant.yearText t.date.year).toList ++ '-' :: ((Instant.padded 2 t.date.month).toList ++
      '-' :: ((Instant.padded 2 t.date.day).toList ++ 'T' :: ((Instant.padded 2 t.hour).toList ++
        ':' :: ((Instant.padded 2 t.minute).toList ++
          ':' :: ((Instant.padded 2 t.secondOfMinute).toList ++
            ((Instant.fractionText (t.nano % 1000000000)).toList ++ ['Z'])))))) := by
  simp [Instant.rfc3339, Instant.dateText, Instant.clockText]

/-- The parts of an instant name it. -/
theorem instantOf?_parts {t : Instant} (h : Writable t) :
    instantOf? t.date t.hour t.minute t.secondOfMinute (t.nano % 1000000000) 0 = some t := by
  obtain ⟨low, high, inserted⟩ := h
  have hvalid : t.date.isValid = true := isValid_ofDays low high
  have hdays : t.date.toDays = t.day := toDays_ofDays t.day
  have hsecond := t.second_lt
  have hnano := t.nano_lt
  have hminute : t.second % 60 < 60 := Nat.mod_lt _ (by decide)
  have hlocal : ((t.hour * 3600 + t.minute * 60 + min t.secondOfMinute 59 : Nat) : Int) = t.second := by
    simp only [Instant.hour, Instant.minute, Instant.secondOfMinute]
    omega
  have hinserted : t.nano % 1000000000 + (if t.secondOfMinute = 60 then 1000000000 else 0) = t.nano := by
    unfold Instant.secondOfMinute
    by_cases behind : 1000000000 ≤ t.nano
    · have hsixty : t.second % 60 + t.nano / 1000000000 = 60 := by omega
      rw [if_pos hsixty]
      omega
    · have hnotSixty : t.second % 60 + t.nano / 1000000000 ≠ 60 := by omega
      rw [if_neg hnotSixty]
      omega
  have hday : t.date.toDays + ((t.second : Int) - 0) / 86400 = t.day := by omega
  have hclock : (((t.second : Int) - 0) % 86400).toNat = t.second := by omega
  have hlocal' : (t.hour * 3600 + t.minute * 60 + (min t.secondOfMinute 59 : Nat) : Int) = t.second := by
    exact_mod_cast hlocal
  unfold instantOf?
  rw [if_pos ⟨hvalid, by decide, by decide⟩]
  simp only [hlocal', hday, hclock, hinserted]
  rw [dif_pos ⟨hsecond, hnano⟩, if_pos ⟨low, high⟩]

theorem daysInMonth_le (year : Int) (month : Nat) : daysInMonth year month ≤ 31 := by
  unfold daysInMonth
  split_ifs <;> omega

/-- The clock time and the zone, which follow a date and the mark between them. -/
def clock? (date : Date) (cs : List Char) : Option Instant := do
  let (hour, cs) ← field 0 23 cs
  let cs ← punctuation ':' cs
  let (minute, cs) ← field 0 59 cs
  let cs ← punctuation ':' cs
  let (second, cs) ← field 0 60 cs
  let (nano, cs) ← fraction cs
  let (ahead, cs) ← zone (skipBlanks cs)
  if cs.all Text.isBlank then instantOf? date hour minute second nano ahead else none

theorem ofRfc3339?_eq_some_iff {cs : List Char} {t : Instant} : ofRfc3339? cs = some t ↔
    ∃ y cs₁ cs₂ month cs₃ cs₄ day mark cs₅, year cs = some (y, cs₁) ∧
      punctuation '-' cs₁ = some cs₂ ∧ field 1 12 cs₂ = some (month, cs₃) ∧
      punctuation '-' cs₃ = some cs₄ ∧ field 1 31 cs₄ = some (day, mark :: cs₅) ∧
      (mark = 'T' ∨ mark = 't' ∨ mark = ' ') ∧ clock? ⟨y, month, day⟩ cs₅ = some t := by
  constructor
  · intro h
    unfold ofRfc3339? at h
    obtain ⟨⟨y, cs₁⟩, hyear, h⟩ := Option.bind_eq_some_iff.1 h
    obtain ⟨cs₂, hhyphen, h⟩ := Option.bind_eq_some_iff.1 h
    obtain ⟨⟨month, cs₃⟩, hmonth, h⟩ := Option.bind_eq_some_iff.1 h
    obtain ⟨cs₄, hhyphen', h⟩ := Option.bind_eq_some_iff.1 h
    obtain ⟨⟨day, cs₅⟩, hday, h⟩ := Option.bind_eq_some_iff.1 h
    dsimp only at h
    split at h
    · rename_i mark rest
      split at h
      · rename_i hmark
        exact ⟨y, cs₁, cs₂, month, cs₃, cs₄, day, mark, rest, hyear, hhyphen, hmonth, hhyphen',
          hday, hmark, h⟩
      · cases h
    · cases h
  · rintro ⟨y, cs₁, cs₂, month, cs₃, cs₄, day, mark, cs₅, hyear, hhyphen, hmonth, hhyphen', hday,
      hmark, h⟩
    unfold ofRfc3339?
    refine Option.bind_eq_some_iff.2 ⟨(y, cs₁), hyear, ?_⟩
    refine Option.bind_eq_some_iff.2 ⟨cs₂, hhyphen, ?_⟩
    refine Option.bind_eq_some_iff.2 ⟨(month, cs₃), hmonth, ?_⟩
    refine Option.bind_eq_some_iff.2 ⟨cs₄, hhyphen', ?_⟩
    refine Option.bind_eq_some_iff.2 ⟨(day, mark :: cs₅), hday, ?_⟩
    dsimp only
    rw [if_pos hmark]
    exact h

theorem clock?_eq_some_iff {date : Date} {cs : List Char} {t : Instant} :
    clock? date cs = some t ↔
      ∃ hour cs₁ cs₂ minute cs₃ cs₄ second cs₅ nano cs₆ ahead cs₇, field 0 23 cs = some (hour, cs₁) ∧
        punctuation ':' cs₁ = some cs₂ ∧ field 0 59 cs₂ = some (minute, cs₃) ∧
        punctuation ':' cs₃ = some cs₄ ∧ field 0 60 cs₄ = some (second, cs₅) ∧
        fraction cs₅ = some (nano, cs₆) ∧ zone (skipBlanks cs₆) = some (ahead, cs₇) ∧
        cs₇.all Text.isBlank = true ∧ instantOf? date hour minute second nano ahead = some t := by
  simp [clock?, Option.bind_eq_some_iff, Prod.exists]

/-- **Instants.** An instant is read back from its text. -/
theorem ofRfc3339?_rfc3339 {t : Instant} (h : Writable t) :
    ofRfc3339? t.rfc3339.toList = some t := by
  obtain ⟨m1, m12, d1, dlast⟩ := isDay_ofDays t.day
  have d31 := Nat.le_trans dlast (daysInMonth_le _ _)
  have hsecond := t.second_lt
  have hnano := t.nano_lt
  have hour23 : t.hour ≤ 23 := by
    unfold Instant.hour
    omega
  have minute59 : t.minute ≤ 59 := by
    unfold Instant.minute
    omega
  have second60 : t.secondOfMinute ≤ 60 := by
    unfold Instant.secondOfMinute
    omega
  have hpart : t.nano % 1000000000 < 1000000000 := Nat.mod_lt _ (by decide)
  have hfraction := fraction_fractionText hpart (endsDigits_cons (c := 'Z') (by decide) [])
    (by decide)
  rw [toList_rfc3339, ofRfc3339?_eq_some_iff]
  refine ⟨t.date.year, _, _, t.date.month, _, _, t.date.day, 'T', _,
    year_yearText h.firstYear_le h.le_lastYear _, punctuation_cons (by decide) _,
    field_padded (by omega) ⟨m1, m12⟩ _, punctuation_cons (by decide) _,
    field_padded (by omega) ⟨d1, d31⟩ _, .inl rfl, ?_⟩
  rw [clock?_eq_some_iff]
  exact ⟨t.hour, _, _, t.minute, _, _, t.secondOfMinute, _, t.nano % 1000000000, _, 0, [],
    field_padded (by omega) ⟨Nat.zero_le _, hour23⟩ _, punctuation_cons (by decide) _,
    field_padded (by omega) ⟨Nat.zero_le _, minute59⟩ _, punctuation_cons (by decide) _,
    field_padded (by omega) ⟨Nat.zero_le _, second60⟩ _, hfraction, by decide, rfl,
    instantOf?_parts h⟩

/-! ## What can be read -/

theorem fraction_lt {cs rest : List Char} {nano : Nat} (h : fraction cs = some (nano, rest)) :
    nano < 1000000000 := by
  unfold fraction at h
  split at h
  · rename_i tail
    simp only [Option.ite_none_left_eq_some, Option.some.injEq, Prod.mk.injEq] at h
    obtain ⟨-, rfl, -⟩ := h
    have hdigits : Digits ((tail.takeWhile Char.isDigit).take 9) := by
      intro c hc
      exact (List.all_eq_true.1 (List.all_takeWhile (p := Char.isDigit) (l := tail))) c
        (List.mem_of_mem_take hc)
    have hlength : ((tail.takeWhile Char.isDigit).take 9).length ≤ 9 := List.length_take_le _ _
    generalize (tail.takeWhile Char.isDigit).take 9 = kept at hdigits hlength ⊢
    calc valueOf kept * Nat.pow 10 (9 - kept.length)
      _ < 10 ^ kept.length * 10 ^ (9 - kept.length) :=
        Nat.mul_lt_mul_of_pos_right (valueOf_lt hdigits) (Nat.pow_pos (by decide))
      _ = 1000000000 := by
        rw [← Nat.pow_add, Nat.add_sub_cancel' hlength]
  · obtain ⟨rfl, -⟩ : 0 = nano ∧ cs = rest := by simpa using h
    decide

/-- The hours and minutes that follow the sign of an offset. -/
def afterSign (sign : Bool) : Reader Int := fun cs => do
  let (hours, rest) ← twoDigits cs
  let (minutes, rest) ← twoDigits (rest.dropWhile fun c => c = ':' || Text.isBlank c)
  if minutes < 60 then
    let seconds : Int := hours * 3600 + minutes * 60
    some (if sign then seconds else -seconds, rest)
  else none

theorem afterSign_mod {sign : Bool} {cs rest : List Char} {ahead : Int}
    (h : afterSign sign cs = some (ahead, rest)) : ahead % 60 = 0 := by
  obtain ⟨⟨hours, rest₁⟩, -, h⟩ := Option.bind_eq_some_iff.1 h
  obtain ⟨⟨minutes, rest₂⟩, -, h⟩ := Option.bind_eq_some_iff.1 h
  simp only [Option.ite_none_right_eq_some, Option.some.injEq, Prod.mk.injEq] at h
  obtain ⟨-, rfl, -⟩ := h
  split <;> omega

theorem offset_eq {cs : List Char} {found : Int × List Char} (h : offset cs = some found) :
    ∃ sign cs', afterSign sign cs' = some found := by
  unfold offset at h
  split at h
  · exact ⟨true, _, h⟩
  · exact ⟨false, _, h⟩
  · exact ⟨false, _, h⟩
  · cases h

/-- Zones are ahead by whole minutes. -/
theorem zone_mod {cs rest : List Char} {ahead : Int} (h : zone cs = some (ahead, rest)) :
    ahead % 60 = 0 := by
  unfold zone at h
  split at h
  · obtain ⟨rfl, -⟩ : 0 = ahead ∧ cs.drop 3 = rest := by simpa using h
    rfl
  · split at h
    · obtain ⟨rfl, -⟩ : 0 = ahead ∧ _ = rest := by simpa using h
      rfl
    · obtain ⟨rfl, -⟩ : 0 = ahead ∧ _ = rest := by simpa using h
      rfl
    · obtain ⟨sign, cs', hafter⟩ := offset_eq h
      exact afterSign_mod hafter

theorem writable_of_instantOf? {date : Date} {hour minute second nano : Nat} {ahead : Int}
    {t : Instant} (h : instantOf? date hour minute second nano ahead = some t)
    (hsecond : second ≤ 60) (hnano : nano < 1000000000) (hahead : ahead % 60 = 0) : Writable t := by
  simp only [instantOf?, Option.ite_none_right_eq_some, Option.dite_none_right_eq_some,
    Option.some.injEq] at h
  obtain ⟨-, hbounds, ⟨low, high⟩, rfl⟩ := h
  refine ⟨low, high, ?_⟩
  intro behind
  -- Only a second 60 has so many nanoseconds, and zones leave the second of the minute.
  have hsixty : second = 60 := by
    by_contra hne
    simp only [hne, if_false] at behind
    omega
  subst hsixty
  show (_ : Nat) % 60 = 59
  simp
  omega

theorem field_le {least greatest n : Nat} {cs rest : List Char}
    (h : field least greatest cs = some (n, rest)) : n ≤ greatest := by
  obtain ⟨⟨m, rest'⟩, -, h⟩ := Option.bind_eq_some_iff.1 h
  simp only [Option.ite_none_right_eq_some, Option.some.injEq, Prod.mk.injEq] at h
  obtain ⟨⟨-, hle⟩, rfl, -⟩ := h
  exact hle

/-- **What is read is written.** An instant that is read lies in the years of the calendar, and a
second 60 follows a second 59, whatever the zone was. -/
theorem writable_of_ofRfc3339? {cs : List Char} {t : Instant} (h : ofRfc3339? cs = some t) :
    Writable t := by
  obtain ⟨y, -, -, month, -, -, day, -, cs', -, -, -, -, -, -, h⟩ := ofRfc3339?_eq_some_iff.1 h
  obtain ⟨hour, _, _, minute, _, _, second, _, nano, _, ahead, _, -, -, -, -, hsecond, hnano, hahead,
    -, h⟩ := clock?_eq_some_iff.1 h
  exact writable_of_instantOf? h (field_le hsecond) (fraction_lt hnano) (zone_mod hahead)

end Predictor.Time
