import Predictor.Proofs.Json.Deviation
import Predictor.Proofs.Json.RoundTrip
import Predictor.Proofs.Label.Winner

/-!
Raw results in JSON. A result of finite scores is written and read again with its indices in place,
and each score is read as the number `Binary64.reread` (`RawResult.ofBytes?_render`). What is accepted
as a result has finite scores only (`RawResult.isFinite_of_ofBytes?`), so it can be written and read
again as well. Main statement: what such a result keeps, its label among it
(`RawResult.survives_wire_format`).
-/

namespace Predictor

/-! ## Numerals are finite -/

namespace Json.Numeral

open Binary64

theorem appendWhole_le {s : Nat} (hs : s ≤ maxSignificand) (digits : List Nat) :
    (appendWhole s digits).1 ≤ maxSignificand := by
  induction digits generalizing s with
  | nil => exact hs
  | cons d rest ih =>
    rw [appendWhole]
    split
    · exact hs
    · exact ih (Nat.not_lt.1 ‹_›)

theorem appendFraction_le {s : Nat} (hs : s ≤ maxSignificand) (digits : List Nat) :
    (appendFraction s digits).1 ≤ maxSignificand := by
  induction digits generalizing s with
  | nil => exact hs
  | cons d rest ih =>
    rw [appendFraction]
    split
    · exact hs
    · exact ih (Nat.not_lt.1 ‹_›)

theorem magnitude?_isFinite {n : Numeral} {y : Binary64} (h : magnitude? n = some y) :
    y.isFinite = true ∧ y.isNegative = false := by
  have hfit := appendFraction_le (appendWhole_le (Nat.zero_le _) n.whole) n.fraction
  simp only [magnitude?] at h
  generalize (appendFraction (appendWhole 0 n.whole).1 n.fraction).1 = s at *
  split at h
  · exact scaledByPower?_isFinite hfit h
  · split_ifs at h
    · rw [← Option.some.inj h]
      exact ⟨by decide, by decide⟩
    · exact scaledByPower?_isFinite hfit h
    · exact scaledByPower?_isFinite hfit h

/-- A numeral that has a value has a finite one. -/
theorem double?_isFinite {n : Numeral} {x : Binary64} (h : double? n = some x) :
    x.isFinite = true := by
  obtain ⟨y, hy, rfl⟩ := Option.map_eq_some_iff.1 h
  obtain ⟨hfin, hsign⟩ := magnitude?_isFinite hy
  split
  · have hself := pack_significand_unit hfin
    rw [hsign] at hself
    rw [← hself, neg_pack (packMagnitude_lt_signBit (fits hfin))]
    exact isFinite_pack true (packMagnitude_lt (fits hfin))
  · exact hfin

end Json.Numeral

/-! ## Scores -/

namespace Scores

/-- Each score changed, in its place. -/
def map (f : Binary64 → Binary64) (scores : Scores) : Scores :=
  ⟨scores.entries.map fun e => (e.1, f e.2), List.pairwise_map.2 scores.ascending⟩

theorem map_eq_self_iff {f : Binary64 → Binary64} {scores : Scores} :
    scores.map f = scores ↔ ∀ e ∈ scores.entries, f e.2 = e.2 := by
  obtain ⟨entries, ascending⟩ := scores
  have hentries : entries.map (fun e => (e.1, f e.2)) = entries.map id ↔
      ∀ e ∈ entries, (e.1, f e.2) = e := List.map_inj_left
  rw [List.map_id] at hentries
  simp only [map, mk.injEq, hentries, Prod.ext_iff, true_and]

theorem mem_foldl_insert {pairs : List (UInt32 × Binary64)} {scores : Scores}
    {e : UInt32 × Binary64}
    (h : e ∈ (pairs.foldl (fun scores pair => scores.insert pair.1 pair.2) scores).entries) :
    e ∈ scores.entries ∨ e ∈ pairs := by
  induction pairs generalizing scores with
  | nil => exact .inl h
  | cons pair rest ih =>
    rcases ih h with h | h
    · rcases mem_place h with rfl | h
      · exact .inr List.mem_cons_self
      · exact .inl h
    · exact .inr (List.mem_cons_of_mem _ h)

/-- Every entry of a mapping is one of the pairs it is made of. -/
theorem mem_ofList {pairs : List (UInt32 × Binary64)} {e : UInt32 × Binary64}
    (h : e ∈ (ofList pairs).entries) : e ∈ pairs :=
  (mem_foldl_insert h).resolve_left (by simp [empty])

theorem place_last {index : UInt32} {score : Binary64} {entries : List (UInt32 × Binary64)}
    (h : ∀ e ∈ entries, e.1 < index) : place index score entries = entries ++ [(index, score)] := by
  induction entries with
  | nil => rfl
  | cons e rest ih =>
    obtain ⟨he, hrest⟩ := List.forall_mem_cons.1 h
    rw [place, if_neg (UInt32.lt_asymm he), if_pos he, ih hrest]
    rfl

theorem foldl_insert_entries {pairs : List (UInt32 × Binary64)} {scores : Scores}
    (h : (scores.entries ++ pairs).Pairwise fun a b => a.1 < b.1) :
    (pairs.foldl (fun scores pair => scores.insert pair.1 pair.2) scores).entries =
      scores.entries ++ pairs := by
  induction pairs generalizing scores with
  | nil => simp
  | cons pair rest ih =>
    have hinsert : (scores.insert pair.1 pair.2).entries = scores.entries ++ [pair] :=
      place_last fun e he => (List.pairwise_append.1 h).2.2 e he pair List.mem_cons_self
    rw [List.foldl_cons, ih (by simpa [hinsert] using h), hinsert]
    simp

/-- Pairs in ascending order are the mapping they make. -/
theorem ofList_entries (scores : Scores) : ofList scores.entries = scores := by
  have hentries : (ofList scores.entries).entries = scores.entries :=
    foldl_insert_entries (by simpa [empty] using scores.ascending)
  cases h : ofList scores.entries with
  | mk entries ascending =>
    rw [h] at hentries
    subst hentries
    rfl

end Scores

namespace RawResult

open Json Numeral Binary64

/-- What holds of every score. -/
def Each (p : Binary64 → Prop) (raw : RawResult) : Prop :=
  ∀ scores ∈ raw.scores, ∀ e ∈ scores.entries, p e.2

/-- Every score is a finite number. -/
def IsFinite (raw : RawResult) : Prop := raw.Each fun x => x.isFinite = true

/-- The result whose scores are what is read where those of `raw` are written. -/
def reread (raw : RawResult) : RawResult := ⟨raw.scores.map (Scores.map Binary64.reread)⟩

/-! ## Keys -/

theorem bytesOf_index (index : UInt32) :
    bytesOf (toString index) = ascii (Nat.toDigits 10 index.toNat) := by
  have htext : toString index = String.ofList (Nat.toDigits 10 index.toNat) :=
    Nat.toString_eq_ofList_toDigits
  rw [htext, bytesOf_ofList (digits_toDigits _).ascii_lt]

theorem leads_index (index : UInt32) : Leads (Nat.toDigits 10 index.toNat) := by
  rcases Nat.eq_zero_or_pos index.toNat with h | h
  · rw [h]
    exact ⟨by decide, .inl (by decide)⟩
  · have hleads := leads_toDigits h []
    rwa [List.append_nil] at hleads

/-- **Keys.** Every index is read back from its key. -/
theorem readIndex?_toString (index : UInt32) : readIndex? (bytesOf (toString index)) = some index := by
  have hspell := ofBytes?_spell false none (digits_toDigits index.toNat)
    (leads_index index) (fun c hc => absurd hc List.not_mem_nil)
  have hspelled : spell (Nat.toDigits 10 index.toNat) [] none = Nat.toDigits 10 index.toNat := by
    simp [spell, spellExponent]
  rw [hspelled, ← bytesOf_index, if_neg Bool.false_ne_true, List.nil_append] at hspell
  have hnatural : natural? ⟨false, digitsOf (bytesOf (toString index)), digitsOf (ascii []), none⟩ =
      some index.toNat := by
    have hvalue := foldl_digitsOf (digits_toDigits index.toNat) 0
    rw [Nat.ofDigitChars_ten_toDigits, ← bytesOf_index] at hvalue
    exact congrArg some hvalue
  have hlt : index.toNat < 0x100000000 := index.toNat_lt
  simp only [readIndex?, Tree.word32?, hspell, readExponent, Option.map_none, Option.bind_some,
    hnatural, Option.bind_eq_bind, hlt, if_true, UInt32.ofNat_toNat]

theorem quotable_index (index : UInt32) : Quotable (bytesOf (toString index)) := by
  refine quotable_of_plain fun b hb => ?_
  rw [bytesOf_index] at hb
  have hdigit := (digits_toDigits index.toNat).isDigit_ascii b hb
  simp only [isDigit, Bool.and_eq_true, decide_eq_true_eq, UInt8.le_iff_toNat_le] at hdigit
  obtain ⟨hlow, hhigh⟩ := hdigit
  refine ⟨?_, Nat.lt_of_le_of_lt hhigh (by decide), ?_, ?_⟩
  · exact UInt8.le_iff_toNat_le.2 (Nat.le_trans (by decide) hlow)
  · rintro rfl
    exact absurd hlow (by decide)
  · rintro rfl
    exact absurd hhigh (by decide)

/-! ## Scores -/

theorem double?_ofDouble {x : Binary64} (hx : x.isFinite = true) :
    (Tree.ofDouble x).double? = some x.reread := by
  rw [Tree.ofDouble, if_pos hx]
  exact double?_numberText hx

theorem wellFormed_ofDouble (x : Binary64) : (Tree.ofDouble x).WellFormed := by
  rw [Tree.ofDouble]
  split
  · rename_i hx
    rw [Tree.WellFormed]
    cases h : Numeral.ofBytes? (bytesOf (numberText x)) with
    | none =>
      have hread := double?_numberText hx
      simp [h] at hread
    | some n => rfl
  · rw [Tree.WellFormed]
    trivial

theorem mapM_some {α β γ : Type} {f : α → β} {g : β → Option γ} {h : α → γ} {l : List α}
    (hall : ∀ a ∈ l, g (f a) = some (h a)) : (l.map f).mapM g = some (l.map h) := by
  induction l with
  | nil => rfl
  | cons a rest ih =>
    obtain ⟨ha, hrest⟩ := List.forall_mem_cons.1 hall
    simp [ha, ih hrest]

/-- One member of a mapping. -/
def readPair? (member : Bytes × Tree) : Option (UInt32 × Binary64) := do
  let index ← readIndex? member.1
  let score ← member.2.double?
  some (index, score)

theorem readScores?_object (members : List (Bytes × Tree)) :
    readScores? (.object members) = (members.mapM readPair?).map Scores.ofList := by
  rw [readScores?, Option.map_eq_bind]
  rfl

theorem readScores?_scoresTree {scores : Scores}
    (h : ∀ e ∈ scores.entries, e.2.isFinite = true) :
    readScores? (scoresTree scores) = some (scores.map Binary64.reread) := by
  have htree : scoresTree scores =
      .object (scores.entries.map fun e => (bytesOf (toString e.1), Tree.ofDouble e.2)) := rfl
  rw [htree, readScores?_object, mapM_some (h := fun e => (e.1, e.2.reread))]
  · exact congrArg some (Scores.ofList_entries (scores.map Binary64.reread))
  · intro e he
    simp [readPair?, readIndex?_toString, double?_ofDouble (h e he)]

theorem wellFormed_scoresTree (scores : Scores) : (scoresTree scores).WellFormed := by
  have hmembers : ∀ entries : List (UInt32 × Binary64), Tree.AreWellFormedMembers
      (entries.map fun entry => (bytesOf (toString entry.1), Tree.ofDouble entry.2)) := by
    intro entries
    induction entries with
    | nil => trivial
    | cons e rest ih => exact ⟨quotable_index e.1, wellFormed_ofDouble e.2, ih⟩
  rw [scoresTree, Tree.WellFormed]
  exact hmembers scores.entries

/-! ## Results -/

/-- The key of the mapping stands for itself in quotes. -/
theorem scores_key :
    Quotable (bytesOf "scores") ∧ denoted? (bytesOf "scores") = some "scores" :=
  ⟨quotable_of_plain (by decide +kernel), by decide +kernel⟩

theorem wellFormed_toTree (raw : RawResult) : raw.toTree.WellFormed := by
  have hscores : (Tree.ofOption scoresTree raw.scores).WellFormed := by
    cases raw.scores with
    | none =>
      rw [Tree.ofOption, Tree.WellFormed]
      trivial
    | some scores => exact wellFormed_scoresTree scores
  rw [toTree, Tree.WellFormed]
  exact ⟨scores_key.1, hscores, trivial⟩

theorem ofTree?_toTree {raw : RawResult} (h : raw.IsFinite) :
    ofTree? raw.toTree = some raw.reread := by
  have hmembers : ∀ t, ofTree? (.object [(bytesOf "scores", t)]) =
      (Tree.optional? readScores? (some t)).map RawResult.mk := by
    intro t
    simp [ofTree?, Tree.keyed?, scores_key.2, Tree.member?]
  obtain ⟨_ | scores⟩ := raw
  · exact hmembers .null
  · have hread := readScores?_scoresTree (h scores rfl)
    rw [toTree, hmembers]
    simp only [Tree.ofOption, scoresTree, Tree.optional?] at hread ⊢
    rw [hread]
    rfl

/-- **Reading what was written.** A result of finite scores is read back with each score reread. -/
theorem ofBytes?_render {raw : RawResult} (h : raw.IsFinite) :
    ofBytes? (bytesOf raw.toTree.render) = some raw.reread := by
  have hwell := wellFormed_toTree raw
  rw [Tree.bytesOf_render hwell, ofBytes?, Tree.ofBytes?_write hwell, Option.bind_some,
    ofTree?_toTree h]

/-! ## Accepted bytes -/

theorem mem_of_mapM {α β : Type} {f : α → Option β} {l : List α} {found : List β}
    (h : l.mapM f = some found) {b : β} (hb : b ∈ found) : ∃ a ∈ l, f a = some b := by
  induction l generalizing found with
  | nil =>
    obtain rfl : [] = found := Option.some.inj h
    exact absurd hb List.not_mem_nil
  | cons a rest ih =>
    rw [List.mapM_cons] at h
    obtain ⟨b', ha, h⟩ := Option.bind_eq_some_iff.1 h
    obtain ⟨found', hrest, h⟩ := Option.bind_eq_some_iff.1 h
    obtain rfl := Option.some.inj h
    rcases List.mem_cons.1 hb with rfl | hb
    · exact ⟨a, List.mem_cons_self, ha⟩
    · obtain ⟨a', ha', hfound⟩ := ih hrest hb
      exact ⟨a', List.mem_cons_of_mem a ha', hfound⟩

theorem readScores?_finite {t : Tree} {scores : Scores} (h : readScores? t = some scores) :
    ∀ e ∈ scores.entries, e.2.isFinite = true := by
  cases t with
  | object members =>
    rw [readScores?_object] at h
    obtain ⟨pairs, hpairs, rfl⟩ := Option.map_eq_some_iff.1 h
    intro e he
    obtain ⟨m, -, hm⟩ := mem_of_mapM hpairs (Scores.mem_ofList he)
    obtain ⟨index, -, hm⟩ := Option.bind_eq_some_iff.1 hm
    obtain ⟨score, hscore, hm⟩ := Option.bind_eq_some_iff.1 hm
    obtain rfl := Option.some.inj hm
    obtain ⟨key, value⟩ := m
    cases value with
    | number text =>
      obtain ⟨n, -, hn⟩ := Option.bind_eq_some_iff.1 hscore
      exact double?_isFinite hn
    | _ => simp [Tree.double?] at hscore
  | _ => simp [readScores?] at h

theorem optional?_finite {part : Option Tree} {scores : Option Scores}
    (h : Tree.optional? readScores? part = some scores) : (⟨scores⟩ : RawResult).IsFinite := by
  intro found hfound e he
  rw [Option.mem_def] at hfound
  subst hfound
  unfold Tree.optional? at h
  split at h
  · simp at h
  · simp at h
  · obtain ⟨found', hread, heq⟩ := Option.map_eq_some_iff.1 h
    obtain rfl := Option.some.inj heq
    exact readScores?_finite hread e he

/-- **Accepted results are finite.** -/
theorem isFinite_of_ofBytes? {bytes : Bytes} {raw : RawResult} (h : ofBytes? bytes = some raw) :
    raw.IsFinite := by
  obtain ⟨t, -, ht⟩ := Option.bind_eq_some_iff.1 h
  unfold ofTree? at ht
  split at ht
  · obtain ⟨members, -, ht⟩ := Option.bind_eq_some_iff.1 ht
    obtain ⟨scores, -, ht⟩ := Option.bind_eq_some_iff.1 ht
    obtain ⟨found, hfound, rfl⟩ := Option.map_eq_some_iff.1 ht
    exact optional?_finite hfound
  · obtain rfl := Option.some.inj ht
    intro scores hscores
    simp at hscores
  · obtain ⟨found, hfound, rfl⟩ := Option.map_eq_some_iff.1 ht
    exact optional?_finite hfound
  · simp at ht

theorem isFinite_reread {raw : RawResult} (h : raw.IsFinite) : raw.reread.IsFinite := by
  intro scores hscores e he
  obtain ⟨before, hbefore, rfl⟩ := Option.map_eq_some_iff.1 hscores
  obtain ⟨e', he', rfl⟩ := List.mem_map.1 he
  exact (reread_spec (h before hbefore e' he')).1

/-! ## What is kept -/

/-- A result comes back unchanged when each of its scores does. -/
theorem reread_eq_iff {raw : RawResult} : raw.reread = raw ↔ raw.Each fun x => x.reread = x := by
  obtain ⟨_ | scores⟩ := raw
  · exact ⟨fun _ _ hscores => absurd hscores (by simp), fun _ => rfl⟩
  · simp [reread, Each, Scores.map_eq_self_iff]

/-- Every score at another index is more than `n` places below. -/
def LeadsBy (n : Nat) (raw : RawResult) (index : UInt32) (score : Binary64) : Prop :=
  ∀ scores ∈ raw.scores, ∀ e ∈ scores.entries, e.1 ≠ index → e.2.rank + n < score.rank

/-- A winner that leads clearly is still the winner: it falls by five places at most, and no other
score rises by more. -/
theorem wins_map_reread {scores : Scores} {top : UInt32 × Binary64}
    (hfin : ∀ e ∈ scores.entries, e.2.isFinite = true) (h : LabelTable.Wins scores.entries top)
    (hlead : ∀ e ∈ scores.entries, e.1 ≠ top.1 → e.2.rank + 10 < top.2.rank) :
    LabelTable.Wins (scores.map Binary64.reread).entries (top.1, top.2.reread) := by
  have hfin' : ∀ e ∈ scores.entries, e.2.reread.isFinite = true := fun e he =>
    (reread_spec (hfin e he)).1
  have hbelow : ∀ e ∈ scores.entries, e.1 ≠ top.1 → e.2.reread.rank < top.2.reread.rank := by
    intro e he hne
    obtain ⟨hup, -⟩ := reread_apart_five (hfin e he)
    obtain ⟨-, hdown⟩ := reread_apart_five (hfin top h.mem)
    have hgap := hlead e he hne
    omega
  refine ⟨List.mem_map_of_mem h.mem, isNaN_of_isFinite (hfin' top h.mem), ?_, ?_⟩
  · rintro _ hmapped -
    obtain ⟨e, he, rfl⟩ := List.mem_map.1 hmapped
    by_cases hsame : e.1 = top.1
    · rw [Scores.eq_of_index_eq he h.mem hsame]
      exact le_refl (isNaN_of_isFinite (hfin' top h.mem))
    · exact (le_iff_rank (hfin' e he) (hfin' top h.mem)).2 (Int.le_of_lt (hbelow e he hsame))
  · rintro _ hmapped hlt
    obtain ⟨e, he, rfl⟩ := List.mem_map.1 hmapped
    rw [le_iff_rank (hfin' top h.mem) (hfin' e he)]
    exact Int.not_le.2 (hbelow e he (UInt32.ne_of_lt hlt))

/-- What a raw result keeps when `again` is read from its text. The label may go to another category
only where the winner leads by ten places or less. -/
structure Survives (raw again : RawResult) : Prop where
  reread : again = raw.reread
  isFinite : again.IsFinite
  comesBack : raw.Each fun x => ComesBack x x.reread
  same_iff : again = raw ↔ raw.Each fun x => x.reread = x
  unchanged : (raw.Each fun x => x.reread = x) → again.toTree.render = raw.toTree.render ∧
    ∀ table : LabelTable, table.decode again = table.decode raw
  undefined_iff : ∀ table : LabelTable,
    table.decode again = .undefined ↔ table.decode raw = .undefined
  category : ∀ (table : LabelTable) (index : UInt32) (name : String) (confidence : Binary64),
    table.decode raw = .category index name confidence → raw.LeadsBy 10 index confidence →
      table.decode again = .category index name confidence.reread

theorem decode_reread_eq_undefined_iff {raw : RawResult} (h : raw.IsFinite) (table : LabelTable) :
    table.decode raw.reread = .undefined ↔ table.decode raw = .undefined := by
  rw [LabelTable.decode_eq_undefined_iff, LabelTable.decode_eq_undefined_iff]
  constructor
  · intro hnan scores hscores e he
    have hmapped := hnan _ (Option.mem_map_of_mem _ hscores) _ (List.mem_map_of_mem he)
    rw [isNaN_of_isFinite (reread_spec (h scores hscores e he)).1] at hmapped
    exact absurd hmapped (by decide)
  · intro hnan scores hscores e he
    obtain ⟨before, hbefore, rfl⟩ := Option.map_eq_some_iff.1 hscores
    obtain ⟨e', he', rfl⟩ := List.mem_map.1 he
    have hnumber := hnan before hbefore e' he'
    rw [isNaN_of_isFinite (h before hbefore e' he')] at hnumber
    exact absurd hnumber (by decide)

theorem decode_reread_of_leadsBy {raw : RawResult} (h : raw.IsFinite) {table : LabelTable}
    {index : UInt32} {name : String} {confidence : Binary64}
    (hlabel : table.decode raw = .category index name confidence)
    (hlead : raw.LeadsBy 10 index confidence) :
    table.decode raw.reread = .category index name confidence.reread := by
  obtain ⟨hname, scores, hscores, hwins⟩ := LabelTable.decode_eq_category_iff.1 hlabel
  refine LabelTable.decode_eq_category_iff.2
    ⟨hname, scores.map Binary64.reread, Option.mem_map_of_mem _ hscores, ?_⟩
  exact wins_map_reread (h scores hscores) hwins (hlead scores hscores)

theorem survives_reread {raw : RawResult} (h : raw.IsFinite) : Survives raw raw.reread where
  reread := rfl
  isFinite := isFinite_reread h
  comesBack := fun scores hscores e he => comesBack_reread (h scores hscores e he)
  same_iff := reread_eq_iff
  unchanged := fun heach => by
    rw [reread_eq_iff.2 heach]
    exact ⟨rfl, fun _ => rfl⟩
  undefined_iff := decode_reread_eq_undefined_iff h
  category := fun _ _ _ _ => decode_reread_of_leadsBy h

/-- **Raw results survive their wire format**, up to what reading decimal digits does to a number.
Every result of finite scores is read back from its text with its indices in place and each score the
number its digits are read as; every byte string that is accepted gives such a result. -/
theorem survives_wire_format :
    (∀ raw : RawResult, raw.IsFinite →
      ∃ again, ofBytes? (bytesOf raw.toTree.render) = some again ∧ Survives raw again) ∧
    ∀ (bytes : Bytes) (raw : RawResult), ofBytes? bytes = some raw → raw.IsFinite ∧
      ∃ again, ofBytes? (bytesOf raw.toTree.render) = some again ∧ Survives raw again := by
  have hfinite : ∀ raw : RawResult, raw.IsFinite →
      ∃ again, ofBytes? (bytesOf raw.toTree.render) = some again ∧ Survives raw again :=
    fun raw h => ⟨raw.reread, ofBytes?_render h, survives_reread h⟩
  refine ⟨hfinite, fun bytes raw h => ?_⟩
  have hraw := isFinite_of_ofBytes? h
  exact ⟨hraw, hfinite raw hraw⟩

/-- Scores of 0.25 and of a number whose sixteen digits are above 2^53. -/
def drifting : RawResult :=
  ⟨some ⟨[(0, ⟨4598175219545276416⟩), (3, ⟨4606751824807339944⟩)], by decide⟩⟩

/-- What is read from the text of `drifting`: the second score is the next number. -/
def drifted : RawResult :=
  ⟨some ⟨[(0, ⟨4598175219545276416⟩), (3, ⟨4606751824807339945⟩)], by decide⟩⟩

theorem isFinite_drifting : drifting.IsFinite := by
  rintro _ ⟨⟩ e he
  rcases List.mem_pair.1 he with rfl | rfl <;> decide

theorem accepted_drifting : ofBytes? (bytesOf
    "\x7b\"scores\":\x7b\"3\":0.95219446350642030,\"0\":25e-2\x7d\x7d") = some drifting := by
  decide +kernel

theorem survives_wire_format_drifting :
    (drifting.IsFinite ∧
      ∃ again, ofBytes? (bytesOf drifting.toTree.render) = some again ∧ Survives drifting again) ∧
    ofBytes? (bytesOf "\x7b\"scores\":\x7b\"3\":0.95219446350642030,\"0\":25e-2\x7d\x7d") =
        some drifting ∧
      drifting.IsFinite ∧
      ∃ again, ofBytes? (bytesOf drifting.toTree.render) = some again ∧ Survives drifting again :=
  ⟨⟨isFinite_drifting, survives_wire_format.1 drifting isFinite_drifting⟩, accepted_drifting,
    survives_wire_format.2 _ drifting accepted_drifting⟩

/-- Not exactly: `drifting` is read from an accepted text, and its own text is read as another result,
whose text and labels differ too. -/
theorem drifting_comes_back_drifted :
    drifting.IsFinite ∧
    ofBytes? (bytesOf "\x7b\"scores\":\x7b\"3\":0.95219446350642030,\"0\":25e-2\x7d\x7d") =
      some drifting ∧
    drifting.toTree.render =
      "\x7b\"scores\":\x7b\"0\":0.25,\"3\":0.9521944635064203\x7d\x7d" ∧
    ofBytes? (bytesOf drifting.toTree.render) = some drifted ∧ drifted ≠ drifting ∧
    drifted.toTree.render ≠ drifting.toTree.render ∧
    ∀ table : LabelTable, table.decode drifted ≠ table.decode drifting := by
  have hbest : drifting.scores.bind LabelTable.best = some (3, ⟨4606751824807339944⟩) := by
    decide +kernel
  have hbest' : drifted.scores.bind LabelTable.best = some (3, ⟨4606751824807339945⟩) := by
    decide +kernel
  refine ⟨isFinite_drifting, accepted_drifting, by decide +kernel, by decide +kernel, by decide,
    by decide +kernel, fun table hlabel => ?_⟩
  rw [LabelTable.decode, LabelTable.decode, hbest, hbest'] at hlabel
  exact absurd (Label.category.inj hlabel).2.2 (by decide)

end RawResult

end Predictor
