import Mathlib.Data.List.TakeWhile
import Mathlib.Tactic.Common
import Predictor.Json.Tree
import Predictor.Proofs.Text.Ascii

/-!
A tree is read back from the bytes it is written in (`Tree.ofBytes?_write`), when its numbers are
numerals and its strings have the form of a string's inside. Both passes follow the tree: the scanner
finds the tokens of a part whatever it has read before (`scan_write`), and the assembly completes the
part whatever container it stands in (`assemble_tokens`).
-/

namespace Predictor.Json

/-! ## Numerals -/

namespace Numeral

theorem isNumberByte_of_isDigit {b : UInt8} (h : isDigit b = true) :
    Scanner.isNumberByte b = true := by
  simp [Scanner.isNumberByte, h]

theorem spanDigits_numberBytes {bytes : List UInt8}
    (h : ∀ b ∈ (spanDigits bytes).2, Scanner.isNumberByte b = true) :
    ∀ b ∈ bytes, Scanner.isNumberByte b = true := by
  intro b hb
  rw [← List.takeWhile_append_dropWhile (p := isDigit) (l := bytes)] at hb
  rcases List.mem_append.1 hb with hb | hb
  · exact isNumberByte_of_isDigit (List.mem_takeWhile_imp hb)
  · exact h b hb

theorem all_numberBytes {bytes : List UInt8} (h : bytes.all isDigit = true) :
    ∀ b ∈ bytes, Scanner.isNumberByte b = true := fun b hb =>
  isNumberByte_of_isDigit (List.all_eq_true.1 h b hb)

theorem splitExponent?_numberBytes {rest : List UInt8} {exponent : Option (Bool × List UInt8)}
    (h : splitExponent? rest = some exponent) : ∀ b ∈ rest, Scanner.isNumberByte b = true := by
  unfold splitExponent? at h
  split at h
  · simp
  · rename_i e rest
    split_ifs at h with hletter
    have hfirst : Scanner.isNumberByte e = true := by
      rcases hletter with rfl | rfl <;> decide
    refine List.forall_mem_cons.2 ⟨hfirst, ?_⟩
    -- The digits that are left behind a sign, or without one.
    obtain ⟨sign, digits, hsplit, hall⟩ : ∃ sign digits, rest = sign ++ digits ∧
        digits.all isDigit = true ∧ ∀ b ∈ sign, Scanner.isNumberByte b = true := by
      split at h
      rename_i negative digits hmatch
      split_ifs at h with hdigits
      have hall := (Bool.and_eq_true_iff.1 hdigits).2
      split at hmatch
      · obtain ⟨-, rfl⟩ := Prod.mk.inj hmatch
        exact ⟨[43], _, rfl, hall, List.forall_mem_singleton.2 (by decide)⟩
      · obtain ⟨-, rfl⟩ := Prod.mk.inj hmatch
        exact ⟨[45], _, rfl, hall, List.forall_mem_singleton.2 (by decide)⟩
      · obtain ⟨-, rfl⟩ := Prod.mk.inj hmatch
        exact ⟨[], _, rfl, hall, by simp⟩
    rw [hsplit]
    exact List.forall_mem_append.2 ⟨hall.2, all_numberBytes hall.1⟩

theorem splitFraction?_numberBytes {rest fraction rest' : List UInt8}
    (h : splitFraction? rest = some (fraction, rest'))
    (h' : ∀ b ∈ rest', Scanner.isNumberByte b = true) :
    ∀ b ∈ rest, Scanner.isNumberByte b = true := by
  unfold splitFraction? at h
  split at h
  · rename_i rest
    simp only at h
    split_ifs at h
    obtain ⟨-, rfl⟩ := Prod.mk.inj (Option.some.inj h)
    exact List.forall_mem_cons.2 ⟨by decide, spanDigits_numberBytes h'⟩
  · obtain ⟨-, rfl⟩ := Prod.mk.inj (Option.some.inj h)
    exact h'

/-- A numeral without a sign begins with a digit and has no other bytes than numbers have. -/
theorem unsigned_numberBytes {bytes fraction rest : List UInt8}
    {exponent : Option (Bool × List UInt8)} (hwhole : isWhole (spanDigits bytes).1 = true)
    (hfraction : splitFraction? (spanDigits bytes).2 = some (fraction, rest))
    (hexponent : splitExponent? rest = some exponent) :
    (∃ b tail, bytes = b :: tail ∧ isDigit b = true) ∧
      ∀ b ∈ bytes, Scanner.isNumberByte b = true := by
  refine ⟨?_, spanDigits_numberBytes
    (splitFraction?_numberBytes hfraction (splitExponent?_numberBytes hexponent))⟩
  cases bytes with
  | nil => simp [spanDigits, isWhole] at hwhole
  | cons b tail =>
    refine ⟨b, tail, rfl, ?_⟩
    by_contra hdigit
    simp [spanDigits, isWhole, hdigit] at hwhole

/-- The bytes of a numeral: it begins as the scanner expects, and goes on with bytes of numbers. -/
theorem ofBytes?_numberBytes {text : List UInt8} (h : (ofBytes? text).isSome = true) :
    ∃ b tail, text = b :: tail ∧ (isDigit b = true ∨ b = 45) ∧
      ∀ b ∈ tail, Scanner.isNumberByte b = true := by
  obtain ⟨n, hn⟩ := Option.isSome_iff_exists.1 h
  simp only [ofBytes?, Option.bind_eq_bind] at hn
  split at hn
  · rename_i rest
    split at hn
    · simp at hn
    · rename_i hwhole
      obtain ⟨⟨fraction, rest'⟩, hfraction, hn⟩ := Option.bind_eq_some_iff.1 hn
      obtain ⟨exponent, hexponent, -⟩ := Option.bind_eq_some_iff.1 hn
      exact ⟨45, rest, rfl, .inr rfl,
        (unsigned_numberBytes (by simpa using hwhole) hfraction hexponent).2⟩
  · split at hn
    · simp at hn
    · rename_i hwhole
      obtain ⟨⟨fraction, rest'⟩, hfraction, hn⟩ := Option.bind_eq_some_iff.1 hn
      obtain ⟨exponent, hexponent, -⟩ := Option.bind_eq_some_iff.1 hn
      obtain ⟨⟨b, tail, rfl, hb⟩, hall⟩ :=
        unsigned_numberBytes (by simpa using hwhole) hfraction hexponent
      exact ⟨b, tail, rfl, .inl hb, fun c hc => hall c (List.mem_cons_of_mem b hc)⟩

end Numeral

/-! ## Well-formed trees -/

/-- What may stand inside a string: a text that the scanner takes into an open string. -/
structure Quotable (inside : Bytes) : Prop where
  isText : IsText inside
  scanned : ∀ read tokens, inside.foldlM Scanner.step? ⟨.string read, tokens⟩ =
    some ⟨.string (inside.reverse ++ read), tokens⟩

/-- Printable ASCII without quotes and backslashes. -/
theorem quotable_of_plain {inside : Bytes}
    (h : ∀ b ∈ inside, 32 ≤ b ∧ b.toNat < 128 ∧ b ≠ 34 ∧ b ≠ 92) : Quotable inside := by
  refine ⟨isText_of_ascii fun b hb => (h b hb).2.1, ?_⟩
  induction inside with
  | nil => intro read tokens; rfl
  | cons b rest ih =>
    obtain ⟨⟨hlow, -, hquote, hslash⟩, hrest⟩ := List.forall_mem_cons.1 h
    intro read tokens
    have hstep : Scanner.step? ⟨.string read, tokens⟩ b = some ⟨.string (b :: read), tokens⟩ := by
      simp [Scanner.step?, hquote, hslash, UInt8.not_lt.2 hlow]
    rw [List.foldlM_cons, hstep, Option.bind_eq_bind, Option.bind_some, ih hrest]
    simp

namespace Tree

mutual

/-- Numbers are numerals, and strings and keys have the form of a string's inside. -/
def WellFormed : Tree → Prop
  | .null => True
  | .bool _ => True
  | .number text => (Numeral.ofBytes? text).isSome = true
  | .string inside => Quotable inside
  | .array items => AreWellFormed items
  | .object members => AreWellFormedMembers members

def AreWellFormed : List Tree → Prop
  | [] => True
  | t :: rest => WellFormed t ∧ AreWellFormed rest

def AreWellFormedMembers : List (Bytes × Tree) → Prop
  | [] => True
  | (key, t) :: rest => Quotable key ∧ WellFormed t ∧ AreWellFormedMembers rest

end

mutual

/-- The tokens of a tree in the order in which they are written. -/
def tokens : Tree → List Token
  | .null => [.word .null]
  | .bool true => [.word .true_]
  | .bool false => [.word .false_]
  | .number text => [.number text]
  | .string inside => [.string inside]
  | .array items => .openArray :: (itemTokens items ++ [.closeArray])
  | .object members => .openObject :: (memberTokens members ++ [.closeObject])

def itemTokens : List Tree → List Token
  | [] => []
  | [t] => tokens t
  | t :: rest => tokens t ++ .comma :: itemTokens rest

def memberTokens : List (Bytes × Tree) → List Token
  | [] => []
  | [(key, t)] => .string key :: .colon :: tokens t
  | (key, t) :: rest => .string key :: .colon :: (tokens t ++ .comma :: memberTokens rest)

end

end Tree

/-! ## Scanning -/

namespace Scanner

/-- The scanner has read these tokens, the last one first; that one may still be open at its end. -/
inductive Stands : Scanner → List Token → Prop
  | between (tokens : List Token) : Stands ⟨.between, tokens⟩ tokens
  | word (read : Bytes) (w : Word) (tokens : List Token) (h : Word.ofBytes? read.reverse = some w) :
    Stands ⟨.word read, tokens⟩ (.word w :: tokens)
  | number (read : Bytes) (tokens : List Token) (h : (Numeral.ofBytes? read.reverse).isSome = true) :
    Stands ⟨.number read, tokens⟩ (.number read.reverse :: tokens)

variable {s : Scanner} {tokens : List Token}

theorem Stands.finish?_eq (h : Stands s tokens) : s.finish? = some tokens.reverse := by
  cases h with
  | between => rfl
  | word read w tokens h => simp [finish?, endWord?, h]
  | number read tokens h =>
    obtain ⟨n, hn⟩ := Option.isSome_iff_exists.1 h
    simp [finish?, endNumber?, hn]

/-- A byte that belongs to no word and no number closes the token before it. -/
theorem Stands.step?_eq (h : Stands s tokens) {b : UInt8} (hletter : isLetter b = false)
    (hnumber : isNumberByte b = false) : s.step? b = begin? tokens b := by
  cases h with
  | between => rfl
  | word read w tokens h => simp [step?, hletter, endWord?, h]
  | number read tokens h =>
    obtain ⟨n, hn⟩ := Option.isSome_iff_exists.1 h
    simp [step?, hnumber, endNumber?, hn]

/-- A byte that may come first in a number begins one. -/
theorem begin?_number {b : UInt8} (hfirst : Numeral.isDigit b = true ∨ b = 45) (tokens : List Token) :
    begin? tokens b = some ⟨.number [b], tokens⟩ := by
  have hrange : (48 ≤ b ∧ b ≤ 57) ∨ b = 45 := by
    simpa [Numeral.isDigit] using hfirst
  have hspace : isSpace b = false := by
    rcases hrange with ⟨hlow, hhigh⟩ | rfl
    · simp only [isSpace, Bool.or_eq_false_iff, beq_eq_false_iff_ne, ne_eq]
      refine ⟨⟨⟨?_, ?_⟩, ?_⟩, ?_⟩ <;> rintro rfl <;> exact absurd hlow (by decide)
    · decide
  have hquote : b ≠ 34 := by
    rintro rfl
    rcases hrange with ⟨hlow, -⟩ | h
    · exact absurd hlow (by decide)
    · exact absurd h (by decide)
  have hletter : isLetter b = false := by
    rcases hrange with ⟨-, hhigh⟩ | rfl
    · simp only [isLetter, Bool.and_eq_false_iff, decide_eq_false_iff_not]
      exact .inl fun hlow => absurd (UInt8.le_trans hlow hhigh) (by decide)
    · decide
  rw [begin?, if_neg (by simp [hspace]), if_neg hquote, if_neg (by simp [hletter]),
    if_pos (by simpa using hfirst)]

/-- The bytes of a number are gathered, the last one first. -/
theorem foldlM_number {tail : Bytes} (hall : ∀ c ∈ tail, isNumberByte c = true) (read : Bytes)
    (tokens : List Token) :
    tail.foldlM step? ⟨.number read, tokens⟩ = some ⟨.number (tail.reverse ++ read), tokens⟩ := by
  induction tail generalizing read with
  | nil => rfl
  | cons c tail ih =>
    obtain ⟨hc, htail⟩ := List.forall_mem_cons.1 hall
    have hstep : step? ⟨.number read, tokens⟩ c = some ⟨.number (c :: read), tokens⟩ := by
      simp [step?, hc]
    rw [List.foldlM_cons, hstep, Option.bind_eq_bind, Option.bind_some, ih htail]
    simp

theorem stands_number {text : Bytes} (h : (Numeral.ofBytes? text).isSome = true)
    (tokens : List Token) :
    ∃ s, text.foldlM step? ⟨.between, tokens⟩ = some s ∧ Stands s (.number text :: tokens) := by
  obtain ⟨b, tail, rfl, hfirst, hall⟩ := Numeral.ofBytes?_numberBytes h
  have hstep : step? ⟨.between, tokens⟩ b = begin? tokens b := rfl
  have hreverse : (tail.reverse ++ [b]).reverse = b :: tail := by simp
  refine ⟨⟨.number (tail.reverse ++ [b]), tokens⟩, ?_, ?_⟩
  · rw [List.foldlM_cons, hstep, begin?_number hfirst, Option.bind_eq_bind, Option.bind_some,
      foldlM_number hall]
  · have hstands := Stands.number (tail.reverse ++ [b]) tokens (by rwa [hreverse])
    rwa [hreverse] at hstands

theorem foldlM_string {inside : Bytes} (h : Quotable inside) (tokens : List Token) :
    (34 :: inside ++ [34]).foldlM step? ⟨.between, tokens⟩ =
      some ⟨.between, .string inside :: tokens⟩ := by
  have hopen : step? ⟨.between, tokens⟩ 34 = some ⟨.string [], tokens⟩ := rfl
  have hclose : step? ⟨.string (inside.reverse ++ []), tokens⟩ 34 =
      some ⟨.between, .string (inside.reverse ++ []).reverse :: tokens⟩ := rfl
  rw [List.cons_append, List.foldlM_cons, hopen, Option.bind_eq_bind, Option.bind_some,
    List.foldlM_append, h.scanned [] tokens, Option.bind_eq_bind, Option.bind_some, List.foldlM_cons, hclose]
  simp

/-- A mark closes what stands open, and is a token of its own. -/
theorem Stands.foldlM_mark (h : Stands s tokens) {b : UInt8} {mark : Token}
    (hletter : isLetter b = false) (hnumber : isNumberByte b = false)
    (hbegin : begin? tokens b = some ⟨.between, mark :: tokens⟩) (rest : Bytes) :
    (b :: rest).foldlM step? s = rest.foldlM step? ⟨.between, mark :: tokens⟩ := by
  rw [List.foldlM_cons, h.step?_eq hletter hnumber, hbegin, Option.bind_eq_bind, Option.bind_some]

theorem foldlM_key {key : Bytes} (h : Quotable key) (tokens : List Token) (rest : Bytes) :
    (34 :: key ++ 34 :: 58 :: rest).foldlM step? ⟨.between, tokens⟩ =
      rest.foldlM step? ⟨.between, .colon :: .string key :: tokens⟩ := by
  have hsplit : 34 :: key ++ 34 :: 58 :: rest = (34 :: key ++ [34]) ++ 58 :: rest := by simp
  rw [hsplit, List.foldlM_append, foldlM_string h, Option.bind_eq_bind, Option.bind_some]
  exact (Stands.between _).foldlM_mark (by decide) (by decide) rfl rest

end Scanner

namespace Tree

section Scanning

open Scanner

mutual

/-- **Scanning.** The scanner finds the tokens of a tree behind what it has read before. -/
theorem scan_write : ∀ (t : Tree), t.WellFormed → ∀ read, ∃ s,
    t.write.foldlM step? ⟨.between, read⟩ = some s ∧ Stands s (t.tokens.reverse ++ read)
  | .null, _, read => ⟨_, rfl, .word _ .null read rfl⟩
  | .bool true, _, read => ⟨_, rfl, .word _ .true_ read rfl⟩
  | .bool false, _, read => ⟨_, rfl, .word _ .false_ read rfl⟩
  | .number text, h, read => by
    have htext : (Numeral.ofBytes? text).isSome = true := by simpa [WellFormed] using h
    exact stands_number htext read
  | .string inside, h, read => by
    have hinside : Quotable inside := by simpa [WellFormed] using h
    exact ⟨_, foldlM_string hinside read, .between _⟩
  | .array items, h, read => by
    obtain ⟨s, hs, hstands⟩ :=
      scan_writeItems items (by simpa [WellFormed] using h) (.openArray :: read)
    have hopen : step? ⟨.between, read⟩ 91 = some ⟨.between, .openArray :: read⟩ := rfl
    refine ⟨⟨.between, .closeArray :: ((itemTokens items).reverse ++ .openArray :: read)⟩, ?_, ?_⟩
    · rw [write, List.cons_append, List.foldlM_cons, hopen, Option.bind_eq_bind, Option.bind_some,
        List.foldlM_append, hs, Option.bind_eq_bind, Option.bind_some,
        hstands.foldlM_mark (by decide) (by decide) rfl]
      rfl
    · simpa [tokens] using Stands.between _
  | .object members, h, read => by
    obtain ⟨s, hs, hstands⟩ :=
      scan_writeMembers members (by simpa [WellFormed] using h) (.openObject :: read)
    have hopen : step? ⟨.between, read⟩ 123 = some ⟨.between, .openObject :: read⟩ := rfl
    refine ⟨⟨.between, .closeObject :: ((memberTokens members).reverse ++ .openObject :: read)⟩,
      ?_, ?_⟩
    · rw [write, List.cons_append, List.foldlM_cons, hopen, Option.bind_eq_bind, Option.bind_some,
        List.foldlM_append, hs, Option.bind_eq_bind, Option.bind_some,
        hstands.foldlM_mark (by decide) (by decide) rfl]
      rfl
    · simpa [tokens] using Stands.between _

theorem scan_writeItems : ∀ (items : List Tree), AreWellFormed items → ∀ read, ∃ s,
    (writeItems items).foldlM step? ⟨.between, read⟩ = some s ∧
      Stands s ((itemTokens items).reverse ++ read)
  | [], _, read => ⟨_, rfl, .between read⟩
  | [t], h, read => scan_write t h.1 read
  | t :: t' :: rest, h, read => by
    obtain ⟨s, hs, hstands⟩ := scan_write t h.1 read
    obtain ⟨s', hs', hstands'⟩ :=
      scan_writeItems (t' :: rest) h.2 (.comma :: (t.tokens.reverse ++ read))
    refine ⟨s', ?_, ?_⟩
    · rw [writeItems, List.foldlM_append, hs, Option.bind_eq_bind, Option.bind_some,
        hstands.foldlM_mark (by decide) (by decide) rfl, hs']
      simp
    · simpa [itemTokens] using hstands'

theorem scan_writeMembers : ∀ (members : List (Bytes × Tree)), AreWellFormedMembers members →
    ∀ read, ∃ s, (writeMembers members).foldlM step? ⟨.between, read⟩ = some s ∧
      Stands s ((memberTokens members).reverse ++ read)
  | [], _, read => ⟨_, rfl, .between read⟩
  | [(key, t)], h, read => by
    obtain ⟨s, hs, hstands⟩ := scan_write t h.2.1 (.colon :: .string key :: read)
    refine ⟨s, ?_, by simpa [memberTokens] using hstands⟩
    rw [writeMembers, foldlM_key h.1, hs]
  | (key, t) :: m :: rest, h, read => by
    obtain ⟨s, hs, hstands⟩ := scan_write t h.2.1 (.colon :: .string key :: read)
    obtain ⟨s', hs', hstands'⟩ := scan_writeMembers (m :: rest) h.2.2
      (.comma :: (t.tokens.reverse ++ .colon :: .string key :: read))
    refine ⟨s', ?_, by simpa [memberTokens] using hstands'⟩
    have hsplit : writeMembers ((key, t) :: m :: rest) =
        34 :: key ++ 34 :: 58 :: (t.write ++ 44 :: writeMembers (m :: rest)) := by
      simp [writeMembers]
    rw [hsplit, foldlM_key h.1, List.foldlM_append, hs, Option.bind_eq_bind, Option.bind_some,
      hstands.foldlM_mark (by decide) (by decide) rfl, hs']

end

end Scanning

/-! ## Assembling -/

section Assembling

open Assembly

/-- Where a value may begin: where one has to come, and at the first item of an array. -/
def BeginsValue : Place → Prop
  | .value | .firstItem => True
  | _ => False

def BeginsKey : Place → Prop
  | .key | .firstKey => True
  | _ => False

theorem step?_value {place : Place} (h : BeginsValue place) (stack : List Frame) {token : Token}
    (htoken : token ≠ .closeArray) : step? ⟨stack, place⟩ token = beginValue? stack token := by
  cases place <;> simp_all [BeginsValue, step?]

theorem step?_key {place : Place} (h : BeginsKey place) (done : List (Bytes × Tree))
    (outer : List Frame) (key : Bytes) :
    step? ⟨.object done none :: outer, place⟩ (.string key) =
      some ⟨.object done (some key) :: outer, .colon⟩ := by
  cases place <;> simp_all [BeginsKey, step?, takeKey?]

mutual

/-- **Assembling.** The tokens of a tree complete that tree, wherever it stands. -/
theorem assemble_tokens : ∀ (t : Tree) (stack : List Frame) (place : Place), BeginsValue place →
    t.tokens.foldlM step? ⟨stack, place⟩ = complete? stack t
  | .null, stack, place, h => by
    simp [tokens, step?_value h, beginValue?]
  | .bool true, stack, place, h => by
    simp [tokens, step?_value h, beginValue?]
  | .bool false, stack, place, h => by
    simp [tokens, step?_value h, beginValue?]
  | .number text, stack, place, h => by
    simp [tokens, step?_value h, beginValue?]
  | .string inside, stack, place, h => by
    simp [tokens, step?_value h, beginValue?]
  | .array items, stack, place, h => by
    have hopen : step? ⟨stack, place⟩ .openArray = some ⟨.array [] :: stack, .firstItem⟩ :=
      step?_value h stack (by simp)
    rw [tokens, List.foldlM_cons, hopen, Option.bind_eq_bind, Option.bind_some,
      List.foldlM_append]
    by_cases hne : items = []
    · subst hne
      simp [itemTokens, step?, close?]
    · rw [assemble_itemTokens items hne stack [] .firstItem trivial]
      simp [step?, close?]
  | .object members, stack, place, h => by
    have hopen : step? ⟨stack, place⟩ .openObject = some ⟨.object [] none :: stack, .firstKey⟩ :=
      step?_value h stack (by simp)
    rw [tokens, List.foldlM_cons, hopen, Option.bind_eq_bind, Option.bind_some,
      List.foldlM_append]
    by_cases hne : members = []
    · subst hne
      simp [memberTokens, step?, close?]
    · rw [assemble_memberTokens members hne stack [] .firstKey trivial]
      simp [step?, close?]

theorem assemble_itemTokens : ∀ (items : List Tree), items ≠ [] → ∀ (outer : List Frame)
    (done : List Tree) (place : Place), BeginsValue place →
    (itemTokens items).foldlM step? ⟨.array done :: outer, place⟩ =
      some ⟨.array (items.reverse ++ done) :: outer, .next⟩
  | [], hne, _, _, _, _ => absurd rfl hne
  | [t], _, outer, done, place, h => assemble_tokens t (.array done :: outer) place h
  | t :: t' :: rest, _, outer, done, place, h => by
    have hhead := assemble_tokens t (.array done :: outer) place h
    have htail := assemble_itemTokens (t' :: rest) (by simp) outer (t :: done) .value trivial
    have hcomma : step? ⟨.array (t :: done) :: outer, .next⟩ .comma =
        some ⟨.array (t :: done) :: outer, .value⟩ := rfl
    rw [itemTokens, List.foldlM_append, hhead, complete?, Option.bind_eq_bind, Option.bind_some,
      List.foldlM_cons, hcomma, Option.bind_eq_bind, Option.bind_some, htail]
    · simp
    · simp

theorem assemble_memberTokens : ∀ (members : List (Bytes × Tree)), members ≠ [] →
    ∀ (outer : List Frame) (done : List (Bytes × Tree)) (place : Place), BeginsKey place →
    (memberTokens members).foldlM step? ⟨.object done none :: outer, place⟩ =
      some ⟨.object (members.reverse ++ done) none :: outer, .next⟩
  | [], hne, _, _, _, _ => absurd rfl hne
  | [(key, t)], _, outer, done, place, h => by
    have hvalue := assemble_tokens t (.object done (some key) :: outer) .value trivial
    have hcolon : step? ⟨.object done (some key) :: outer, .colon⟩ .colon =
        some ⟨.object done (some key) :: outer, .value⟩ := rfl
    rw [memberTokens, List.foldlM_cons, step?_key h, Option.bind_eq_bind, Option.bind_some,
      List.foldlM_cons, hcolon, Option.bind_eq_bind, Option.bind_some, hvalue]
    rfl
  | (key, t) :: m :: rest, _, outer, done, place, h => by
    have hvalue := assemble_tokens t (.object done (some key) :: outer) .value trivial
    have htail :=
      assemble_memberTokens (m :: rest) (by simp) outer ((key, t) :: done) .key trivial
    have hcolon : step? ⟨.object done (some key) :: outer, .colon⟩ .colon =
        some ⟨.object done (some key) :: outer, .value⟩ := rfl
    have hcomma : step? ⟨.object ((key, t) :: done) none :: outer, .next⟩ .comma =
        some ⟨.object ((key, t) :: done) none :: outer, .key⟩ := rfl
    rw [memberTokens, List.foldlM_cons, step?_key h, Option.bind_eq_bind, Option.bind_some,
      List.foldlM_cons, hcolon, Option.bind_eq_bind, Option.bind_some, List.foldlM_append, hvalue,
      complete?, Option.bind_eq_bind, Option.bind_some, List.foldlM_cons, hcomma,
      Option.bind_eq_bind, Option.bind_some, htail]
    · simp
    · simp

end

end Assembling

/-! ## Writing -/

theorem isText_number {text : Bytes} (h : (Numeral.ofBytes? text).isSome = true) : IsText text := by
  obtain ⟨b, tail, rfl, hfirst, hall⟩ := Numeral.ofBytes?_numberBytes h
  have hsmall : ∀ c : UInt8, Scanner.isNumberByte c = true → c.toNat < 128 := by
    intro c hc
    simp only [Scanner.isNumberByte, Numeral.isDigit, Bool.or_eq_true, Bool.and_eq_true,
      decide_eq_true_eq, beq_iff_eq, UInt8.le_iff_toNat_le] at hc
    rcases hc with ((((h | rfl) | rfl) | rfl) | rfl) | rfl
    · exact Nat.lt_of_le_of_lt h.2 (by decide)
    all_goals decide
  have hb : Scanner.isNumberByte b = true := by
    rcases hfirst with hdigit | rfl
    · exact Numeral.isNumberByte_of_isDigit hdigit
    · decide
  exact isText_of_ascii (List.forall_mem_cons.2 ⟨hsmall b hb, fun c hc => hsmall c (hall c hc)⟩)

theorem isText_quoted {inside : Bytes} (h : IsText inside) {rest : Bytes} (hrest : IsText rest) :
    IsText (34 :: inside ++ 34 :: rest) :=
  (IsText.cons (by decide) h).append (.cons (by decide) hrest)

mutual

theorem isText_write : ∀ (t : Tree), t.WellFormed → IsText t.write
  | .null, _ => isText_of_all (by decide)
  | .bool true, _ => isText_of_all (by decide)
  | .bool false, _ => isText_of_all (by decide)
  | .number text, h => by
    have htext : (Numeral.ofBytes? text).isSome = true := by simpa [WellFormed] using h
    exact isText_number htext
  | .string inside, h => by
    have hinside : Quotable inside := by simpa [WellFormed] using h
    exact isText_quoted hinside.isText (isText_of_all (by decide))
  | .array items, h => by
    have hitems := isText_writeItems items (by simpa [WellFormed] using h)
    exact (IsText.cons (by decide) hitems).append (isText_of_all (by decide))
  | .object members, h => by
    have hmembers := isText_writeMembers members (by simpa [WellFormed] using h)
    exact (IsText.cons (by decide) hmembers).append (isText_of_all (by decide))

theorem isText_writeItems : ∀ (items : List Tree), AreWellFormed items → IsText (writeItems items)
  | [], _ => isText_of_all (by decide)
  | [t], h => isText_write t h.1
  | t :: t' :: rest, h =>
    (isText_write t h.1).append (.cons (by decide) (isText_writeItems (t' :: rest) h.2))

theorem isText_writeMembers : ∀ (members : List (Bytes × Tree)), AreWellFormedMembers members →
    IsText (writeMembers members)
  | [], _ => isText_of_all (by decide)
  | [(_, t)], h => isText_quoted h.1.isText (.cons (by decide) (isText_write t h.2.1))
  | (_, t) :: m :: rest, h =>
    (isText_quoted h.1.isText (.cons (by decide) (isText_write t h.2.1))).append
      (.cons (by decide) (isText_writeMembers (m :: rest) h.2.2))

end

/-- A well-formed tree has a text, with the bytes that it is written in. -/
theorem bytesOf_render {t : Tree} (h : t.WellFormed) : bytesOf t.render = t.write := by
  obtain ⟨s, hs, hbytes⟩ := (isText_write t h).textOf?
  rw [render, hs, Option.getD_some, hbytes]

/-- **Round trip.** A well-formed tree is read back from what it is written as. -/
theorem ofBytes?_write {t : Tree} (h : t.WellFormed) : ofBytes? t.write = some t := by
  obtain ⟨s, hs, hstands⟩ := scan_write t h []
  have hscan : Token.scan? t.write = some t.tokens := by
    rw [Token.scan?, hs, Option.bind_some, hstands.finish?_eq]
    simp
  rw [ofBytes?, hscan, Option.bind_some, ofTokens?, Assembly.start, assemble_tokens t [] .value trivial]
  rfl

end Tree

end Predictor.Json
