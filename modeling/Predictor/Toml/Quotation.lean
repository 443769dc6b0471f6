import Predictor.Text.Hexadecimal

/-!
Quoted texts of TOML. Between double quotes a backslash begins an escape, between single ones it
does not; a text between three quotes may run over several lines, whose ends read as line feeds, and
may hold one or two quotes together, also before the last three.
-/

namespace Predictor.Toml

structure Quotation where
  quote : Char
  multiline : Bool
  deriving DecidableEq, Repr

/-- What is left of a text after something was read from it. -/
abbrev Rest (cs : List Char) := { rest : List Char // rest.length < cs.length }

/-- Tabs, and all characters that are no ASCII control. -/
def isPlain (c : Char) : Bool :=
  c == '\t' || (0x20 ≤ c.toNat && c.toNat ≤ 0x7E) || 0x80 ≤ c.toNat

def isSpace (c : Char) : Bool := c == ' ' || c == '\t'

/-- Drops blanks and line ends. -/
def skipBlankLines : List Char → List Char
  | '\r' :: '\n' :: rest => skipBlankLines rest
  | c :: rest => if isSpace c || c == '\n' then skipBlankLines rest else c :: rest
  | [] => []

theorem length_skipBlankLines_le (cs : List Char) : (skipBlankLines cs).length ≤ cs.length := by
  fun_induction skipBlankLines cs <;> simp_all <;> omega

/-- Drops one line end. -/
def skipNewline? : List Char → Option (List Char)
  | '\n' :: rest | '\r' :: '\n' :: rest => some rest
  | _ => none

/-! ## Escapes -/

/-- The character whose number has these digits. -/
def character? (digits : List Char) : Option Char := do
  let n ← Text.ofHex? digits
  if n < 0xD800 ∨ (0xDFFF < n ∧ n < 0x110000) then some (Char.ofNat n) else none

def simpleEscape? (c : Char) : Option Char :=
  match c with
  | 'b' => some '\x08'
  | 't' => some '\t'
  | 'n' => some '\n'
  | 'f' => some '\x0C'
  | 'r' => some '\r'
  | '"' => some '"'
  | '\\' => some '\\'
  | _ => none

/-- The character after a backslash. -/
def escape? : (cs : List Char) → Option (Char × Rest cs)
  | 'u' :: a :: b :: c :: d :: rest =>
    (character? [a, b, c, d]).map fun char => (char, ⟨rest, by simp; omega⟩)
  | 'U' :: a :: b :: c :: d :: e :: f :: g :: h :: rest =>
    (character? [a, b, c, d, e, f, g, h]).map fun char => (char, ⟨rest, by simp; omega⟩)
  | c :: rest => (simpleEscape? c).map fun char => (char, ⟨rest, by simp⟩)
  | [] => none

/-- What follows a backslash at the end of a line: the first character of a later line. -/
def continued? (cs : List Char) : Option (List Char) :=
  (skipNewline? (cs.dropWhile isSpace)).map fun _ => skipBlankLines cs

theorem length_le_of_continued? {cs rest : List Char} (h : continued? cs = some rest) :
    rest.length ≤ cs.length := by
  obtain ⟨_, _, rfl⟩ := Option.map_eq_some_iff.1 h
  exact length_skipBlankLines_le cs

/-! ## Reading -/

namespace Quotation

/-- Puts a character in front of what is read further on. -/
def onto (c : Char) (read : Option (List Char × List Char)) : Option (List Char × List Char) :=
  read.map fun (cs, rest) => (c :: cs, rest)

/-- The text up to the closing quotes, and what follows them. -/
def read? (q : Quotation) : List Char → Option (List Char × List Char)
  | [] => none
  | c :: rest =>
    if c = q.quote then
      let run := (rest.takeWhile (· == q.quote)).length + 1
      if !q.multiline then some ([], rest)
      else if run < 3 then onto c (q.read? rest)
      else some (List.replicate (min run 5 - 3) c, rest.drop (min run 5 - 1))
    else if c = '\\' ∧ q.quote = '"' then
      match q.multiline, h : continued? rest with
      | true, some later =>
        have := length_le_of_continued? h
        q.read? later
      | _, _ =>
        match escape? rest with
        | some (char, ⟨later, _⟩) => onto char (q.read? later)
        | none => none
    else if isPlain c then onto c (q.read? rest)
    else if q.multiline ∧ c = '\n' then onto c (q.read? rest)
    else if q.multiline ∧ c = '\r' ∧ rest.head? = some '\n' then q.read? rest
    else none
termination_by cs => cs.length

end Quotation

/-- A quoted text of one line, from its opening quote on. -/
def shortText? : List Char → Option (List Char × List Char)
  | '"' :: rest => Quotation.read? ⟨'"', false⟩ rest
  | '\x27' :: rest => Quotation.read? ⟨'\x27', false⟩ rest
  | _ => none

/-- A quoted text of any kind; a line end right after three opening quotes is left out. -/
def text? : List Char → Option (List Char × List Char)
  | '"' :: '"' :: '"' :: rest => Quotation.read? ⟨'"', true⟩ ((skipNewline? rest).getD rest)
  | '\x27' :: '\x27' :: '\x27' :: rest =>
    Quotation.read? ⟨'\x27', true⟩ ((skipNewline? rest).getD rest)
  | cs => shortText? cs

end Predictor.Toml
