import Predictor.Toml.Quotation
import Predictor.Toml.Scalar

/-!
Values and keys of TOML. Of the values only texts and arrays keep what they hold; all others are
checked and then forgotten. A table is a list of entries by name, and `assign` is the one rule of
dotted keys: each of them goes through tables that dotted keys or deeper headers have made, and
gives a name that has no value yet.
-/

namespace Predictor.Toml

inductive Value
  | text (s : String)
  /-- A number, a truth value, a date or a time. -/
  | scalar
  | array (items : List Value)
  /-- A table between braces. -/
  | table

/-- Where a table comes from. -/
inductive Origin
  | header
  /-- It lies on the way to the table of a header. -/
  | implied
  | dotted
  deriving DecidableEq, Repr

inductive Node
  | value (v : Value)
  | table (origin : Origin) (entries : List (String × Node))
  /-- An array of tables, by its last one. -/
  | tables (last : List (String × Node))

abbrev Entries := List (String × Node)

/-- A dotted key: the names in front of the last dot, and the last name. -/
structure Path where
  parents : List String
  name : String
  deriving DecidableEq, Repr

namespace Entries

/-- Replaces what a name stands for; a new name goes to the end. -/
def update (name : String) (change : Option Node → Option Node) : Entries → Option Entries
  | [] => (change none).map fun node => [(name, node)]
  | entry :: rest =>
    if entry.1 = name then (change (some entry.2)).map fun node => (name, node) :: rest
    else (update name change rest).map (entry :: ·)

/-- Gives a value to a new name. -/
def put (name : String) (value : Value) (entries : Entries) : Option Entries :=
  update name (fun | none => some (.value value) | some _ => none) entries

/-- Gives a value to a dotted key. The table of its last name must be of dotted keys only. -/
def assign (name : String) (value : Value) : List String → Entries → Option Entries
  | [], entries => put name value entries
  | parent :: parents, entries =>
    update parent (fun
      | none => (assign name value parents []).map (.table .dotted)
      | some (.table .dotted inner) => (assign name value parents inner).map (.table .dotted)
      | some (.table .implied inner) =>
        if parents.isEmpty then none
        else (assign name value parents inner).map (.table .implied)
      | some (.tables last) =>
        if parents.isEmpty then none else (assign name value parents last).map .tables
      | some (.table .header _) | some (.value _) => none) entries

/-- The table of a list of assignments. -/
def ofAssignments? (assignments : List (Path × Value)) : Option Entries :=
  assignments.foldlM (fun entries (path, value) => assign path.name value path.parents entries) []

end Entries

/-! ## Reading -/

def skipSpaces (cs : List Char) : List Char := cs.dropWhile isSpace

/-- Without the comment in front, when there is one. -/
def skipComment : List Char → List Char
  | '#' :: rest => rest.dropWhile isPlain
  | cs => cs

/-- Drops blanks, line ends and comments. -/
def skipLines (cs : List Char) : List Char :=
  let rest := skipComment (skipBlankLines cs)
  if rest.length < cs.length then skipLines rest else rest
termination_by cs.length

def isBare (c : Char) : Bool :=
  isDigit c || ('a' ≤ c && c ≤ 'z') || ('A' ≤ c && c ≤ 'Z') || c == '_' || c == '-'

/-- One name of a key: bare, or between quotes. -/
def name? (cs : List Char) : Option (String × List Char) :=
  match shortText? cs with
  | some (name, rest) => some (String.ofList name, rest)
  | none =>
    if cs.head?.any isBare then some (String.ofList (cs.takeWhile isBare), cs.dropWhile isBare)
    else none

/-- Names with dots between, and blanks around each. -/
def names? (cs : List Char) : Option (List String × List Char) := do
  let (name, rest) ← name? (skipSpaces cs)
  match skipSpaces rest with
  | '.' :: rest =>
    if rest.length < cs.length then
      let (names, rest) ← names? rest
      some (name :: names, rest)
    else none
  | rest => some ([name], rest)
termination_by cs.length

/-- Keys and values nest less than this deep. -/
def depthLimit : Nat := 80

def path? (cs : List Char) : Option (Path × List Char) := do
  let (names, rest) ← names? cs
  let name ← names.getLast?
  if names.length < depthLimit then some (⟨names.dropLast, name⟩, rest) else none

/-- The items of an array up to its end; a comma may follow the last one. -/
def items? (item? : List Char → Option (Value × List Char)) (cs : List Char) :
    Option (List Value × List Char) :=
  match skipLines cs with
  | ']' :: rest => some ([], rest)
  | begun => do
    let (value, rest) ← item? begun
    match skipLines rest with
    | ']' :: rest => some ([value], rest)
    | ',' :: rest =>
      if rest.length < cs.length then
        let (values, rest) ← items? item? rest
        some (value :: values, rest)
      else none
    | _ => none
termination_by cs.length

/-- Key, equals sign and value. -/
def assignment? (item? : List Char → Option (Value × List Char)) (cs : List Char) :
    Option ((Path × Value) × List Char) := do
  let (path, rest) ← path? cs
  match rest with
  | '=' :: rest =>
    let (value, rest) ← item? (skipSpaces rest)
    some ((path, value), rest)
  | _ => none

/-- At least one assignment, up to the closing brace. -/
def assignments? (item? : List Char → Option (Value × List Char)) (cs : List Char) :
    Option (List (Path × Value) × List Char) := do
  let (first, rest) ← assignment? item? cs
  match skipSpaces rest with
  | '\x7d' :: rest => some ([first], rest)
  | ',' :: rest =>
    if rest.length < cs.length then
      let (others, rest) ← assignments? item? rest
      some (first :: others, rest)
    else none
  | _ => none
termination_by cs.length

/-- A table between braces, after the first of them. -/
def braced? (item? : List Char → Option (Value × List Char)) (cs : List Char) :
    Option (Value × List Char) :=
  match skipSpaces cs with
  | '\x7d' :: rest => some (.table, rest)
  | begun => do
    let (assignments, rest) ← assignments? item? begun
    let _ ← Entries.ofAssignments? assignments
    some (.table, rest)

def scalar? (cs : List Char) : Option (Value × List Char) :=
  let word := frontWord cs
  if isScalar word then some (.scalar, cs.drop word.length) else none

/-- A value, given how the values inside it are read, if there may be any. -/
def valueAround? (item? : Option (List Char → Option (Value × List Char))) (cs : List Char) :
    Option (Value × List Char) :=
  match cs with
  | '[' :: rest => do
    let (values, rest) ← items? (← item?) rest
    some (.array values, rest)
  | '\x7b' :: rest => item?.bind (braced? · rest)
  | _ =>
    match text? cs with
    | some (text, rest) => some (.text (String.ofList text), rest)
    | none => scalar? cs

/-- A value with at most `depth` levels of arrays and tables. -/
def value? : Nat → List Char → Option (Value × List Char)
  | 0 => valueAround? none
  | depth + 1 => valueAround? (some (value? depth))

end Predictor.Toml
