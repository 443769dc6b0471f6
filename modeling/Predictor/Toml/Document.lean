import Predictor.Toml.Value

/-!
A TOML document: lines that open tables or give values, and the table that they build from the top.
A header may open a table that is new or only implied so far, or add one to an array of tables;
each value goes to the table opened last.
-/

namespace Predictor.Toml

inductive Line
  /-- Nothing, or a comment. -/
  | blank
  | table (path : Path)
  /-- One more table of an array of tables. -/
  | element (path : Path)
  | entry (path : Path) (value : Value)

/-! ## Lines -/

/-- What follows a line, after blanks and a comment. -/
def afterLine? (cs : List Char) : Option (List Char) :=
  match skipComment (skipSpaces cs) with
  | [] => some []
  | rest => skipNewline? rest

/-- What a line says, up to the blanks and the comment that may end it. -/
def content? (cs : List Char) : Option (Line × List Char) :=
  match cs with
  | [] | '#' :: _ | '\n' :: _ | '\r' :: _ => some (.blank, cs)
  | '[' :: '[' :: rest =>
    match path? rest with
    | some (path, ']' :: ']' :: rest) => some (.element path, rest)
    | _ => none
  | '[' :: rest =>
    match path? rest with
    | some (path, ']' :: rest) => some (.table path, rest)
    | _ => none
  | _ => (assignment? (value? (depthLimit - 1)) cs).map fun ((path, value), rest) =>
    (.entry path value, rest)

def lines? (cs : List Char) : Option (List Line) :=
  if cs.isEmpty then some []
  else do
    let (line, rest) ← content? (skipSpaces cs)
    let rest ← afterLine? rest
    if rest.length < cs.length then (lines? rest).map (line :: ·) else none
termination_by cs.length

/-! ## Tables -/

namespace Entries

/-- Changes the table that a path of headers leads to; tables missing on the way are implied. -/
def within (change : Entries → Option Entries) : List String → Entries → Option Entries
  | [], entries => change entries
  | parent :: parents, entries =>
    update parent (fun
      | none => (within change parents []).map (.table .implied)
      | some (.table origin inner) => (within change parents inner).map (.table origin)
      | some (.tables last) => (within change parents last).map .tables
      | some (.value _) => none) entries

/-- Opens the table of a header. -/
def openTable (path : Path) (entries : Entries) : Option Entries :=
  within (update path.name fun
    | none => some (.table .header [])
    | some (.table .implied inner) => some (.table .header inner)
    | some _ => none) path.parents entries

/-- Adds a table to an array of tables. -/
def openElement (path : Path) (entries : Entries) : Option Entries :=
  within (update path.name fun
    | none | some (.tables _) => some (.tables [])
    | some _ => none) path.parents entries

end Entries

/-- The table of the document so far, and the names that lead to the table opened last. -/
structure Draft where
  root : Entries
  opened : List String

namespace Draft

def add? (draft : Draft) : Line → Option Draft
  | .blank => some draft
  | .table path =>
    (Entries.openTable path draft.root).map fun root => ⟨root, path.parents ++ [path.name]⟩
  | .element path =>
    (Entries.openElement path draft.root).map fun root => ⟨root, path.parents ++ [path.name]⟩
  | .entry path value =>
    (Entries.within (Entries.assign path.name value path.parents) draft.opened draft.root).map
      fun root => ⟨root, draft.opened⟩

end Draft

/-- The table of a document; a byte order mark in front is left out. -/
def document? (cs : List Char) : Option Entries := do
  let lines ← lines? (match cs with | '\uFEFF' :: rest => rest | cs => cs)
  let draft ← lines.foldlM Draft.add? ⟨[], []⟩
  some draft.root

end Predictor.Toml
