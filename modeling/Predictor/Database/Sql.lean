import Predictor.Database.Statement
import Predictor.Text.Numeral

/-!
The part of SQL in which the store writes its statements. A text is cut into words, quoted texts and
signs, and these are read clause by clause into a command on the table of predictions.
-/

namespace Predictor.Database

/-! ## Columns -/

/-- The types of columns and parameters. -/
inductive Kind
  | uuid
  | text
  | int4
  | int8
  | float8
  | time
  deriving DecidableEq, Repr

/-- The columns of the table of predictions. -/
inductive Column
  | id
  | owner
  | resource
  | status
  | label
  | categoryIndex
  | confidence
  | error
  | createdAt
  | updatedAt
  | completedAt
  deriving DecidableEq, Repr

namespace Column

def all : List Column :=
  [.id, .owner, .resource, .status, .label, .categoryIndex, .confidence, .error, .createdAt,
    .updatedAt, .completedAt]

def name : Column → String
  | .id => "id"
  | .owner => "owner"
  | .resource => "resource"
  | .status => "status"
  | .label => "label"
  | .categoryIndex => "category_index"
  | .confidence => "confidence"
  | .error => "error"
  | .createdAt => "created_at"
  | .updatedAt => "updated_at"
  | .completedAt => "completed_at"

def kind : Column → Kind
  | .id => .uuid
  | .owner | .resource | .status | .label | .error => .text
  | .categoryIndex => .int4
  | .confidence => .float8
  | .createdAt | .updatedAt | .completedAt => .time

def ofName? (name : String) : Option Column := all.find? (·.name == name)

end Column

namespace Sql

/-! ## Commands -/

inductive Expression
  /-- The parameter at a place; `$1` is at place 0. -/
  | parameter (place : Nat)
  | text (s : String)
  | now
  deriving DecidableEq, Repr

inductive Condition
  | equal (column : Column) (value : Expression)
  | isNull (place : Nat)
  | both (a b : Condition)
  | either (a b : Condition)
  deriving DecidableEq, Repr

inductive Command
  /-- A new row with these cells, of which some columns are returned. -/
  | insert (cells : List (Column × Expression)) (returned : List Column)
  /-- New cells for all rows that meet a condition. -/
  | update (cells : List (Column × Expression)) (condition : Condition)
  /-- Columns of the rows that meet a condition, or of the `newest` so many of them. -/
  | select (columns : List Column) (condition : Condition) (newest : Option Expression)
  /-- `SELECT 1`. -/
  | one
  /-- Tables and indices are created where they are missing. -/
  | createMissing
  deriving DecidableEq, Repr

/-! ## Tokens -/

inductive Token
  /-- A keyword, a name, a number or a parameter, in small letters. -/
  | word (s : String)
  | quoted (s : String)
  | sign (c : Char)
  deriving DecidableEq, Repr

/-- How far a text has been cut. -/
structure Scan where
  /-- The tokens so far, the last one first. -/
  tokens : List Token
  /-- The characters of the token that has begun, the last one first. -/
  begun : List Char
  isQuoted : Bool

namespace Scan

def start : Scan := ⟨[], [], false⟩

def endWord (s : Scan) : Scan :=
  if s.begun.isEmpty then s
  else { s with tokens := .word (String.ofList s.begun.reverse) :: s.tokens, begun := [] }

def next (s : Scan) (c : Char) : Scan :=
  if s.isQuoted then
    if c = '\'' then ⟨.quoted (String.ofList s.begun.reverse) :: s.tokens, [], false⟩
    else { s with begun := c :: s.begun }
  else if c.isAlphanum || c = '_' || c = '$' then { s with begun := c.toLower :: s.begun }
  else
    let s := s.endWord
    if c = '\'' then { s with isQuoted := true }
    else if c.isWhitespace then s
    else { s with tokens := .sign c :: s.tokens }

end Scan

def tokens? (cs : List Char) : Option (List Token) :=
  let s := cs.foldl Scan.next .start
  if s.isQuoted then none else some s.endWord.tokens.reverse

/-! ## Clauses -/

/-- What stands in front of the first `t`, and what stands behind it. -/
def cut? (t : Token) : List Token → Option (List Token × List Token)
  | [] => none
  | first :: rest =>
    if first = t then some ([], rest)
    else (cut? t rest).map fun (front, back) => (first :: front, back)

/-- How many brackets are open after a token. -/
def depthAfter (depth : Nat) : Token → Nat
  | .sign '(' => depth + 1
  | .sign ')' => depth - 1
  | _ => depth

/-- The parts between the separators that stand in no brackets, when so many are open. -/
def split (separator : Token) (depth : Nat) : List Token → List (List Token)
  | [] => [[]]
  | first :: rest =>
    if first = separator ∧ depth = 0 then [] :: split separator 0 rest
    else
      match split separator (depthAfter depth first) rest with
      | [] => [[first]]
      | part :: parts => (first :: part) :: parts

def fields (tokens : List Token) : List (List Token) := split (.sign ',') 0 tokens

/-- What stands in brackets. -/
def inside? : List Token → Option (List Token)
  | .sign '(' :: rest => if rest.getLast? = some (.sign ')') then some rest.dropLast else none
  | _ => none

def place? (word : String) : Option Nat :=
  match word.toList with
  | '$' :: digits =>
    match Text.natural 0xFFFF digits with
    | .ok (place + 1) => some place
    | _ => none
  | _ => none

def column? : List Token → Option Column
  | [.word name] => Column.ofName? name
  | _ => none

def expression? : List Token → Option Expression
  | [.word word] => (place? word).map .parameter
  | [.quoted s] => some (.text s)
  | [.word "now", .sign '(', .sign ')'] => some .now
  | _ => none

/-- A column and what is assigned to it or compared with it. -/
def cell? : List Token → Option (Column × Expression)
  | .word name :: .sign '=' :: value => do return (← Column.ofName? name, ← expression? value)
  | _ => none

/-- No column stands twice. -/
def distinct? (cells : List (Column × Expression)) : Option (List (Column × Expression)) :=
  if (cells.map Prod.fst).Nodup then some cells else none

/-! ## Conditions -/

def comparison? : List Token → Option Condition
  | [.word word, .sign ':', .sign ':', .word "text", .word "is", .word "null"] =>
    (place? word).map .isNull
  | tokens => (cell? tokens).map fun (column, value) => .equal column value

def joined? (join : Condition → Condition → Condition) : List Condition → Option Condition
  | [] => none
  | first :: rest => some (rest.foldl join first)

/-- Comparisons that are joined, with brackets `depth - 1` deep at most. -/
def condition? : Nat → List Token → Option Condition
  | 0, _ => none
  | depth + 1, tokens => do
    let part (tokens : List Token) : Option Condition :=
      match inside? tokens with
      | some inside => condition? depth inside
      | none => comparison? tokens
    let conjunction (tokens : List Token) : Option Condition := do
      joined? .both (← (split (.word "and") 0 tokens).mapM part)
    joined? .either (← (split (.word "or") 0 tokens).mapM conjunction)

/-! ## Statements -/

def insert? (tokens : List Token) : Option Command := do
  let (names, tokens) ← cut? (.word "values") tokens
  let (values, returned) ← cut? (.word "returning") tokens
  let columns ← (fields (← inside? names)).mapM column?
  let values ← (fields (← inside? values)).mapM expression?
  guard (columns.length = values.length)
  return .insert (← distinct? (columns.zip values)) (← (fields returned).mapM column?)

/-- The key of a row stays as it is. -/
def update? (tokens : List Token) : Option Command := do
  let (changes, condition) ← cut? (.word "where") tokens
  let cells ← distinct? (← (fields changes).mapM cell?)
  guard (.id ∉ cells.map Prod.fst)
  return .update cells (← condition? condition.length condition)

def select? : List Token → Option Command
  | [.word "1"] => some .one
  | tokens => do
    let (names, tokens) ← cut? (.word "from") tokens
    let (table, tokens) ← cut? (.word "where") tokens
    guard (table = [.word "predictions"])
    let columns ← (fields names).mapM column?
    match cut? (.word "order") tokens with
    | none => return .select columns (← condition? tokens.length tokens) none
    | some (condition,
        .word "by" :: .word "created_at" :: .word "desc" :: .word "limit" :: limit) =>
      return .select columns (← condition? condition.length condition) (← expression? limit)
    | some _ => none

def createsMissing : List Token → Bool
  | .word "create" :: .word what :: .word "if" :: .word "not" :: .word "exists" :: _ =>
    what = "table" || what = "index"
  | tokens => tokens.isEmpty

def command? : List Token → Option Command
  | .word "insert" :: .word "into" :: .word "predictions" :: tokens => insert? tokens
  | .word "update" :: .word "predictions" :: .word "set" :: tokens => update? tokens
  | .word "select" :: tokens => select? tokens
  | tokens => if (split (.sign ';') 0 tokens).all createsMissing then some .createMissing else none

/-- The command that a text means, if it is one. -/
@[irreducible] def read? (text : String) : Option Command :=
  (tokens? text.toList).bind command?

end Sql

end Predictor.Database
