import Predictor.Correlation

/-!
Headers of a classification call. A name is a token and counts without regard to letter case; a value
has no controls but tabs. Of the valid pairs with one name the last gives the value, and pairs with an
invalid name or value are left out.
-/

namespace Predictor

namespace Header

/-- Characters of a token. -/
def isTokenChar (c : Char) : Bool :=
  ('a' ≤ c && c ≤ 'z') || ('A' ≤ c && c ≤ 'Z') || ('0' ≤ c && c ≤ '9') ||
    "!#$%&\x27*+-.^_\x60|~".toList.contains c

def nameLimit : Nat := 65535

def isName (s : String) : Bool :=
  !s.isEmpty && s.toList.all isTokenChar && s.utf8ByteSize ≤ nameLimit

def isValueChar (c : Char) : Bool := c == '\t' || (0x20 ≤ c.toNat && c.toNat != 0x7F)

def isValue (s : String) : Bool := s.toList.all isValueChar

def isValid (pair : String × String) : Bool := isName pair.1 && isValue pair.2

/-- The form under which a name is looked up. -/
def folded (name : String) : String := String.ofList (name.toList.map Char.toLower)

/-- Puts a value under a name, instead of the one that is there. -/
def place (name value : String) : List (String × String) → List (String × String)
  | [] => [(name, value)]
  | field :: rest =>
    if field.1 = name then (name, value) :: rest else field :: place name value rest

theorem mem_names_place {name value x : String} {fields : List (String × String)} :
    x ∈ (place name value fields).map Prod.fst ↔ x = name ∨ x ∈ fields.map Prod.fst := by
  induction fields with
  | nil => simp [place]
  | cons field rest ih => grind [place]

theorem nodup_names_place (name value : String) {fields : List (String × String)}
    (h : (fields.map Prod.fst).Nodup) : ((place name value fields).map Prod.fst).Nodup := by
  induction fields with
  | nil => simp [place]
  | cons field rest ih => grind [place, mem_names_place]

end Header

/-- Values by folded name, each name once. -/
structure HeaderMap where
  fields : List (String × String)
  nodup_names : (fields.map Prod.fst).Nodup
  deriving DecidableEq, Repr

namespace HeaderMap

def empty : HeaderMap := ⟨[], .nil⟩

/-- Puts a value under a name. Any number of names find room: the limit that the map of the HTTP library
has is left out. -/
def insert (headers : HeaderMap) (name value : String) : HeaderMap :=
  ⟨Header.place (Header.folded name) value headers.fields,
    Header.nodup_names_place _ _ headers.nodup_names⟩

def get? (headers : HeaderMap) (name : String) : Option String :=
  headers.fields.lookup (Header.folded name)

/-- Inserts a pair when it is valid. -/
def add (headers : HeaderMap) (pair : String × String) : HeaderMap :=
  if Header.isValid pair then headers.insert pair.1 pair.2 else headers

def ofPairs (pairs : List (String × String)) : HeaderMap := pairs.foldl add empty

end HeaderMap

namespace Correlation

/-- The headers that a call carries for its correlation. -/
def headerMap (c : Correlation) : HeaderMap := .ofPairs c.headerPairs

/-- The names of the pairs that are left out. -/
def droppedHeaders (c : Correlation) : List String :=
  (c.headerPairs.filter fun pair => !Header.isValid pair).map Prod.fst

end Correlation

end Predictor
