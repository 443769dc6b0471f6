import Predictor.Json.Token

/-!
The tree of a JSON text. Leaves keep what is written (the inside of strings, the bytes of numbers),
so a part of a text that nobody asks for is checked for its form and not for its meaning; `isSound`
says when every leaf below a node has a meaning. `ofTokens?` builds the tree in one pass with a stack
of containers that are not closed yet, and `write` lays a tree out without spaces.
-/

namespace Predictor.Json

inductive Tree
  | null
  | bool (b : Bool)
  | number (text : Bytes)
  | string (inside : Bytes)
  | array (items : List Tree)
  | object (members : List (Bytes × Tree))
  deriving Repr

/-- A container that is not closed: its parts so far, last one first. -/
inductive Frame
  | array (items : List Tree)
  | object (members : List (Bytes × Tree)) (key : Option Bytes)

/-- What may come next. -/
inductive Place
  | value
  | firstItem
  | firstKey
  | key
  | colon
  | next
  | done (tree : Tree)

structure Assembly where
  stack : List Frame
  place : Place

namespace Assembly

def start : Assembly := ⟨[], .value⟩

/-- A value is complete: it is the whole text, or a part of the innermost open container. -/
def complete? (stack : List Frame) (tree : Tree) : Option Assembly :=
  match stack with
  | [] => some ⟨[], .done tree⟩
  | .array items :: outer => some ⟨.array (tree :: items) :: outer, .next⟩
  | .object members (some key) :: outer =>
    some ⟨.object ((key, tree) :: members) none :: outer, .next⟩
  | .object _ none :: _ => none

/-- The first token of a value. -/
def beginValue? (stack : List Frame) : Token → Option Assembly
  | .openObject => some ⟨.object [] none :: stack, .firstKey⟩
  | .openArray => some ⟨.array [] :: stack, .firstItem⟩
  | .word .null => complete? stack .null
  | .word .true_ => complete? stack (.bool true)
  | .word .false_ => complete? stack (.bool false)
  | .number text => complete? stack (.number text)
  | .string inside => complete? stack (.string inside)
  | _ => none

def takeKey? (stack : List Frame) : Token → Option Assembly
  | .string inside =>
    match stack with
    | .object members none :: outer => some ⟨.object members (some inside) :: outer, .colon⟩
    | _ => none
  | _ => none

/-- The end of the innermost open container. -/
def close? (stack : List Frame) : Token → Option Assembly
  | .closeArray =>
    match stack with
    | .array items :: outer => complete? outer (.array items.reverse)
    | _ => none
  | .closeObject =>
    match stack with
    | .object members none :: outer => complete? outer (.object members.reverse)
    | _ => none
  | _ => none

def step? (a : Assembly) (t : Token) : Option Assembly :=
  match a.place with
  | .value => beginValue? a.stack t
  | .firstItem => if t = .closeArray then close? a.stack t else beginValue? a.stack t
  | .firstKey => if t = .closeObject then close? a.stack t else takeKey? a.stack t
  | .key => takeKey? a.stack t
  | .colon => if t = .colon then some ⟨a.stack, .value⟩ else none
  | .next =>
    if t = .comma then
      match a.stack with
      | .array _ :: _ => some ⟨a.stack, .value⟩
      | .object _ _ :: _ => some ⟨a.stack, .key⟩
      | [] => none
    else close? a.stack t
  | .done _ => none

def finished? (a : Assembly) : Option Tree :=
  match a.place with
  | .done tree => some tree
  | _ => none

end Assembly

namespace Tree

/-! ## Reading -/

def ofTokens? (tokens : List Token) : Option Tree :=
  (tokens.foldlM Assembly.step? Assembly.start).bind Assembly.finished?

def ofBytes? (bytes : Bytes) : Option Tree := (Token.scan? bytes).bind ofTokens?

/-! ## Meaning of the leaves -/

mutual

/-- Every string denotes a text and every number a finite value. -/
def isSound : Tree → Bool
  | .null => true
  | .bool _ => true
  | .number text => ((Numeral.ofBytes? text).bind Numeral.double?).isSome
  | .string inside => (denoted? inside).isSome
  | .array items => areSound items
  | .object members => areSoundMembers members

def areSound : List Tree → Bool
  | [] => true
  | t :: rest => isSound t && areSound rest

def areSoundMembers : List (Bytes × Tree) → Bool
  | [] => true
  | (key, t) :: rest => (denoted? key).isSome && isSound t && areSoundMembers rest

end

mutual

/-- Containers one inside the other, at most. -/
def depth : Tree → Nat
  | .array items => depthOf items + 1
  | .object members => depthOfMembers members + 1
  | _ => 0

def depthOf : List Tree → Nat
  | [] => 0
  | t :: rest => max (depth t) (depthOf rest)

def depthOfMembers : List (Bytes × Tree) → Nat
  | [] => 0
  | (_, t) :: rest => max (depth t) (depthOfMembers rest)

end

def text? : Tree → Option String
  | .string inside => denoted? inside
  | _ => none

def double? : Tree → Option Binary64
  | .number text => (Numeral.ofBytes? text).bind Numeral.double?
  | _ => none

/-- A whole number of 32 bits without a sign. -/
def word32? : Tree → Option UInt32
  | .number text => do
    let n ← (Numeral.ofBytes? text).bind Numeral.natural?
    if n < 0x100000000 then some (UInt32.ofNat n) else none
  | _ => none

/-- The value of a part that may be absent or null. -/
def optional? {α : Type} (read : Tree → Option α) : Option Tree → Option (Option α)
  | none => some none
  | some .null => some none
  | some t => (read t).map some

/-! ## Members -/

/-- The members of an object with their keys read; none when a key denotes no text. -/
def keyed? (members : List (Bytes × Tree)) : Option (List (String × Tree)) :=
  members.mapM fun (key, t) => (denoted? key).map fun key => (key, t)

/-- The member of a name: none at all when the name is repeated. -/
def member? (name : String) (members : List (String × Tree)) : Option (Option Tree) :=
  match members.filter fun m => m.1 == name with
  | [] => some none
  | [m] => some (some m.2)
  | _ => none

/-! ## Writing -/

def ofText (s : String) : Tree := .string (escape (bytesOf s))

def ofNat (n : Nat) : Tree := .number (bytesOf (toString n))

def ofDouble (x : Binary64) : Tree :=
  if x.isFinite then .number (bytesOf (numberText x)) else .null

def ofOption {α : Type} (write : α → Tree) : Option α → Tree
  | none => .null
  | some a => write a

mutual

def write : Tree → Bytes
  | .null => Word.null.text
  | .bool true => Word.true_.text
  | .bool false => Word.false_.text
  | .number text => text
  | .string inside => 34 :: inside ++ [34]
  | .array items => 91 :: writeItems items ++ [93]
  | .object members => 123 :: writeMembers members ++ [125]

def writeItems : List Tree → Bytes
  | [] => []
  | [t] => write t
  | t :: rest => write t ++ 44 :: writeItems rest

def writeMembers : List (Bytes × Tree) → Bytes
  | [] => []
  | [(key, t)] => 34 :: key ++ 34 :: 58 :: write t
  | (key, t) :: rest => 34 :: key ++ 34 :: 58 :: write t ++ 44 :: writeMembers rest

end

/-- The text of a tree; trees made of texts and numbers always have one. -/
def render (t : Tree) : String := (textOf? t.write).getD ""

end Tree

end Predictor.Json
