import Predictor.Label.Basic
import Predictor.Json.Tree

/-!
Labels in JSON: an object whose member `kind` tells the two kinds apart, or an array with the kind
first. All parts of a label must have a meaning, also those that are not used; a label is at most
127 containers deep, counted from the outermost one of its text.
-/

namespace Predictor.Label

open Json

def maxDepth : Nat := 127

/-- A category of the parts that must be there. -/
def ofParts? (index name confidence : Tree) : Option Label := do
  let index ← index.word32?
  let name ← name.text?
  let confidence ← confidence.double?
  some (.category index name confidence)

def ofMembers? (kind : String) (members : List (String × Tree)) : Option Label := do
  if kind = "undefined" then some .undefined
  else if kind = "category" then
    let index ← Tree.member? "index" members
    let name ← Tree.member? "name" members
    let confidence ← Tree.member? "confidence" members
    ofParts? (← index) (← name) (← confidence)
  else none

/-- A label `outside` containers deep inside its text. -/
def ofTree? (outside : Nat) (tree : Tree) : Option Label := do
  if maxDepth < outside + tree.depth || !tree.isSound then none
  match tree with
  | .object members =>
    let members ← Tree.keyed? members
    let kind ← Tree.member? "kind" members
    ofMembers? (← (← kind).text?) members
  | .array (kind :: parts) =>
    match ← kind.text?, parts with
    | "undefined", [] => some .undefined
    | "category", [index, name, confidence] => ofParts? index name confidence
    | _, _ => none
  | _ => none

def ofBytes? (bytes : Bytes) : Option Label := (Tree.ofBytes? bytes).bind (ofTree? 0)

def toTree : Label → Tree
  | .category index name confidence =>
    .object [(bytesOf "kind", Tree.ofText "category"), (bytesOf "index", Tree.ofNat index.toNat),
      (bytesOf "name", Tree.ofText name), (bytesOf "confidence", Tree.ofDouble confidence)]
  | .undefined => .object [(bytesOf "kind", Tree.ofText "undefined")]

end Predictor.Label
