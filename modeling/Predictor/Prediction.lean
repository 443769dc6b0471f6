import Predictor.Id
import Predictor.Status
import Predictor.Label.Json
import Predictor.Time.Rfc3339

/-!
The record of a prediction and its JSON form. An `Outcome` is what ends a prediction: a label, or
the reason why there is none.
-/

namespace Predictor

open Json Time

inductive Outcome
  | classified (label : Label)
  | failed (reason : String)
  deriving DecidableEq, Repr

def Outcome.status : Outcome → Status
  | .classified _ => .completed
  | .failed _ => .failed

structure Prediction where
  id : PredictionId
  owner : String
  resource : String
  status : Status
  /-- Set when the prediction completed. -/
  label : Option Label
  /-- Set when the prediction failed. -/
  error : Option String
  createdAt : Instant
  updatedAt : Instant
  completedAt : Option Instant
  deriving DecidableEq, Repr

namespace Prediction

/-- What a report shows as the result: the label, else the reason, else a dash. -/
def summary (p : Prediction) : String :=
  match p.label, p.error with
  | some label, _ => label.name
  | none, some reason => reason
  | none, none => "-"

end Prediction

/-! ## JSON -/

def Status.ofTree? : Tree → Option Status
  | .object [(key, .null)] => (denoted? key).bind Status.ofText?
  | tree => tree.text?.bind Status.ofText?

def Status.toTree (status : Status) : Tree := Tree.ofText status.text

def PredictionId.ofTree? (tree : Tree) : Option PredictionId :=
  tree.text?.bind PredictionId.ofText?

def PredictionId.toTree (id : PredictionId) : Tree := Tree.ofText id.text

def Time.Instant.ofTree? (tree : Tree) : Option Instant :=
  tree.text?.bind fun s => ofRfc3339? s.toList

def Time.Instant.toTree (t : Instant) : Tree := Tree.ofText t.rfc3339

namespace Prediction

/-- A record of its nine parts, those that may be absent as options. -/
def ofParts? (id owner resource status : Tree) (label error : Option Tree)
    (createdAt updatedAt : Tree) (completedAt : Option Tree) : Option Prediction := do
  let id ← PredictionId.ofTree? id
  let owner ← owner.text?
  let resource ← resource.text?
  let status ← Status.ofTree? status
  let label ← Tree.optional? (Label.ofTree? 1) label
  let error ← Tree.optional? Tree.text? error
  let createdAt ← Instant.ofTree? createdAt
  let updatedAt ← Instant.ofTree? updatedAt
  let completedAt ← Tree.optional? Instant.ofTree? completedAt
  some { id, owner, resource, status, label, error, createdAt, updatedAt, completedAt }

/-- An object with the nine members, or an array of the nine parts in their order. -/
def ofTree? : Tree → Option Prediction
  | .object members => do
    let members ← Tree.keyed? members
    let id ← Tree.member? "id" members
    let owner ← Tree.member? "owner" members
    let resource ← Tree.member? "resource" members
    let status ← Tree.member? "status" members
    let label ← Tree.member? "label" members
    let error ← Tree.member? "error" members
    let createdAt ← Tree.member? "created_at" members
    let updatedAt ← Tree.member? "updated_at" members
    let completedAt ← Tree.member? "completed_at" members
    ofParts? (← id) (← owner) (← resource) (← status) label error (← createdAt) (← updatedAt)
      completedAt
  | .array [id, owner, resource, status, label, error, createdAt, updatedAt, completedAt] =>
    ofParts? id owner resource status (some label) (some error) createdAt updatedAt
      (some completedAt)
  | _ => none

def ofBytes? (bytes : Bytes) : Option Prediction := (Tree.ofBytes? bytes).bind ofTree?

def toTree (p : Prediction) : Tree :=
  .object [(bytesOf "id", p.id.toTree), (bytesOf "owner", Tree.ofText p.owner),
    (bytesOf "resource", Tree.ofText p.resource), (bytesOf "status", p.status.toTree),
    (bytesOf "label", Tree.ofOption Label.toTree p.label),
    (bytesOf "error", Tree.ofOption Tree.ofText p.error),
    (bytesOf "created_at", p.createdAt.toTree), (bytesOf "updated_at", p.updatedAt.toTree),
    (bytesOf "completed_at", Tree.ofOption Instant.toTree p.completedAt)]

end Prediction

end Predictor
