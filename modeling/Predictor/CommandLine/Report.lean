import Predictor.Binary64.Fixed
import Predictor.Prediction

/-!
What the commands print of predictions. Ids and statuses take the room that they need; owners and
results are filled up with blanks to a width counted in characters, and a result in a list is cut.
-/

namespace Predictor.CommandLine

/-- Fills a text up with blanks. -/
def padded (width : Nat) (s : String) : String :=
  s ++ String.ofList (List.replicate (width - s.length) ' ')

/-- Decimal places of a confidence. -/
def confidencePlaces : Nat := 4

def resultWidth : Nat := 30
def ownerWidth : Nat := 12

/-! ## One prediction -/

def labelText : Label → String
  | .category index name confidence =>
    name ++ " (category " ++ toString index ++ ", confidence " ++
      confidence.fixed confidencePlaces ++ ")"
  | .undefined => Label.undefinedName

/-- The lines of a record; parts that it does not have are left out. -/
def recordLines (p : Prediction) : List String :=
  ["ID:         " ++ p.id.text, "Owner:      " ++ p.owner, "Resource:   " ++ p.resource,
    "Status:     " ++ p.status.text] ++
  (p.label.map fun label => "Label:      " ++ labelText label).toList ++
  (p.error.map fun reason => "Error:      " ++ reason).toList ++
  ["Created:    " ++ p.createdAt.text, "Updated:    " ++ p.updatedAt.text] ++
  (p.completedAt.map fun t => "Completed:  " ++ t.text).toList

/-- The line of a record after its submission. -/
def resultLine (p : Prediction) : String :=
  p.id.text ++ "  " ++ p.status.text ++ "  " ++ p.summary

/-! ## Lists -/

def listRow (id owner status result created : String) : String :=
  id ++ "  " ++ owner ++ "  " ++ status ++ "  " ++ result ++ "  " ++ created

def listHeader : String :=
  listRow (padded 36 "ID") (padded ownerWidth "OWNER") (padded 10 "STATUS")
    (padded resultWidth "RESULT") "CREATED"

def ruler : String := String.ofList (List.replicate 110 '-')

def listLine (p : Prediction) : String :=
  listRow p.id.text (padded ownerWidth p.owner) p.status.text
    (padded resultWidth (String.ofList (p.summary.toList.take resultWidth))) p.createdAt.minuteText

def listLines (predictions : List Prediction) : List String :=
  if predictions.isEmpty then ["No predictions found."]
  else [listHeader, ruler] ++ predictions.map listLine ++
    ["", toString predictions.length ++ " prediction(s)"]

/-! ## Errors -/

/-- The lines of a text, each but the first one behind `margin` blanks. -/
def indented (margin : Nat) (s : String) : String :=
  String.ofList (s.toList.flatMap fun c =>
    if c = '\n' then '\n' :: List.replicate margin ' ' else [c])

/-- One of several causes with its number. -/
def numberedCause (cause : String) (number : Nat) : String :=
  let digits := toString number
  String.ofList (List.replicate (5 - digits.length) ' ') ++ digits ++ ": " ++ indented 7 cause

def causeLines (causes : List String) : List String :=
  match causes with
  | [] => []
  | [cause] => ["", "Caused by:", "    " ++ indented 4 cause]
  | _ => ["", "Caused by:"] ++ causes.zipIdx.map fun (cause, number) => numberedCause cause number

def errorLines (e : Error) : List String := ("Error: " ++ e.message) :: causeLines e.causes

end Predictor.CommandLine
