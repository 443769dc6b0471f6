import Predictor.Error
import Predictor.Label.Table
import Predictor.Text.Utf8
import Predictor.Toml.Document

/-!
Label tables in files: TOML whose entry `labels` at the top is an array of texts. Other entries are
allowed and left aside.
-/

namespace Predictor

/-- What a file system gives for a path. -/
inductive FileContent
  | bytes (bytes : Bytes)
  | missing
  | directory
  deriving DecidableEq, Repr

namespace LabelTable

/-- The texts of a list of values, when all are texts. -/
def texts? (values : List Toml.Value) : Option (List String) :=
  values.mapM fun | .text s => some s | _ => none

def ofEntries? (entries : Toml.Entries) : Option LabelTable :=
  match entries.lookup "labels" with
  | some (.value (.array values)) => (texts? values).map LabelTable.mk
  | _ => none

def ofToml (text : String) : Except Error LabelTable :=
  match (Toml.document? text.toList).bind ofEntries? with
  | some table => .ok table
  | none => .error (.configuration "bad label table")

/-- The label table of a file. -/
def load (path : String) (content : FileContent) : Except Error LabelTable :=
  let unreadable (reason : String) : Except Error LabelTable :=
    .error (.configuration ("cannot read label table " ++ path ++ ": " ++ reason))
  match content with
  | .missing => unreadable "No such file or directory (os error 2)"
  | .directory => unreadable "Is a directory (os error 21)"
  | .bytes bytes =>
    match textOf? bytes with
    | some text => ofToml text
    | none => unreadable "stream did not contain valid UTF-8"

end LabelTable

end Predictor
