import Predictor.Error

/-!
The life of a prediction: it is processing until its outcome is written, and then completed or
failed for good.
-/

namespace Predictor

inductive Status
  | processing
  | completed
  | failed
  deriving DecidableEq, Repr

namespace Status

def all : List Status := [.processing, .completed, .failed]

/-- The only moves are from processing to one of the two ends. -/
def canBecome : Status → Status → Bool
  | .processing, .completed => true
  | .processing, .failed => true
  | _, _ => false

def isTerminal : Status → Bool
  | .processing => false
  | .completed => true
  | .failed => true

def text : Status → String
  | .processing => "processing"
  | .completed => "completed"
  | .failed => "failed"

def ofText? (s : String) : Option Status := all.find? fun status => status.text == s

def ofText (s : String) : Except Error Status :=
  match ofText? s with
  | some status => .ok status
  | none => .error (.unknownStatus s)

end Status

end Predictor
