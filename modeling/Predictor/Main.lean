import Predictor.CommandLine.Run

/-!
The program `predict`. It reads its variables and the label table from the system; no network can be
reached from it.
-/

namespace Predictor

/-- The variables that the configuration reads. -/
def variableNames : List String :=
  ["MAX_IN_FLIGHT", "CLASSIFIER_TIMEOUT_SECS", "DATABASE_URL", "CLASSIFIER_URL",
    "CLASSIFIER_API_KEY", "LABELS_PATH", "OTEL_ENDPOINT", "LOG_LEVEL"]

def readEnvironment : IO Environment := do
  let settings ← variableNames.filterMapM fun name => do
    return (← IO.getEnv name).map fun value => (name, bytesOf value)
  return .ofList settings

/-- What the file system gives for a path; one that cannot be read counts as a directory. -/
def readContent (path : String) : IO FileContent := do
  try
    let content ← IO.FS.readBinFile path
    return .bytes content.toList
  catch
    | .noFileOrDirectory .. => return .missing
    | _ => return .directory

end Predictor

open Predictor in
def main (words : List String) : IO UInt32 := do
  let environment ← readEnvironment
  let labels ← (environment.present? "LABELS_PATH").mapM readContent
  let surroundings := CommandLine.Surroundings.isolated environment
    (fun _ => labels.getD .missing) "Network is unreachable (os error 101)"
    (fun n => ⟨BitVec.ofNat 128 n⟩)
  let report := CommandLine.run surroundings words
  for line in report.output do IO.println line
  for line in report.errors do IO.eprintln line
  return UInt32.ofNat report.exitCode
