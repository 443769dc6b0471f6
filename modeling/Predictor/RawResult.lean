import Predictor.Json.Tree

/-!
The raw answer of a classification service: a score per category index, or no mapping at all. The
scores are kept in ascending order of index, each index once, and a score given later for an index
replaces the earlier one. In JSON the scores are an object whose keys are the indices.
-/

namespace Predictor

/-- Scores by category index, in ascending order. -/
structure Scores where
  entries : List (UInt32 × Binary64)
  ascending : entries.Pairwise fun a b => a.1 < b.1
  deriving DecidableEq, Repr

namespace Scores

def empty : Scores := ⟨[], .nil⟩

/-- Puts an entry in its place, instead of one with the same index. -/
def place (index : UInt32) (score : Binary64) :
    List (UInt32 × Binary64) → List (UInt32 × Binary64)
  | [] => [(index, score)]
  | entry :: rest =>
    if index < entry.1 then (index, score) :: entry :: rest
    else if entry.1 < index then entry :: place index score rest
    else (index, score) :: rest

theorem mem_place {index : UInt32} {score : Binary64} {entries : List (UInt32 × Binary64)}
    {e : UInt32 × Binary64} (h : e ∈ place index score entries) :
    e = (index, score) ∨ e ∈ entries := by
  induction entries with
  | nil => simpa [place] using h
  | cons entry rest ih =>
    simp only [place] at h
    split at h
    · simpa using h
    · split at h
      · rcases List.mem_cons.1 h with h | h
        · exact .inr (by simp [h])
        · exact (ih h).imp_right (by simp +contextual)
      · rcases List.mem_cons.1 h with h | h
        · exact .inl h
        · exact .inr (by simp [h])

theorem ascending_place (index : UInt32) (score : Binary64) {entries : List (UInt32 × Binary64)}
    (h : entries.Pairwise fun a b => a.1 < b.1) :
    (place index score entries).Pairwise fun a b => a.1 < b.1 := by
  induction entries with
  | nil => simp [place]
  | cons entry rest ih =>
    obtain ⟨hall, hrest⟩ := List.pairwise_cons.1 h
    simp only [place]
    split
    · rename_i hlt
      refine List.pairwise_cons.2 ⟨fun e he => ?_, h⟩
      rcases List.mem_cons.1 he with rfl | he
      · exact hlt
      · exact UInt32.lt_trans hlt (hall e he)
    · split
      · rename_i hlt
        refine List.pairwise_cons.2 ⟨fun e he => ?_, ih hrest⟩
        rcases mem_place he with rfl | he
        · exact hlt
        · exact hall e he
      · rename_i h1 h2
        have heq : index = entry.1 := UInt32.le_antisymm (UInt32.not_lt.1 h2) (UInt32.not_lt.1 h1)
        exact List.pairwise_cons.2 ⟨fun e he => heq ▸ hall e he, hrest⟩

def insert (scores : Scores) (index : UInt32) (score : Binary64) : Scores :=
  ⟨place index score scores.entries, ascending_place index score scores.ascending⟩

/-- The mapping of a list of pairs; the last pair of an index counts. -/
def ofList (pairs : List (UInt32 × Binary64)) : Scores :=
  pairs.foldl (fun scores pair => scores.insert pair.1 pair.2) empty

end Scores

structure RawResult where
  scores : Option Scores
  deriving DecidableEq, Repr

namespace RawResult

open Json

/-! ## Reading -/

/-- A key is a whole number of 32 bits, written as a JSON number without escapes. -/
def readIndex? (key : Bytes) : Option UInt32 := Tree.word32? (.number key)

def readScores? : Tree → Option Scores
  | .object members => do
    let pairs ← members.mapM fun (key, value) => do
      let index ← readIndex? key
      let score ← value.double?
      some (index, score)
    some (Scores.ofList pairs)
  | _ => none

/-- An object with an optional member `scores`, or an array of at most that one part. -/
def ofTree? : Tree → Option RawResult
  | .object members => do
    let members ← Tree.keyed? members
    let scores ← Tree.member? "scores" members
    (Tree.optional? readScores? scores).map RawResult.mk
  | .array [] => some ⟨none⟩
  | .array [scores] => (Tree.optional? readScores? (some scores)).map RawResult.mk
  | _ => none

def ofBytes? (bytes : Bytes) : Option RawResult := (Tree.ofBytes? bytes).bind ofTree?

/-! ## Writing -/

def scoresTree (scores : Scores) : Tree :=
  .object (scores.entries.map fun (index, score) =>
    (bytesOf (toString index), Tree.ofDouble score))

def toTree (raw : RawResult) : Tree :=
  .object [(bytesOf "scores", Tree.ofOption scoresTree raw.scores)]

end RawResult

end Predictor
