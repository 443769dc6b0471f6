import Predictor.Database.Connection

/-!
Migrations bring the tables of a database to the form that the store expects. The server keeps a note
of each migration it has applied, with a checksum; a migration that was applied halfway, one that is
not known here, and one that has changed since are problems, found in that order. The notes belong to
the library that applies migrations: the store finds them and sends nothing for them.
-/

namespace Predictor.Database

structure Migration where
  version : Int
  checksum : Bytes
  script : String
  deriving DecidableEq, Repr

/-- What a server has noted of migrations. -/
structure Bookkeeping where
  /-- A migration that was applied halfway. -/
  dirty : Option Int
  /-- Versions and checksums of those applied. -/
  applied : List (Int × Bytes)
  deriving DecidableEq, Repr

namespace Migration

/-- The table of predictions with its two indices. -/
def predictions : Migration where
  version := 1
  checksum := [
    0xD7, 0x67, 0xE8, 0x0D, 0xCC, 0x36, 0x37, 0x30, 0x5D, 0xB0, 0x33, 0xC4,
    0x4E, 0xA9, 0x3E, 0x75, 0x8E, 0xD6, 0x32, 0x42, 0x5E, 0x79, 0x3C, 0xE1,
    0xDB, 0xCE, 0x80, 0xE1, 0xFB, 0xC7, 0x64, 0xEF, 0xA4, 0xD8, 0x66, 0x15,
    0x0E, 0xAC, 0x29, 0xF8, 0x62, 0xAB, 0xC0, 0x86, 0xDC, 0x0B, 0xA2, 0xC7]
  script :=
    "CREATE TABLE IF NOT EXISTS predictions (
    id                  UUID PRIMARY KEY,
    owner               TEXT NOT NULL,
    resource            TEXT NOT NULL,
    status              TEXT NOT NULL DEFAULT 'processing'
                        CHECK (status IN ('processing', 'completed', 'failed')),
    label               TEXT,
    category_index      INTEGER,
    confidence          DOUBLE PRECISION,
    error               TEXT,
    created_at          TIMESTAMPTZ NOT NULL DEFAULT now(),
    updated_at          TIMESTAMPTZ NOT NULL DEFAULT now(),
    completed_at        TIMESTAMPTZ
);

CREATE INDEX IF NOT EXISTS predictions_owner_idx ON predictions (owner, created_at DESC);
CREATE INDEX IF NOT EXISTS predictions_status_idx ON predictions (status);\n"

def all : List Migration := [predictions]

inductive Problem
  | dirty (version : Int)
  | unknown (version : Int)
  | changed (version : Int)
  | failed (version : Int) (fault : DatabaseFault)
  deriving DecidableEq, Repr

def Problem.message : Problem → String
  | .dirty version => "migration " ++ toString version ++
      " is partially applied; fix and remove row from \x60_sqlx_migrations\x60 table"
  | .unknown version => "migration " ++ toString version ++
      " was previously applied but is missing in the resolved migrations"
  | .changed version => "migration " ++ toString version ++
      " was previously applied but has been modified"
  | .failed version fault =>
    "while executing migration " ++ toString version ++ ": " ++ fault.message

/-- What there is to do for one migration: nothing when it was applied as it is. -/
def isPending (b : Bookkeeping) (m : Migration) : Except Problem Bool :=
  match b.applied.lookup m.version with
  | none => .ok true
  | some checksum => if checksum = m.checksum then .ok false else .error (.changed m.version)

/-- Finds what forbids to go on before any migration is looked at. -/
def check (b : Bookkeeping) : Except Problem Unit :=
  match b.dirty with
  | some version => .error (.dirty version)
  | none =>
    match b.applied.find? fun note => all.all (·.version != note.1) with
    | some note => .error (.unknown note.1)
    | none => .ok ()

end Migration

namespace Connection

variable {σ : Type} [Server σ]

/-- Applies one migration. -/
def apply (c : Connection σ) (m : Migration) : Except Migration.Problem Unit × Connection σ :=
  let (reply, c) := c.send (.migrate m.script)
  match reply with
  | .failed fault => (.error (.failed m.version fault), c)
  | _ => (.ok (), c)

/-- Applies the migrations that are pending, in order, up to the first problem. -/
def applyPending (b : Bookkeeping) (c : Connection σ) :
    List Migration → Except Migration.Problem Unit × Connection σ
  | [] => (.ok (), c)
  | m :: rest =>
    match m.isPending b with
    | .error problem => (.error problem, c)
    | .ok false => applyPending b c rest
    | .ok true =>
      match c.apply m with
      | (.error problem, c) => (.error problem, c)
      | (.ok (), c) => applyPending b c rest

def migrate (c : Connection σ) (b : Bookkeeping) : Except Error Unit × Connection σ :=
  let (result, c) : Except Migration.Problem Unit × Connection σ :=
    match Migration.check b with
    | .error problem => (.error problem, c)
    | .ok () => c.applyPending b Migration.all
  (result.mapError fun problem => .migrationFailed problem.message, c)

end Connection

end Predictor.Database
