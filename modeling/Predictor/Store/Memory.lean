import Predictor.Store.Basic

/-!
The store in memory: records in the order of their creation. The first outcome of a record is the
one that stays. Ids and clock readings come from `Supplies`, so the store is a function of them.
-/

namespace Predictor

open Time

/-- Where a store takes ids and times from: the n-th id and the n-th reading of the clock. -/
structure Supplies where
  ids : Nat → PredictionId
  clock : Nat → Instant

structure MemoryStore where
  supplies : Supplies
  /-- Ids handed out so far. -/
  issued : Nat
  /-- Readings of the clock so far. -/
  readings : Nat
  /-- The records, in the order of creation. -/
  records : List Prediction

namespace MemoryStore

def empty (supplies : Supplies) : MemoryStore := ⟨supplies, 0, 0, []⟩

/-- The record that a creation makes. -/
def pending (id : PredictionId) (owner resource : String) (now : Instant) : Prediction :=
  { id, owner, resource, status := .processing, label := none, error := none,
    createdAt := now, updatedAt := now, completedAt := none }

def create (store : MemoryStore) (owner resource : String) : Prediction × MemoryStore :=
  let record := pending (store.supplies.ids store.issued) owner resource
    (store.supplies.clock store.readings)
  (record, { store with
    issued := store.issued + 1
    readings := store.readings + 1
    records := store.records.filter (fun r => r.id != record.id) ++ [record] })

/-- A record with its outcome. -/
def settled (record : Prediction) (outcome : Outcome) (now : Instant) : Prediction :=
  let record := { record with
    status := outcome.status, updatedAt := now, completedAt := some now }
  match outcome with
  | .classified label => { record with label := some label }
  | .failed reason => { record with error := some reason }

def find? (store : MemoryStore) (id : PredictionId) : Option Prediction :=
  store.records.find? fun r => r.id == id

def finalize (store : MemoryStore) (id : PredictionId) (outcome : Outcome) :
    Except Error Unit × MemoryStore :=
  match store.find? id with
  | none => (.error (.notFound id.text), store)
  | some record =>
    if record.status.canBecome outcome.status then
      let now := store.supplies.clock store.readings
      (.ok (), { store with
        readings := store.readings + 1
        records := store.records.map fun r => if r.id = id then settled r outcome now else r })
    else (.error (.invalidTransition record.status.text outcome.status.text), store)

def get (store : MemoryStore) (id : PredictionId) : Except Error Prediction :=
  match store.find? id with
  | some record => .ok record
  | none => .error (.notFound id.text)

/-- The records of one status, oldest first. -/
def listByStatus (store : MemoryStore) (status : Status) : List Prediction :=
  (store.records.filter fun r => r.status == status).mergeSort
    fun a b => a.createdAt.le b.createdAt

def size (store : MemoryStore) : Nat := store.records.length

def isEmpty (store : MemoryStore) : Bool := store.size == 0

instance : PredictionStore MemoryStore where
  create store owner resource :=
    let (record, store) := store.create owner resource
    (.ok record, store)
  finalize := finalize
  get store id := (store.get id, store)

end MemoryStore

end Predictor
