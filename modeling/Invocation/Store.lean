import Invocation.Diagnostics.Event
import Invocation.Json.Value

/-!
# Collaborators

What a handler can reach besides its request: a store of texts by key and a
database to query.  Where the host has none, a stand-in takes its place: its
store forgets everything and its database refuses every query, and both say so.
-/

namespace Invocation

/-- A store of texts by key. -/
inductive Store where
  /-- The stand-in for a store that the host does not have. -/
  | absent
  /-- A store in memory, each key once. -/
  | memory (entries : List (String × String))
  deriving DecidableEq, Repr

namespace Store

/-- Sets a key in a list of entries. -/
def put (key value : String) : List (String × String) → List (String × String)
  | [] => [(key, value)]
  | e :: rest => if e.1 = key then (key, value) :: rest else e :: put key value rest

/-- A store in memory; of a key given twice the last value counts. -/
def ofList (entries : List (String × String)) : Store :=
  .memory (entries.foldl (fun es (key, value) => put key value es) [])

/-- The value of a key. -/
def get? (s : Store) (key : String) : Option String :=
  match s with
  | .absent => none
  | .memory entries => (entries.find? (·.1 = key)).map Prod.snd

/-- Sets a key. -/
def set (s : Store) (key value : String) : Store :=
  match s with
  | .absent => .absent
  | .memory entries => .memory (put key value entries)

theorem find?_put (key value other : String)
    (entries : List (String × String)) :
    (put key value entries).find? (·.1 = other) =
      if key = other then some (key, value)
      else entries.find? (·.1 = other) := by
  induction entries with
  | nil => by_cases h : key = other <;> simp [put, h]
  | cons e rest ih =>
      rw [put]
      by_cases hk : e.1 = key
      · by_cases ho : key = other <;> simp [hk, ho]
      · by_cases ho : e.1 = other
        · have : key ≠ other := fun h => hk (ho.trans h.symm)
          simp [ho, this, this.symm]
        · simpa [hk, ho] using ih

/-- A key that has been set has its new value, and no other key changes. -/
theorem get?_set (entries : List (String × String))
    (key value other : String) :
    ((memory entries).set key value).get? other =
      if key = other then some value else (memory entries).get? other := by
  simp only [set, get?, find?_put]
  split <;> simp

/-- The number of keys. -/
def size : Store → Nat
  | .absent => 0
  | .memory entries => entries.length

/-- What is reported when a key is asked for. -/
def getEvents (s : Store) (key : String) : List Event :=
  match s with
  | .absent => [.storeReadRefused key]
  | .memory _ => []

/-- What is reported when a key is set. -/
def setEvents (s : Store) (key : String) : List Event :=
  match s with
  | .absent => [.storeWriteRefused key]
  | .memory _ => []

end Store

/-- A database. -/
inductive Database where
  /-- The stand-in for a database that the host does not have. -/
  | absent
  /-- A database that gives the same rows to every query. -/
  | fixed (rows : List Json)

namespace Database

/-- The answer to a query. -/
def query (d : Database) (_sql : String) : Except AdapterError (List Json) :=
  match d with
  | .absent => .error (.unavailable "db query")
  | .fixed rows => .ok rows

/-- What is reported of a query. -/
def queryEvents (d : Database) (sql : String) : List Event :=
  match d with
  | .absent => [.queryRefused sql.utf8ByteSize]
  | .fixed _ => []

end Database
end Invocation
