/-!
# Tables

Numbers by name, each name at most once.
-/

namespace CallEngine

/-- Numbers by name. -/
structure Table where
  entries : List (String × Int64) := []
deriving Repr, DecidableEq

namespace Table

def get? (t : Table) (key : String) : Option Int64 := t.entries.lookup key

def erase (t : Table) (key : String) : Table := ⟨t.entries.filter (·.1 != key)⟩

def insert (t : Table) (key : String) (value : Int64) : Table :=
  ⟨(t.erase key).entries ++ [(key, value)]⟩

def size (t : Table) : Nat := t.entries.length

end Table

/-- What can be done with an entry of a table. -/
inductive TableOp where
  | insert (key : String) (value : Int64)
  | get (key : String)
  | remove (key : String)
  /-- Add to an entry, which counts as zero if it is not there. -/
  | update (key : String) (amount : Int64)
  | size
deriving Repr, DecidableEq

namespace TableOp

/-- What a table operation gives back. -/
inductive Answer where
  | value (v : Option Int64)
  | count (n : Nat)
deriving Repr, DecidableEq

/-- Run an operation; inserting and removing give back the old value. -/
def run (t : Table) : TableOp → Answer × Table
  | insert key value => (.value (t.get? key), t.insert key value)
  | get key => (.value (t.get? key), t)
  | remove key => (.value (t.get? key), t.erase key)
  | update key amount =>
    let value := (t.get? key).getD 0 + amount
    (.value (some value), t.insert key value)
  | size => (.count t.size, t)

end TableOp

/-- What can be done with an entry of a table that is confined to one thread. -/
inductive LocalOp where
  | insert (key : String) (value : Int64)
  | get (key : String)
  /-- Add to an entry that is there. -/
  | add (key : String) (amount : Int64)
  | remove (key : String)
deriving Repr, DecidableEq

/-- Run an operation; the result is the old value, or the new one of a sum. -/
def LocalOp.run (t : Table) : LocalOp → Option Int64 × Table
  | insert key value => (t.get? key, t.insert key value)
  | get key => (t.get? key, t)
  | add key amount =>
    match t.get? key with
    | some value => (some (value + amount), t.insert key (value + amount))
    | none => (none, t)
  | remove key => (t.get? key, t.erase key)

end CallEngine
