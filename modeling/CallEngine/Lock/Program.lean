import CallEngine.Lock
import CallEngine.Table

/-!
# Programs of nested locks

A single-threaded program that creates domains and tables, takes their locks and runs further
operations while it holds them. A lock is given back when the operations under it are done.
-/

namespace CallEngine

/-- An operation of a lock program. Domains, shared tables and confined tables are numbered in the
order of their creation. -/
inductive LockOp where
  | newDomain
  | newTable
  | newLocal
  /-- Take a domain's lock, append `push` to its registry and run `body`, if there is one. -/
  | hold (name : DomainLock) (domain : Nat) (push : List Int64) (hasBody : Bool)
    (body : List LockOp)
  | isHeld (domain : Nat)
  /-- Give up a domain for its registry. -/
  | takeDomain (domain : Nat)
  /-- Take a table's lock, insert `put` and run `body`, if there is one. -/
  | lock (table : Nat) (put : List (String × Int64)) (hasBody : Bool) (body : List LockOp)
  | table (index : Nat) (op : TableOp)
  /-- Confine a table to this thread. -/
  | takeTable (table : Nat)
  | withLocal (index : Nat) (op : LocalOp)
  /-- Share a confined table. -/
  | share (index : Nat)

/-- What an operation of a lock program gives back. -/
inductive LockAnswer where
  | index (n : Nat)
  | flag (b : Bool)
  | entry (answer : TableOp.Answer)
  | registry (contents : List Int64)
  | held (name : LockName) (contents : List Int64) (hasBody : Bool) (body : List LockAnswer)
  | locked (contents : Table) (hasBody : Bool) (body : List LockAnswer)
  | confined (result : Option Int64) (contents : Table)
  | refused (error : LockError)
  /-- The operation named something that was never created or was given up. -/
  | unknown

/-- The domains and tables that exist, and the locks that are held. -/
structure LockState where
  held : HeldLocks := {}
  domains : Array (Option (List Int64)) := #[some []]
  tables : Array (Option Table) := #[]
  locals : Array (Option Table) := #[]

namespace LockState

def domain? (s : LockState) (index : Nat) : Option (List Int64) := s.domains[index]?.join

def table? (s : LockState) (index : Nat) : Option Table := s.tables[index]?.join

def local? (s : LockState) (index : Nat) : Option Table := s.locals[index]?.join

def setTable (s : LockState) (index : Nat) (table : Option Table) : LockState :=
  { s with tables := s.tables.setIfInBounds index table }

/-- Run one table operation under the table's lock. -/
def runTable (s : LockState) (index : Nat) (op : TableOp) : LockAnswer × LockState :=
  match s.table? index with
  | none => (.unknown, s)
  | some table =>
    match s.held.acquireTable index with
    | .error e => (.refused e, s)
    | .ok _ =>
      let (answer, table) := op.run table
      (.entry answer, s.setTable index (some table))

end LockState

mutual

/-- Run one operation. -/
def LockOp.run : LockOp → LockState → LockAnswer × LockState
  | .newDomain, s => (.index s.domains.size, { s with domains := s.domains.push (some []) })
  | .newTable, s => (.index s.tables.size, { s with tables := s.tables.push (some {}) })
  | .newLocal, s => (.index s.locals.size, { s with locals := s.locals.push (some {}) })
  | .hold name domain push hasBody body, s =>
    match s.domain? domain with
    | none => (.unknown, s)
    | some contents =>
      match s.held.acquire domain name with
      | .error e => (.refused e, s)
      | .ok held =>
        let contents := contents ++ push
        let s := { s with held, domains := s.domains.setIfInBounds domain (some contents) }
        let (answers, s) := LockOp.runAll body s
        (.held (.domain name) ((s.domain? domain).getD []) hasBody answers,
          { s with held := s.held.release domain })
  | .isHeld domain, s => (.flag (s.held.holds domain), s)
  | .takeDomain domain, s =>
    match s.domain? domain with
    | none => (.unknown, s)
    | some contents =>
      (.registry contents, { s with domains := s.domains.setIfInBounds domain none })
  | .lock index put hasBody body, s =>
    match s.table? index with
    | none => (.unknown, s)
    | some contents =>
      match s.held.acquireTable index with
      | .error e => (.refused e, s)
      | .ok held =>
        let contents := put.foldl (fun t (key, value) => t.insert key value) contents
        let s := { s.setTable index (some contents) with held }
        let (answers, s) := LockOp.runAll body s
        (.locked ((s.table? index).getD {}) hasBody answers, { s with held := s.held.releaseTable })
  | .table index op, s => s.runTable index op
  | .takeTable index, s =>
    match s.table? index with
    | none => (.unknown, s)
    | some contents =>
      (.index s.locals.size,
        { s.setTable index none with locals := s.locals.push (some contents) })
  | .withLocal index op, s =>
    match s.local? index with
    | none => (.unknown, s)
    | some contents =>
      let (result, contents) := op.run contents
      (.confined result contents,
        { s with locals := s.locals.setIfInBounds index (some contents) })
  | .share index, s =>
    match s.local? index with
    | none => (.unknown, s)
    | some contents =>
      (.index s.tables.size,
        { s with
          locals := s.locals.setIfInBounds index none
          tables := s.tables.push (some contents) })

/-- Run operations one after the other. -/
def LockOp.runAll : List LockOp → LockState → List LockAnswer × LockState
  | [], s => ([], s)
  | op :: rest, s =>
    let (answer, s) := op.run s
    let (answers, s) := LockOp.runAll rest s
    (answer :: answers, s)

end

end CallEngine
