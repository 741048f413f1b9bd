/-!
# Locks

One thread may hold the lock of any number of domains, and the lock of one shared table. Table
locks come last: while one is held, no other lock is granted. The lock of a domain has three
names.
-/

namespace CallEngine

/-- The names of a domain's lock, which all stand for one lock. -/
inductive DomainLock where
  | global
  | package
  | errorHandler
deriving Repr, DecidableEq

/-- A lock that is asked for. -/
inductive LockName where
  | domain (name : DomainLock)
  | table (id : Nat)
deriving Repr, DecidableEq

namespace LockName

def text : LockName → String
  | domain .global => "global lock"
  | domain .package => "package lock"
  | domain .errorHandler => "error-handler lock"
  | table id => s!"hash table {id} lock"

end LockName

/-- Why a lock was refused. -/
inductive LockError where
  | orderViolation (held requested : LockName)
  | reentrant (name : LockName)
deriving Repr, DecidableEq

/-- The name of the kind of error. -/
def LockError.kind : LockError → String
  | orderViolation _ _ => "OrderViolation"
  | reentrant _ => "Reentrant"

def LockError.message : LockError → String
  | orderViolation held requested =>
    s!"Lock order violation: {requested.text} requested while holding {held.text}"
  | reentrant name => s!"{name.text} is already held by this thread"

/-- The locks a thread holds. -/
structure HeldLocks where
  domains : List Nat := []
  table : Option Nat := none
deriving Repr, DecidableEq

namespace HeldLocks

/-- Whether the lock of a domain is held. -/
def holds (h : HeldLocks) (domain : Nat) : Bool := h.domains.contains domain

/-- Take the lock of a domain under one of its names. -/
def acquire (h : HeldLocks) (domain : Nat) (name : DomainLock) : Except LockError HeldLocks :=
  if h.holds domain then .error (.reentrant (.domain name))
  else
    match h.table with
    | some table => .error (.orderViolation (.table table) (.domain name))
    | none => .ok { h with domains := domain :: h.domains }

/-- Give back the lock of a domain. -/
def release (h : HeldLocks) (domain : Nat) : HeldLocks :=
  { h with domains := h.domains.filter (· != domain) }

/-- Take the lock of a table. -/
def acquireTable (h : HeldLocks) (table : Nat) : Except LockError HeldLocks :=
  match h.table with
  | some held =>
    if held = table then .error (.reentrant (.table table))
    else .error (.orderViolation (.table held) (.table table))
  | none => .ok { h with table := some table }

/-- Give back the lock of the table that is held. -/
def releaseTable (h : HeldLocks) : HeldLocks := { h with table := none }

end HeldLocks

end CallEngine
