import CallEngine.Lock.Program
import Mathlib.Data.List.Nodup

/-!
# Locks and their guards

A lock is held through a guard, and given back when the guard is dropped, in whatever order. What a
thread knows about its locks is a record of its own, which is written when a lock is granted and
when a guard is dropped; the lock itself is free exactly if it has no guard. Here the two are
compared, at every moment of every program on one thread: the record names exactly the locks whose
guards are alive, so a request is granted only if its lock is free, and what is refused changes
nothing.

Programs of nested locks drop their guards in the order opposite to that in which they took them, so
they are programs of this kind.
-/

namespace CallEngine

/-! ## Guards -/

/-- What holds a lock as long as it is alive. -/
inductive LockGuard where
  | domain (index : Nat) (name : DomainLock)
  | table (index : Nat)
deriving DecidableEq

namespace LockGuard

/-- The domain whose lock is held. -/
def domain? : LockGuard → Option Nat
  | domain index _ => some index
  | table _ => none

/-- The table whose lock is held. -/
def table? : LockGuard → Option Nat
  | domain _ _ => none
  | table index => some index

@[simp] theorem domain?_domain (index : Nat) (name : DomainLock) :
    (domain index name).domain? = some index := rfl

@[simp] theorem domain?_table (index : Nat) : (table index).domain? = none := rfl

@[simp] theorem table?_domain (index : Nat) (name : DomainLock) :
    (domain index name).table? = none := rfl

@[simp] theorem table?_table (index : Nat) : (table index).table? = some index := rfl

end LockGuard

/-- Whether an operation needs no lock. -/
def LockOp.isPlain : LockOp → Bool
  | hold _ _ _ _ _ => false
  | lock _ _ _ _ => false
  | table _ _ => false
  | _ => true

/-- One step of a program. Guards are named by their place, the latest one first. -/
inductive LockStep where
  /-- Take the lock of a domain and keep its guard. -/
  | take (name : DomainLock) (domain : Nat)
  /-- Take the lock of a table and keep its guard. -/
  | lock (table : Nat)
  /-- Work on a table under its lock, which is given back at once. -/
  | table (index : Nat) (op : TableOp)
  /-- Change what is guarded by a guard. -/
  | edit (guard : Nat) (registry : List Int64 → List Int64) (table : Table → Table)
  | drop (guard : Nat)
  /-- Do what needs no lock. -/
  | plain (op : LockOp)

/-- How a step was answered. -/
inductive Grant where
  | granted
  | refused (error : LockError)
  /-- The step named something that is not there. -/
  | unknown
deriving DecidableEq

/-- How an operation was answered, apart from what it gave back. -/
def Grant.ofAnswer : LockAnswer → Grant
  | .refused error => refused error
  | .unknown => unknown
  | _ => granted

/-- The domains and tables with what the thread knows about its locks, and the guards that are
alive, the latest first. -/
structure GuardedLocks where
  state : LockState
  guards : List LockGuard := []

namespace GuardedLocks

/-- Domains and tables before any lock was taken. -/
def start (state : LockState) : GuardedLocks := { state := { state with held := {} } }

/-- The lock of a domain is not free. -/
def Locked (s : GuardedLocks) (domain : Nat) : Prop := ∃ name, .domain domain name ∈ s.guards

/-- The lock of a table is not free. -/
def TableLocked (s : GuardedLocks) (table : Nat) : Prop := .table table ∈ s.guards

/-- Change what is guarded. -/
def edited (s : LockState) (registry : List Int64 → List Int64) (table : Table → Table) :
    LockGuard → LockState
  | .domain index _ =>
    { s with domains := s.domains.setIfInBounds index ((s.domain? index).map registry) }
  | .table index => s.setTable index ((s.table? index).map table)

/-- Cross a lock off what the thread knows. -/
def dropped (held : HeldLocks) : LockGuard → HeldLocks
  | .domain index _ => held.release index
  | .table _ => held.releaseTable

/-- Answer a request, and keep the guard if the lock was granted. -/
def granting (s : GuardedLocks) (guard : LockGuard) :
    Except LockError HeldLocks → Grant × GuardedLocks
  | .error e => (.refused e, s)
  | .ok held => (.granted, { state := { s.state with held }, guards := guard :: s.guards })

/-- Run one step. -/
def step (s : GuardedLocks) : LockStep → Grant × GuardedLocks
  | .take name domain =>
    if (s.state.domain? domain).isSome then
      s.granting (.domain domain name) (s.state.held.acquire domain name)
    else (.unknown, s)
  | .lock table =>
    if (s.state.table? table).isSome then
      s.granting (.table table) (s.state.held.acquireTable table)
    else (.unknown, s)
  | .table index op =>
    (.ofAnswer (s.state.runTable index op).1, { s with state := (s.state.runTable index op).2 })
  | .edit guard registry table =>
    match s.guards[guard]? with
    | none => (.unknown, s)
    | some g => (.granted, { s with state := edited s.state registry table g })
  | .drop guard =>
    match s.guards[guard]? with
    | none => (.unknown, s)
    | some g =>
      (.granted,
        { state := { s.state with held := dropped s.state.held g }
          guards := s.guards.eraseIdx guard })
  | .plain op =>
    if op.isPlain then
      (.ofAnswer (op.run s.state).1, { s with state := (op.run s.state).2 })
    else (.unknown, s)

/-- Run steps one after the other. -/
def after (s : GuardedLocks) : List LockStep → GuardedLocks
  | [] => s
  | step :: rest => (s.step step).2.after rest

/-- Steps that follow others go on from what those left. -/
theorem after_append (s : GuardedLocks) (steps more : List LockStep) :
    s.after (steps ++ more) = (s.after steps).after more := by
  induction steps generalizing s with
  | nil => rfl
  | cons step rest ih => exact ih (s.step step).2

/-- What needs no lock leaves the locks and is not refused. -/
theorem run_plain {op : LockOp} (hplain : op.isPlain = true) (state : LockState) :
    (op.run state).2.held = state.held ∧
      ∀ error, Grant.ofAnswer (op.run state).1 ≠ .refused error := by
  cases op with
  | hold name domain push hasBody body => simp [LockOp.isPlain] at hplain
  | lock table put hasBody body => simp [LockOp.isPlain] at hplain
  | table index op => simp [LockOp.isPlain] at hplain
  | newDomain => simp [LockOp.run, Grant.ofAnswer]
  | newTable => simp [LockOp.run, Grant.ofAnswer]
  | newLocal => simp [LockOp.run, Grant.ofAnswer]
  | isHeld domain => simp [LockOp.run, Grant.ofAnswer]
  | takeDomain domain =>
    cases hfound : state.domain? domain <;> simp [LockOp.run, Grant.ofAnswer, hfound]
  | takeTable table =>
    cases hfound : state.table? table <;>
      simp [LockOp.run, Grant.ofAnswer, hfound, LockState.setTable]
  | withLocal index op =>
    cases hfound : state.local? index <;> simp [LockOp.run, Grant.ofAnswer, hfound]
  | share index => cases hfound : state.local? index <;> simp [LockOp.run, Grant.ofAnswer, hfound]

/-- Work on a table gives its lock back. -/
theorem held_runTable (state : LockState) (index : Nat) (op : TableOp) :
    (state.runTable index op).2.held = state.held := by
  unfold LockState.runTable
  split
  · rfl
  · split <;> rfl

/-! ## What the thread knows -/

variable {s : GuardedLocks}

/-- The thread knows the locks whose guards are alive. -/
structure Accounts (s : GuardedLocks) : Prop where
  domains : s.state.held.domains = s.guards.filterMap LockGuard.domain?
  distinct : s.state.held.domains.Nodup
  table : s.state.held.table.toList = s.guards.filterMap LockGuard.table?

namespace Accounts

/-- Nothing is held before anything was taken. -/
theorem start (state : LockState) : Accounts (start state) where
  domains := rfl
  distinct := List.nodup_nil
  table := rfl

/-- Domains that are known to be locked. -/
theorem holds_iff (h : Accounts s) (domain : Nat) :
    s.state.held.holds domain = true ↔ s.Locked domain := by
  rw [HeldLocks.holds, List.contains_iff_mem, h.domains, List.mem_filterMap]
  constructor
  · rintro ⟨guard, hmem, hdomain⟩
    cases guard with
    | domain index name =>
      obtain rfl : index = domain := by simpa using hdomain
      exact ⟨name, hmem⟩
    | table index => simp at hdomain
  · rintro ⟨name, hmem⟩
    exact ⟨_, hmem, rfl⟩

/-- The table that is known to be locked. -/
theorem table_iff (h : Accounts s) (table : Nat) :
    s.state.held.table = some table ↔ s.TableLocked table := by
  rw [← Option.mem_toList, h.table, List.mem_filterMap]
  constructor
  · rintro ⟨guard, hmem, htable⟩
    cases guard with
    | domain index name => simp at htable
    | table index =>
      obtain rfl : index = table := by simpa using htable
      exact hmem
  · intro hmem
    exact ⟨_, hmem, rfl⟩

/-- A lock that is granted is accounted for by its guard. -/
theorem take (h : Accounts s) {domain : Nat} {name : DomainLock} {held : HeldLocks}
    (hgranted : s.state.held.acquire domain name = .ok held) :
    Accounts { state := { s.state with held }, guards := .domain domain name :: s.guards } := by
  unfold HeldLocks.acquire at hgranted
  split at hgranted
  · cases hgranted
  · rename_i hfree
    split at hgranted
    · cases hgranted
    · cases hgranted
      refine ⟨?_, ?_, ?_⟩
      · simp [h.domains]
      · simp only [HeldLocks.holds, List.contains_iff_mem] at hfree
        exact List.nodup_cons.mpr ⟨hfree, h.distinct⟩
      · simp [h.table, List.filterMap_cons]

/-- The lock of a table that is granted is accounted for by its guard. -/
theorem lock (h : Accounts s) {table : Nat} {held : HeldLocks}
    (hgranted : s.state.held.acquireTable table = .ok held) :
    Accounts { state := { s.state with held }, guards := .table table :: s.guards } := by
  unfold HeldLocks.acquireTable at hgranted
  split at hgranted
  · split at hgranted <;> cases hgranted
  · rename_i hnone
    cases hgranted
    have hfree := h.table
    rw [hnone] at hfree
    refine ⟨?_, h.distinct, ?_⟩
    · simp [h.domains, List.filterMap_cons]
    · simp [← hfree]

/-- A guard that is dropped is crossed off, and no other one is. -/
theorem drop (h : Accounts s) {i : Nat} {guard : LockGuard} (hguard : s.guards[i]? = some guard) :
    Accounts
      { state := { s.state with held := dropped s.state.held guard }
        guards := s.guards.eraseIdx i } := by
  obtain ⟨hlt, hget⟩ := List.getElem?_eq_some_iff.mp hguard
  -- Around the guard that goes are those that were taken after it and those that were taken before.
  obtain ⟨later, earlier, hsplit, herase⟩ :
      ∃ later earlier, s.guards = later ++ guard :: earlier ∧
        s.guards.eraseIdx i = later ++ earlier := by
    refine ⟨s.guards.take i, s.guards.drop (i + 1), ?_, List.eraseIdx_eq_take_drop_succ _ _⟩
    rw [← hget]
    simp
  obtain ⟨hdomains, hdistinct, htable⟩ := h
  rw [hsplit, List.filterMap_append] at hdomains htable
  cases guard with
  | domain index name =>
    rw [List.filterMap_cons_some (LockGuard.domain?_domain index name)] at hdomains
    rw [List.filterMap_cons_none (LockGuard.table?_domain index name)] at htable
    rw [hdomains] at hdistinct
    have hother : ∀ d ∈ later.filterMap LockGuard.domain? ++ earlier.filterMap LockGuard.domain?,
        (d != index) = true := by
      intro d hd
      simp only [bne_iff_ne]
      rintro rfl
      exact (List.nodup_cons.mp (List.nodup_middle.mp hdistinct)).1 hd
    have hreleased : (s.state.held.release index).domains =
        later.filterMap LockGuard.domain? ++ earlier.filterMap LockGuard.domain? := by
      have hkept := List.filter_eq_self.mpr hother
      simp only [List.filter_append] at hkept
      simp [HeldLocks.release, hdomains, hkept]
    refine ⟨?_, ?_, ?_⟩
    · simp [dropped, hreleased, herase]
    · rw [dropped, hreleased]
      exact (List.nodup_cons.mp (List.nodup_middle.mp hdistinct)).2
    · simp [dropped, HeldLocks.release, herase, htable]
  | table index =>
    rw [List.filterMap_cons_none (LockGuard.domain?_table index)] at hdomains
    rw [List.filterMap_cons_some (LockGuard.table?_table index)] at htable
    -- There is no second guard of a table.
    have hlength := congrArg List.length htable
    have hone : s.state.held.table.toList.length ≤ 1 := by cases s.state.held.table <;> simp
    simp only [List.length_append, List.length_cons] at hlength
    have hlater : later.filterMap LockGuard.table? = [] := List.length_eq_zero_iff.mp (by omega)
    have hearlier : earlier.filterMap LockGuard.table? = [] := List.length_eq_zero_iff.mp (by omega)
    refine ⟨?_, hdistinct, ?_⟩
    · simp [dropped, HeldLocks.releaseTable, herase, hdomains]
    · rw [herase, List.filterMap_append, hlater, hearlier]
      rfl

/-- Data that is changed while locks and guards stay does not matter. -/
theorem of_held (h : Accounts s) {state : LockState} (hheld : state.held = s.state.held) :
    Accounts { s with state } where
  domains := by rw [hheld, h.domains]
  distinct := by rw [hheld]; exact h.distinct
  table := by rw [hheld, h.table]

/-- Every step keeps the account. -/
theorem step (h : Accounts s) (step : LockStep) : Accounts (s.step step).2 := by
  cases step with
  | take name domain =>
    simp only [GuardedLocks.step]
    split
    · cases hresult : s.state.held.acquire domain name with
      | error e => exact h
      | ok held => exact h.take hresult
    · exact h
  | lock table =>
    simp only [GuardedLocks.step]
    split
    · cases hresult : s.state.held.acquireTable table with
      | error e => exact h
      | ok held => exact h.lock hresult
    · exact h
  | table index op => exact h.of_held (held_runTable s.state index op)
  | edit guard registry table =>
    simp only [GuardedLocks.step]
    split
    · exact h
    · rename_i g _
      cases g <;> exact h.of_held rfl
  | drop guard =>
    simp only [GuardedLocks.step]
    split
    · exact h
    · exact h.drop ‹_›
  | plain op =>
    simp only [GuardedLocks.step]
    split
    · exact h.of_held (run_plain ‹_› s.state).1
    · exact h

/-- At every moment the account is right. -/
theorem after (h : Accounts s) (steps : List LockStep) : Accounts (s.after steps) := by
  induction steps generalizing s with
  | nil => exact h
  | cons step rest ih => exact ih (h.step step)

end Accounts

/-! ## Requests -/

/-- How a request for the lock `name` is to be answered, if it is taken already exactly if `own`,
and the tables whose locks are taken are those of `tables`. -/
structure Judged (name : LockName) (own : Prop) (tables : Nat → Prop) (answer : Grant) : Prop where
  granted : answer = .granted ↔ ¬own ∧ ∀ table, ¬tables table
  reentrant (lock : LockName) : answer = .refused (.reentrant lock) ↔ lock = name ∧ own
  order (held requested : LockName) :
    answer = .refused (.orderViolation held requested) ↔
      requested = name ∧ ¬own ∧ ∃ table, tables table ∧ held = .table table

/-- A lock that is taken is refused for that, and one that is free only for the sake of the one
table that is locked. -/
theorem Judged.of_cases {name : LockName} {own : Prop} {tables : Nat → Prop} {answer : Grant}
    (hone : ∀ table other, tables table → tables other → table = other)
    (hcases : own ∧ answer = .refused (.reentrant name) ∨
      (∃ table, ¬own ∧ tables table ∧ answer = .refused (.orderViolation (.table table) name)) ∨
      (¬own ∧ ∀ table, ¬tables table) ∧ answer = .granted) :
    Judged name own tables answer := by
  rcases hcases with ⟨hown, rfl⟩ | ⟨table, hown, htable, rfl⟩ | ⟨⟨hown, hfree⟩, rfl⟩
  · exact ⟨by simp [hown], by simp [hown, eq_comm], by simp [hown]⟩
  · refine ⟨by simpa [hown] using ⟨table, htable⟩, by simp [hown], fun held requested => ?_⟩
    constructor
    · intro hrefused
      cases hrefused
      exact ⟨rfl, hown, table, htable, rfl⟩
    · rintro ⟨rfl, _, other, hother, rfl⟩
      rw [hone table other htable hother]
  · exact ⟨by simpa [hown] using hfree, by simp [hown], by simp [hfree]⟩

namespace Accounts

/-- At most one table is locked. -/
theorem tableLocked_unique (h : Accounts s) (table other : Nat) (htable : s.TableLocked table)
    (hother : s.TableLocked other) : table = other := by
  rw [← h.table_iff] at htable hother
  exact Option.some.inj (htable.symm.trans hother)

/-- The lock of a domain is asked for. -/
theorem judged_take (h : Accounts s) {domain : Nat} (hdomain : (s.state.domain? domain).isSome)
    (name : DomainLock) :
    Judged (.domain name) (s.Locked domain) s.TableLocked (s.step (.take name domain)).1 := by
  apply Judged.of_cases h.tableLocked_unique
  simp only [← h.holds_iff, ← h.table_iff, GuardedLocks.step, hdomain, HeldLocks.acquire]
  by_cases hheld : s.state.held.holds domain
  · simp [hheld, granting]
  · cases htable : s.state.held.table with
    | none => simp [hheld, granting]
    | some table => simp [hheld, granting]

/-- The lock of a table is asked for, by whatever step. -/
theorem judged_table (h : Accounts s) (index : Nat) {answer : Grant}
    (hrefused : ∀ error, s.state.held.acquireTable index = .error error → answer = .refused error)
    (hgranted : ∀ held, s.state.held.acquireTable index = .ok held → answer = .granted) :
    Judged (.table index) (s.TableLocked index) s.TableLocked answer := by
  apply Judged.of_cases h.tableLocked_unique
  simp only [← h.table_iff]
  cases htable : s.state.held.table with
  | none =>
    have hanswer := hgranted { s.state.held with table := some index }
      (by simp [HeldLocks.acquireTable, htable])
    simp [hanswer]
  | some table =>
    by_cases hsame : table = index
    · have hanswer := hrefused (.reentrant (.table index))
        (by simp [HeldLocks.acquireTable, htable, hsame])
      simp [hsame, hanswer]
    · have hanswer := hrefused (.orderViolation (.table table) (.table index))
        (by simp [HeldLocks.acquireTable, htable, hsame])
      simp [hsame, hanswer]

/-- The lock of a table is asked for to be kept. -/
theorem judged_lock (h : Accounts s) {index : Nat} (hindex : (s.state.table? index).isSome) :
    Judged (.table index) (s.TableLocked index) s.TableLocked (s.step (.lock index)).1 := by
  apply h.judged_table
  · intro error hr
    simp [GuardedLocks.step, hindex, hr, granting]
  · intro held hr
    simp [GuardedLocks.step, hindex, hr, granting]

/-- The lock of a table is asked for to work on the table. -/
theorem judged_work (h : Accounts s) {index : Nat} (hindex : (s.state.table? index).isSome)
    (op : TableOp) :
    Judged (.table index) (s.TableLocked index) s.TableLocked (s.step (.table index op)).1 := by
  obtain ⟨contents, hcontents⟩ := Option.isSome_iff_exists.mp hindex
  apply h.judged_table
  · intro error hr
    simp [GuardedLocks.step, LockState.runTable, hcontents, hr, Grant.ofAnswer]
  · intro held hr
    simp [GuardedLocks.step, LockState.runTable, hcontents, hr, Grant.ofAnswer]

end Accounts

/-- A request that is refused changes nothing. -/
theorem granting_refused {guard : LockGuard} {result : Except LockError HeldLocks}
    {error : LockError} (h : (s.granting guard result).1 = .refused error) :
    (s.granting guard result).2 = s := by
  cases result with
  | error e => rfl
  | ok held => simp [granting] at h

/-- What is refused changes nothing. -/
theorem step_refused {step : LockStep} {error : LockError}
    (h : (s.step step).1 = .refused error) : (s.step step).2 = s := by
  cases step with
  | take name domain =>
    simp only [GuardedLocks.step] at h ⊢
    split
    · exact granting_refused (by simpa [*] using h)
    · rfl
  | lock table =>
    simp only [GuardedLocks.step] at h ⊢
    split
    · exact granting_refused (by simpa [*] using h)
    · rfl
  | table index op =>
    simp only [GuardedLocks.step, LockState.runTable] at h ⊢
    split
    · rfl
    · split
      · rfl
      · simp_all [Grant.ofAnswer]
  | edit guard registry table =>
    cases hguard : s.guards[guard]? <;> simp [GuardedLocks.step, hguard] at h
  | drop guard => cases hguard : s.guards[guard]? <;> simp [GuardedLocks.step, hguard] at h
  | plain op =>
    by_cases hplain : op.isPlain = true
    · simp only [GuardedLocks.step, hplain, if_true] at h
      exact absurd h ((run_plain hplain s.state).2 error)
    · simp [GuardedLocks.step, hplain] at h

/-! ## Nested programs -/

/-- Some steps lead to the state and leave the guards. -/
def Reaches (s : GuardedLocks) (state : LockState) : Prop :=
  ∃ steps, s.after steps = { s with state }

/-- What is not done needs no step. -/
theorem reaches_self (s : GuardedLocks) : s.Reaches s.state := ⟨[], rfl⟩

/-- What needs no lock is a step. -/
theorem reaches_plain {op : LockOp} (hplain : op.isPlain = true) (s : GuardedLocks) :
    s.Reaches (op.run s.state).2 := by
  refine ⟨[.plain op], ?_⟩
  simp [after, step, hplain]

/-- A lock is taken, what it guards is changed, the body runs, and the guard is dropped. -/
theorem reaches_guarded {guard : LockGuard} {request : LockStep} {held : HeldLocks}
    {state : LockState} (registry : List Int64 → List Int64) (table : Table → Table)
    (hgranted : s.step request =
      (.granted, { state := { s.state with held }, guards := guard :: s.guards }))
    (hbody : Reaches
      { state := edited { s.state with held } registry table guard, guards := guard :: s.guards }
      state) :
    s.Reaches { state with held := dropped state.held guard } := by
  obtain ⟨body, hbody⟩ := hbody
  refine ⟨request :: .edit 0 registry table :: (body ++ [.drop 0]), ?_⟩
  rw [after, hgranted, after]
  simp only [step, List.getElem?_cons_zero, after_append, hbody]
  rfl

/-- The lock of a domain is granted. -/
theorem step_take {domain : Nat} {name : DomainLock} {contents : List Int64} {held : HeldLocks}
    (hfound : s.state.domain? domain = some contents)
    (hgranted : s.state.held.acquire domain name = .ok held) :
    s.step (.take name domain) =
      (.granted,
        { state := { s.state with held }, guards := .domain domain name :: s.guards }) := by
  simp [step, hfound, hgranted, granting]

/-- The lock of a table is granted. -/
theorem step_lock {table : Nat} {contents : Table} {held : HeldLocks}
    (hfound : s.state.table? table = some contents)
    (hgranted : s.state.held.acquireTable table = .ok held) :
    s.step (.lock table) =
      (.granted, { state := { s.state with held }, guards := .table table :: s.guards }) := by
  simp [step, hfound, hgranted, granting]

/-- The lock of a table that was granted and is given back was not held before. -/
theorem releaseTable_acquired {held held' : HeldLocks} {table : Nat}
    (hgranted : held.acquireTable table = .ok held') : held'.releaseTable = held := by
  simp only [HeldLocks.acquireTable] at hgranted
  split at hgranted
  · split at hgranted <;> cases hgranted
  · rename_i hnone
    cases hgranted
    simp [HeldLocks.releaseTable, ← hnone]

/-- Work on a table takes its lock, changes the table and gives the lock back. -/
theorem reaches_table (s : GuardedLocks) (index : Nat) (op : TableOp) :
    s.Reaches (s.state.runTable index op).2 := by
  unfold LockState.runTable
  cases hfound : s.state.table? index with
  | none => exact s.reaches_self
  | some contents =>
    cases hresult : s.state.held.acquireTable index with
    | error e => exact s.reaches_self
    | ok held =>
      have hreached := reaches_guarded id (fun t => (op.run t).2) (step_lock hfound hresult)
        (reaches_self _)
      have hcontents : LockState.table? { s.state with held } index = some contents := hfound
      simpa [edited, hcontents, LockState.setTable, dropped, releaseTable_acquired hresult]
        using hreached

mutual

/-- An operation with all that is nested in it is a run of steps. -/
theorem reaches_run (op : LockOp) (s : GuardedLocks) : s.Reaches (op.run s.state).2 := by
  cases op with
  | hold name domain push hasBody body =>
    unfold LockOp.run
    cases hfound : s.state.domain? domain with
    | none => exact s.reaches_self
    | some contents =>
      cases hresult : s.state.held.acquire domain name with
      | error e => exact s.reaches_self
      | ok held =>
        have hreached := reaches_guarded (· ++ push) id (step_take hfound hresult)
          (reaches_runAll body _)
        have hcontents : LockState.domain? { s.state with held } domain = some contents := hfound
        simpa [edited, hcontents, dropped] using hreached
  | lock table put hasBody body =>
    unfold LockOp.run
    cases hfound : s.state.table? table with
    | none => exact s.reaches_self
    | some contents =>
      cases hresult : s.state.held.acquireTable table with
      | error e => exact s.reaches_self
      | ok held =>
        have hreached := reaches_guarded id (put.foldl fun t (key, value) => t.insert key value)
          (step_lock hfound hresult) (reaches_runAll body _)
        have hcontents : LockState.table? { s.state with held } table = some contents := hfound
        simpa [edited, hcontents, LockState.setTable, dropped] using hreached
  | table index op =>
    unfold LockOp.run
    exact s.reaches_table index op
  | newDomain => exact reaches_plain rfl s
  | newTable => exact reaches_plain rfl s
  | newLocal => exact reaches_plain rfl s
  | isHeld domain => exact reaches_plain rfl s
  | takeDomain domain => exact reaches_plain rfl s
  | takeTable table => exact reaches_plain rfl s
  | withLocal index op => exact reaches_plain rfl s
  | share index => exact reaches_plain rfl s

/-- A program is a run of steps. -/
theorem reaches_runAll (ops : List LockOp) (s : GuardedLocks) :
    s.Reaches (LockOp.runAll ops s.state).2 := by
  cases ops with
  | nil => exact s.reaches_self
  | cons op rest =>
    obtain ⟨steps, hsteps⟩ := reaches_run op s
    obtain ⟨more, hmore⟩ := reaches_runAll rest { s with state := (op.run s.state).2 }
    refine ⟨steps ++ more, ?_⟩
    rw [after_append, hsteps, hmore]
    simp [LockOp.runAll]

end

/-! ## Locks at every moment -/

/-- What a thread knows about its locks is what is so, and its requests are answered accordingly. -/
structure Orderly (s : GuardedLocks) : Prop where
  oneGuard (domain : Nat) : (s.guards.filterMap LockGuard.domain?).count domain ≤ 1
  oneTable : (s.guards.filterMap LockGuard.table?).length ≤ 1
  isHeld (domain : Nat) : s.state.held.holds domain = true ↔ s.Locked domain
  tableHeld (table : Nat) : s.state.held.table = some table ↔ s.TableLocked table
  take {domain : Nat} (h : (s.state.domain? domain).isSome) (name : DomainLock) :
    Judged (.domain name) (s.Locked domain) s.TableLocked (s.step (.take name domain)).1
  lock {table : Nat} (h : (s.state.table? table).isSome) :
    Judged (.table table) (s.TableLocked table) s.TableLocked (s.step (.lock table)).1
  /-- Work on a table asks for its lock as well. -/
  work {table : Nat} (h : (s.state.table? table).isSome) (op : TableOp) :
    Judged (.table table) (s.TableLocked table) s.TableLocked (s.step (.table table op)).1
  /-- A lock that is granted has a guard from then on. -/
  keeps {name : DomainLock} {domain : Nat} (h : (s.step (.take name domain)).1 = .granted) :
    (s.step (.take name domain)).2.guards = .domain domain name :: s.guards
  keepsTable {table : Nat} (h : (s.step (.lock table)).1 = .granted) :
    (s.step (.lock table)).2.guards = .table table :: s.guards
  refused {step : LockStep} {error : LockError} (h : (s.step step).1 = .refused error) :
    (s.step step).2 = s
  /-- Once all guards are dropped, every lock can be taken again. -/
  free (h : s.guards = []) :
    s.state.held = {} ∧
      (∀ domain name, (s.state.domain? domain).isSome → (s.step (.take name domain)).1 = .granted) ∧
      ∀ table, (s.state.table? table).isSome → (s.step (.lock table)).1 = .granted

/-- The guard of a lock that was granted is kept. -/
theorem guards_granting {guard : LockGuard} {result : Except LockError HeldLocks}
    (h : (s.granting guard result).1 = .granted) :
    (s.granting guard result).2.guards = guard :: s.guards := by
  cases result with
  | error e => simp [granting] at h
  | ok held => rfl

/-- Without guards nothing is held. -/
theorem Accounts.held_nil (h : Accounts s) (hguards : s.guards = []) : s.state.held = {} := by
  have hdomains := h.domains
  have htable := h.table
  simp only [hguards, List.filterMap_nil, Option.toList_eq_nil_iff] at hdomains htable
  cases hheld : s.state.held with
  | mk domains table => simp_all

/-- A thread that knows the locks whose guards are alive takes locks in order. -/
theorem Accounts.orderly (h : Accounts s) : Orderly s where
  oneGuard domain := by
    rw [← h.domains]
    exact List.nodup_iff_count_le_one.mp h.distinct domain
  oneTable := by
    rw [← h.table]
    cases s.state.held.table <;> simp
  isHeld := h.holds_iff
  tableHeld := h.table_iff
  take := h.judged_take
  lock := h.judged_lock
  work := h.judged_work
  keeps {name domain} hgranted := by
    by_cases hdomain : (s.state.domain? domain).isSome
    · simp only [GuardedLocks.step, hdomain, if_true] at hgranted ⊢
      exact guards_granting hgranted
    · simp [GuardedLocks.step, hdomain] at hgranted
  keepsTable {table} hgranted := by
    by_cases htable : (s.state.table? table).isSome
    · simp only [GuardedLocks.step, htable, if_true] at hgranted ⊢
      exact guards_granting hgranted
    · simp [GuardedLocks.step, htable] at hgranted
  refused := step_refused
  free hguards := by
    refine ⟨h.held_nil hguards, fun domain name hdomain => ?_, fun table htable => ?_⟩
    · apply (h.judged_take hdomain name).granted.mpr
      simp [Locked, TableLocked, hguards]
    · apply (h.judged_lock htable).granted.mpr
      simp [TableLocked, hguards]

/-- At every moment of every program on one thread, whatever the order in which it drops its guards,
the locks that the thread knows are those whose guards are alive, and every request is answered by
them. Programs of nested locks are among these programs. -/
theorem locks_follow_guards (state : LockState) (steps : List LockStep) :
    Orderly ((start state).after steps) ∧
      ∀ program, ((start state).after steps).Reaches
        (LockOp.runAll program ((start state).after steps).state).2 :=
  ⟨((Accounts.start state).after steps).orderly, fun program => reaches_runAll program _⟩

/-- Two guards are dropped in the order in which they were taken; the table is still locked. -/
example :
    let s := (start { tables := #[some {}] }).after [.take .package 0, .lock 0, .drop 1]
    s.guards = [.table 0] ∧ s.state.held.holds 0 = false ∧
      (s.step (.take .global 0)).1 = .refused (.orderViolation (.table 0) (.domain .global)) := by
  decide

end GuardedLocks

end CallEngine
