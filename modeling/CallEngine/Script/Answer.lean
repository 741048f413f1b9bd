import CallEngine.Bignum
import CallEngine.Engine.Registry
import CallEngine.Table

/-!
# Answers

What a script gets back from its instructions. A value is shown together with what stood behind it
at that moment: the content of an object, or the code at an address.
-/

namespace CallEngine

/-- The state of a context between two instructions. -/
structure ContextStatus where
  depth : Nat
  top : Nat
  peak : Nat
  safetyOpen : Bool
  bufferFrames : Nat
  stackFrames : Nat
  reservations : Nat
  releases : Nat
  values : Nat
  isDisabled : Bool
  pending : Option InterruptKind
  fault : Option Fault
deriving Repr, DecidableEq

namespace ContextStatus

def ofContext (c : Context) : ContextStatus where
  depth := c.depth
  top := c.stack.top
  peak := c.stack.peak
  safetyOpen := c.stack.safetyOpen
  bufferFrames := c.bufferFrames
  stackFrames := c.stackFrames
  reservations := c.stack.reservations
  releases := c.stack.releases
  values := c.values.count
  isDisabled := c.guard.isDisabled
  pending := c.guard.peek
  fault := c.guard.faultInFlight

def bit (b : Bool) : String := if b then "1" else "0"

/-- The state in one line. -/
def text (s : ContextStatus) : String :=
  let pending := (s.pending.map InterruptKind.name).getD "-"
  let fault := (s.fault.map Fault.name).getD "-"
  s!"depth={s.depth} top={s.top} peak={s.peak} safety={bit s.safetyOpen} " ++
    s!"counters={s.bufferFrames}/{s.stackFrames}/{s.reservations}/{s.releases} " ++
    s!"values={s.values} disabled={bit s.isDisabled} pending={pending} fault={fault}"

end ContextStatus

/-- What a context and its operand stack look like from outside. -/
structure ContextSummary where
  capacity : Nat
  logicalEnd : Nat
  guardSlots : Nat
  guarded : Bool
  threshold : Nat
  id : Nat
  name : String
  depth : Nat
  top : Nat
  values : Nat
deriving Repr, DecidableEq

namespace ContextSummary

def ofContext (c : Context) : ContextSummary where
  capacity := c.stack.capacity
  logicalEnd := c.stack.logicalEnd
  guardSlots := c.stack.guardSlots
  guarded := c.stack.region.guarded
  threshold := c.smallCallThreshold
  id := c.id
  name := c.text
  depth := c.depth
  top := c.stack.top
  values := c.values.count

/-- The parts of a context for debugging. -/
def debugText (s : ContextSummary) : String :=
  "ExecutionContext \x7b " ++
    s!"id: ContextId({s.id}), frames: {s.depth}, stack_top: {s.top}, values: {s.values}" ++
    " \x7d"

end ContextSummary

namespace Script

/-- A value with what stands behind it. -/
structure Shown where
  value : Value
  /-- The content of an object. -/
  contents : Option (Except HeapError Contents) := none
  /-- The name of the code at an address. -/
  code : Option String := none

mutual

/-- What an instruction gives back. -/
inductive Answer where
  | nothing
  | flag (b : Bool)
  | number (n : Int)
  | text (s : String)
  | texts (list : List String)
  | handle (h : Option Handle)
  | value (v : Shown)
  | values (list : List Shown)
  | frame (f : Frame)
  | describe (summary : ContextSummary)
  | registry (summary : Engine.RegistrySummary)
  | console (owner : Option Nat)
  | entry (answer : TableOp.Answer)
  /-- What a loaded library or the process has under a name. -/
  | found (name : String) (symbol : Found)
  /-- A registered symbol stands for a native function. -/
  | native (function : Native)
  /-- The native function that a symbol stood for, if any. -/
  | replaced (native : Option Native)
  /-- The last error of a trampoline. -/
  | lastError (error : Option EngineError)
  /-- A call was not made. -/
  | skipped
  /-- A call was made: the count it returned, the reported values, and the functions that ran. -/
  | called (count : Nat) (values : List Shown) (trace : List Trace)
  | steps (steps : List Step)
  | held (lock : LockName) (steps : List Step)
  /-- The instruction failed; a failed call may name the functions that ran. -/
  | failed (error : EngineError) (trace : List Trace)

/-- One instruction of a script: its answer, and the state of its context afterwards. -/
inductive Step where
  | mk (answer : Answer) (status : Option ContextStatus)

/-- A function that ran, and the instructions of its body that were reached. -/
inductive Trace where
  | mk (name : String) (steps : List Step)

end

/-- Why an instruction failed, and the functions that ran inside a call that failed. -/
structure Failure where
  error : EngineError
  trace : List Trace := []

/-- A failure with nothing to report beside the error. -/
def Failure.ofError (error : EngineError) : Failure := { error }

/-- The answer of a failed instruction. -/
def Failure.answer (f : Failure) : Answer := .failed f.error f.trace

end Script

end CallEngine
