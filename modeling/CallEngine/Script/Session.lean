import CallEngine.Engine.ForeignCall
import CallEngine.Script.Answer
import CallEngine.Script.Instruction

/-!
# Sessions

The state in which a script runs: an engine, the functions that the script defines, the frames and
trampolines it has given names to, its tables, and an account of the functions that run inside the
calls in progress.
-/

namespace CallEngine

namespace Script

/-- A callee that is ready to be called. -/
inductive Target where
  | hosted (function : Function)
  | foreign (function : ForeignFunction)

def Target.name : Target → String
  | hosted function => function.name
  | foreign function => function.name

/-- A callee that native code can call, and the error of its last failure. -/
structure Trampoline where
  name : String
  callback : Callback
  callee : Target
  lastError : Option EngineError := none

/-- The state of a running script. -/
structure Session where
  engine : Engine
  functions : List Function := []
  /-- The frames that have a name. -/
  frames : List (String × Frame) := []
  tables : Array Table := #[]
  trampolines : Array Trampoline := #[]
  /-- For each call in progress the functions that ran inside it, the innermost call and the
  latest function first. -/
  traces : List (List Trace) := []

/-- An operation of a session. -/
abbrev SessionOp (α : Type) := Op Session EngineError α

/-- Where an instruction stands: the context at hand, which is the one it works on whatever it
names, and the frame of the running function. Outside of functions and of uninterrupted blocks no
context is at hand. -/
structure Scope where
  context : Option Nat := none
  frame : Option Frame := none

/-- The context that an instruction works on: the one at hand, else the one it names, else the
first. -/
def Scope.number (scope : Scope) (i : Instruction) : Nat :=
  scope.context.getD (i.context.getD 0)

namespace Session

/-! ## Parts of the state -/

/-- Run an operation of the engine. -/
def onEngine {α : Type} (op : EngineOp α) : SessionOp α := fun s =>
  (op s.engine).mapState fun engine => { s with engine }

/-- The operations of the engine inside a session. -/
def inside : Inside Session := ⟨onEngine⟩

/-- The operations of one context inside a session. -/
def within (number : Nat) : Within Session := inside.context number

/-- Run an operation of the heap. -/
def onHeap {α : Type} (op : HeapOp α) : SessionOp α :=
  onEngine fun e => ((op.mapError .heap) e.heap).mapState fun heap => { e with heap }

/-- Read something off a context. -/
def readContext {α : Type} (number : Nat) (f : Context → α) : SessionOp α :=
  (within number).run (Op.gets f)

/-! ## Names -/

/-- Give a frame a name, if there is one. -/
def bindFrame (name : Option String) (f : Frame) : SessionOp Unit :=
  match name with
  | some name => Op.modify fun s => { s with frames := (name, f) :: s.frames.filter (·.1 != name) }
  | none => return ()

/-- The frame that a reference means. -/
def frame (scope : Scope) (ref : FrameRef) : SessionOp Frame := do
  match ref with
  | .named name =>
    match (← Op.get).frames.lookup name with
    | some f => return f
    | none => Op.fail (.signalled s!"unknown frame {name}")
  | .own =>
    match scope.frame with
    | some f => return f
    | none => Op.fail (.signalled "unknown frame self")

/-- The latest trampoline of a name, by its position. -/
def trampolineIndex? (s : Session) (name : String) : Option Nat :=
  (List.range s.trampolines.size).reverse.find? fun i =>
    (s.trampolines[i]?.map (·.name)) == some name

/-- The position of a trampoline. -/
def trampolineIndex (name : String) : SessionOp Nat := do
  match (← Op.get).trampolineIndex? name with
  | some index => return index
  | none => Op.fail (.signalled s!"unknown trampoline {name}")

/-- The address of code. -/
def codeAddress (code : Code) : SessionOp EntryPoint :=
  Op.gets fun s => code.address s.engine.codeOrigin

/-! ## Values -/

/-- The value of an operand on a context. -/
def operand (scope : Scope) (number : Nat) : Operand → SessionOp Value
  | .literal value => onHeap value.eval
  | .arg ref index => do
    let f ← frame scope ref
    (within number).frame (Op.read (·.arg f index))
  | .primary => readContext number (·.values.primary)
  | .reported index => readContext number (·.values.get index)
  | .code name => do
    let index ← trampolineIndex name
    return .pointer (← codeAddress (.trampoline index))

/-- The values of an operand list on a context. -/
def operands (scope : Scope) (number : Nat) : Operands → SessionOp (List Value)
  | .series values => values.eval (operand scope number)
  | .args ref => do
    let f ← frame scope ref
    (within number).frame (Op.read (·.args f))

/-- The name of the native function or trampoline at an address. -/
def codeName? (s : Session) (address : UInt64) : Option String :=
  match Code.ofAddress? s.engine.codeOrigin address with
  | some (.native function) => some function.name
  | some (.trampoline index) => s.trampolines[index]?.map (·.name)
  | _ => none

/-- A value with what stands behind it now. -/
def shown (s : Session) (value : Value) : Shown :=
  match value with
  | .object handle => { value, contents := some (s.engine.heap.contents handle) }
  | .pointer address => { value, code := s.codeName? address }
  | _ => { value }

/-- Answer with a value. -/
def showValue (value : Value) : SessionOp Answer := Op.gets fun s => .value (s.shown value)

/-- Answer with values. -/
def showValues (values : List Value) : SessionOp Answer :=
  Op.gets fun s => .values (values.map s.shown)

/-! ## Traces -/

/-- Start an account of the functions that run inside a call. -/
def openTrace : SessionOp Unit := Op.modify fun s => { s with traces := [] :: s.traces }

/-- Add functions to the account of the innermost call, in order. -/
def addTraces (entries : List Trace) (s : Session) : Session :=
  match s.traces with
  | [] => s
  | trace :: outer => { s with traces := (entries.reverse ++ trace) :: outer }

/-- End the account of the innermost call; the result is in order. -/
def closeTrace : SessionOp (List Trace) :=
  Op.change fun s => ((s.traces.headD []).reverse, { s with traces := s.traces.drop 1 })

end Session

end Script

end CallEngine
