import CallEngine.Foreign.Process
import CallEngine.Script.Action

/-!
# Running scripts

Instructions run one after the other. Inside a function the first failure ends the body, unless
the instruction tolerates it; outside of functions every failure is just an answer. What runs while
a lock is held runs as if outside of functions, even if the lock was taken inside of one. A fatal
error ends the script.

Calls nest by the depth of frames and of native calls, which no property of the script bounds, so
running is by recursion on the nesting that is still allowed. Every other function here takes the
functions for one level less as arguments.
-/

namespace CallEngine

namespace Script

/-- How an instruction is run. -/
abbrev Exec := Scope → Instruction → Op Session Failure Answer

/-- How a callee is run on a frame of a context. -/
abbrev Invoke := Nat → Target → Frame → SessionOp Nat

namespace Session

/-! ## Blocks and hosted functions -/

/-- The step of an instruction that has ended. -/
def step (scope : Scope) (i : Instruction) (answer : Answer) : SessionOp Step :=
  Op.gets fun s =>
    .mk answer ((s.engine.context? (scope.number i)).map ContextStatus.ofContext)

/-- Run instructions. The result is their steps, and the failure that ended them if one did. -/
def block (exec : Exec) (scope : Scope) : List Instruction →
    SessionOp (List Step × Option EngineError)
  | [] => return ([], none)
  | i :: rest => do
    match ← (exec scope i).attempt with
    | .ok answer =>
      let first ← step scope i answer
      let (steps, failure) ← block exec scope rest
      return (first :: steps, failure)
    | .error failure =>
      let first ← step scope i failure.answer
      if scope.frame.isSome && !i.tolerant then return ([first], some failure.error)
      else
        let (steps, failure) ← block exec scope rest
        return (first :: steps, failure)

/-- Run instructions, and fail if one ended them. -/
def nested (exec : Exec) (scope : Scope) (body : List Instruction) : SessionOp (List Step) := do
  let (steps, failure) ← block exec scope body
  match failure with
  | some error => Op.fail error
  | none => return steps

/-- Run a hosted function on its frame. -/
def hosted (exec : Exec) (number : Nat) (function : Function) (f : Frame) : SessionOp Nat := do
  if !function.accepts f.argc then
    Op.fail (.arity function.name function.expected f.argc)
  let (steps, failure) ← block exec { context := some number, frame := some f } function.body
  Op.modify (addTraces [.mk function.name steps])
  match failure with
  | some error => Op.fail error
  | none =>
    match function.returns with
    | some count => return count
    | none => readContext number (·.values.count)

/-! ## Native code -/

/-- Run a trampoline, and keep its error if it fails. -/
def runTrampoline (invoke : Invoke) (index : Nat) (args : List Scalar) : SessionOp Scalar := do
  match (← Op.get).trampolines[index]? with
  | none => return .ofBits .u64 0
  | some t =>
    let (result, error) ← t.callback.run inside (fun number => invoke number t.callee) args
    if error.isSome then
      Op.modify fun s =>
        { s with trampolines := s.trampolines.modify index fun t => { t with lastError := error } }
    return result

/-- Make a user interrupt pending on the context of the innermost foreign call. -/
def interruptCaller : SessionOp Unit := do
  match (← Op.get).engine.entered.head? with
  | some number => (within number).run (Op.modify (Context.post .user))
  | none => return ()

/-- What native functions can do. Code to call back is the code of a trampoline. -/
def host (invoke : Invoke) : Native.Host (Op Session EngineError) where
  call := fun address args => do
    match Code.ofAddress? (← Op.get).engine.codeOrigin address with
    | some (.trampoline index) => runTrampoline invoke index args
    | _ => return .ofBits .u64 0
  interrupt := interruptCaller

/-- Run the code at an address. -/
def callCode (invoke : Invoke) (entry : EntryPoint) (args : List Scalar) : SessionOp Scalar := do
  match Code.ofAddress? (← Op.get).engine.codeOrigin entry with
  | some (.native function) =>
    function.run (host invoke) (Op.gets (·.engine.memory)) args
  | some (.exported index) =>
    let functions := (← Op.get).engine.libraries.exports
    return .wrapInteger .i32 ((functions[index]?.map (·.result)).getD 0)
  | some (.process name) => return Process.result (← Op.get).engine.memory name args
  | some (.trampoline index) => runTrampoline invoke index args
  | none => return .ofBits .u64 0

/-! ## Callees -/

/-- The entry point of a foreign callee, and its own name. -/
def foreignEntry : ForeignTarget → SessionOp (EntryPoint × String)
  | .native function => do return (← codeAddress (.native function), function.name)
  | .trampoline name => do
    let index ← trampolineIndex name
    return (← codeAddress (.trampoline index), name)
  | .symbol name => do return (← onEngine (Engine.resolve name), name)

/-- Make a callee ready to be called. -/
def target : Callee → SessionOp Target
  | .defined name => do
    match (← Op.get).functions.find? (·.name == name) with
    | some function => return .hosted function
    | none => Op.fail (.signalled s!"unknown function {name}")
  | .function function => return .hosted function
  | .foreign target name signature => do
    let signature ← Op.ofExcept signature.read
    let (entry, own) ← foreignEntry target
    return .foreign { name := name.getD own, entry, signature }

/-- Make a callee callable from native code; the answer is the text of the signature. -/
def newTrampoline (name : String) (signature : Declaration) (callee : Callee) :
    SessionOp Answer := do
  let signature ← Op.ofExcept signature.read
  let callee ← target callee
  let callback ← Op.ofExcept ((Callback.create signature callee.name).mapError .foreign)
  Op.modify fun s => { s with trampolines := s.trampolines.push { name, callback, callee } }
  return .text signature.text

/-- Run a callee on a frame. -/
def call (exec : Exec) (invoke : Invoke) (number : Nat) (callee : Target) (f : Frame) :
    SessionOp Nat :=
  match callee with
  | .hosted function => hosted exec number function f
  | .foreign function => function.invoke inside (callCode invoke) number f

/-! ## Instructions -/

/-- The answer of a call with an account of the functions that ran inside it. If the call fails
inside of another one, the account passes to that one. -/
def traced (number : Nat) (op : SessionOp Nat) : Op Session Failure Answer := do
  openTrace.mapError Failure.ofError
  match ← op.attempt with
  | .ok count =>
    let trace ← closeTrace.mapError Failure.ofError
    let values ← (readContext number (·.values.toList)).mapError Failure.ofError
    Op.gets fun s => .called count (values.map s.shown) trace
  | .error error =>
    let trace ← closeTrace.mapError Failure.ofError
    if (← Op.get).traces.isEmpty then Op.fail { error, trace }
    Op.modify (addTraces trace)
    Op.fail { error }

/-- Call a callee with arguments, which are evaluated before the callee. -/
def funcall (invoke : Invoke) (scope : Scope) (number : Nat) (callee : Callee) (args : Operands) :
    SessionOp Nat := do
  let args ← operands scope number args
  let callee ← target callee
  (within number).funcall (invoke number callee) args

/-- Run a callee on a frame that is open. -/
def apply (invoke : Invoke) (scope : Scope) (number : Nat) (callee : Callee) (ref : FrameRef) :
    SessionOp Nat := do
  let callee ← target callee
  let f ← frame scope ref
  (within number).apply (invoke number callee) f

/-- Run instructions while a table is locked. -/
def holding (exec : Exec) (index : Nat) (body : List Instruction) : SessionOp (List Step) := do
  let s ← Op.get
  if s.tables.size ≤ index then Op.fail (.signalled s!"unknown table {index}")
  let locks ← Op.ofExcept ((s.engine.locks.acquireTable index).mapError .lock)
  onEngine (Op.modify fun e => { e with locks })
  (nested exec {} body).thenAlways
    (onEngine (Op.modify fun e => { e with locks := e.locks.releaseTable }))

/-- Run one instruction. -/
def instruction (exec : Exec) (invoke : Invoke) (scope : Scope) (i : Instruction) :
    Op Session Failure Answer :=
  let number := scope.number i
  let plain := fun (op : SessionOp Answer) => op.mapError Failure.ofError
  match i.action with
  | .onContext action => plain (onContext scope number action)
  | .onEngine action => plain (perform action)
  | .withoutInterrupts body => plain do
    let scope := { scope with context := some number }
    return .steps (← (within number).withoutInterrupts (nested exec scope body))
  | .hold name body => plain do
    onEngine (Engine.take name)
    return .held (.domain name) (← (nested exec {} body).thenAlways (onEngine Engine.giveBack))
  | .holdTable index body => plain do return .steps (← holding exec index body)
  | .funcall callee args depthLimit => do
    let depth ← plainDepth number
    if depthLimit.any (· ≤ depth) then return .skipped
    traced number (funcall invoke scope number callee args)
  | .apply callee ref => traced number (apply invoke scope number callee ref)
  | .trampoline name signature callee => plain (newTrampoline name signature callee)
  | .callDirect name argument => plain do
    let index ← trampolineIndex name
    let result ← runTrampoline invoke index [.wrapInteger .i32 argument]
    return .number (Scalar.ofWord .i32 result.toWord).number
where
  /-- The number of open frames. -/
  plainDepth (number : Nat) : Op Session Failure Nat :=
    (readContext number (·.depth)).mapError Failure.ofError

end Session

/-! ## All levels of nesting -/

mutual

/-- Run an instruction with this many levels of nesting left. -/
def exec : Nat → Exec
  | 0, _, _ => Op.fatal "calls nested too deeply"
  | level + 1, scope, i => Session.instruction (exec level) (invoke level) scope i

/-- Run a callee with this many levels of nesting left. -/
def invoke : Nat → Invoke
  | 0, _, _, _ => Op.fatal "calls nested too deeply"
  | level + 1, number, callee, f => Session.call (exec level) (invoke level) number callee f

end

/-- How deeply calls and blocks may nest. -/
def nestingLimit : Nat := 100000

/-! ## Whole scripts -/

/-- What a script left behind: its steps, what stopped it, and the events. -/
structure Transcript where
  steps : List Step
  stopped : Option Stop
  events : List Event

/-- Record what stopped the engine, if it is recorded at all. -/
def noteStop (stop : Stop) (e : Engine) : Engine :=
  match stop with
  | .recorded message => e.note (.fatal message)
  | .panic _ | .fault => e

/-- Run the instructions of a script until it ends or something stops it. -/
def runAll (s : Session) : List Instruction → Transcript
  | [] => { steps := [], stopped := none, events := s.engine.events }
  | i :: rest =>
    match exec nestingLimit {} i s with
    | .done answer s => continueWith answer s i rest
    | .failed failure s => continueWith failure.answer s i rest
    | .fatal stop s =>
      { steps := [], stopped := some stop, events := (noteStop stop s.engine).events }
where
  /-- The step of an instruction that has ended, and what follows it. -/
  continueWith (answer : Answer) (s : Session) (i : Instruction) (rest : List Instruction) :
      Transcript :=
    let transcript := runAll s rest
    let status := (s.engine.context? (Scope.number {} i)).map ContextStatus.ofContext
    { transcript with steps := .mk answer status :: transcript.steps }

/-- A script with the settings of the engine it drives. -/
structure Program where
  machine : Machine
  settings : Settings := {}
  files : FileSystem := {}
  heapLimit : Option UInt64 := none
  /-- Whether events are kept. -/
  recording : Bool := true
  functions : List Function := []
  /-- Where the addresses of code start. -/
  codeOrigin : Nat := Code.originAt 0
  /-- Whether a context is created first. -/
  createsContext : Bool := true
  instructions : List Instruction

/-- Start an engine and run a script on it. -/
def Program.run (p : Program) : Except EngineError Transcript := do
  let engine ← Engine.start p.machine p.settings p.files { limit := p.heapLimit } p.recording
  let first := if p.createsContext then [.mk none false (.onEngine .newContext)] else []
  let engine := { engine with codeOrigin := p.codeOrigin }
  return runAll { engine, functions := p.functions } (first ++ p.instructions)

end Script

end CallEngine
