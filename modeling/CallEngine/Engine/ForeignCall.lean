import CallEngine.Engine
import CallEngine.Foreign.CallBuilder

/-!
# Foreign calls and callbacks

A foreign function is a callee: its arguments are marshaled, native code runs with interrupts
disabled on the calling context, and its result becomes the one reported value. Native code may
call back. A callback runs on the context of the innermost foreign call; its native arguments are
marshaled back, a hosted callee is called with them, and its primary value is what native code
gets. Errors cannot pass through native code, so a callback that fails gives back zero.
-/

namespace CallEngine

namespace Engine

/-- Marshal a native scalar declared as `ty`; there is no value for `:void`. -/
def toHosted (ty : ForeignType) (raw : Scalar) : EngineOp (Option Value) :=
  Op.transition fun e =>
    match Marshal.toHosted e.heap e.memory ty raw with
    | .ok (value, heap) => .ok (value, { e with heap })
    | .error error => .error (.marshal error)

/-- Marshal a hosted value as `ty`. -/
def toForeign (ty : ForeignType) (value : Value) : EngineOp Scalar :=
  Op.transition fun e =>
    match Marshal.toForeign e.heap e.memory ty value with
    | .ok (scalar, memory) => .ok (scalar, { e with memory })
    | .error error => .error (.marshal error)

/-- Build a call of this signature with arguments. The copies of strings are in native memory from
then on; if the call cannot be built, they are given up with it. -/
def buildCall (signature : Signature) (args : List Value) : EngineOp CallBuilder := fun e =>
  let build : BuilderOp Unit := do
    CallBuilder.prepare signature
    CallBuilder.pushArgs e.heap e.memory args
  match build (.create .host) with
  | .done _ b => .done b { e with memory := b.memoryIn e.memory }
  | .failed error _ => .failed (.foreign error) e
  | .fatal stop _ => .fatal stop e

end Engine

/-- A way to run operations of the engine inside a larger state. -/
structure Inside (σ : Type) where
  run : {α : Type} → EngineOp α → Op σ EngineError α

namespace Inside

/-- An engine by itself. -/
def itself : Inside Engine := ⟨id⟩

variable {σ : Type}

/-- The operations of one context. -/
def context (w : Inside σ) (number : Nat) : Within σ :=
  ⟨fun op => w.run (Engine.onContext number op)⟩

/-- Run an operation inside a foreign call on a context. -/
def entering {α : Type} (w : Inside σ) (number : Nat) (op : Op σ EngineError α) :
    Op σ EngineError α := do
  w.run (Op.modify fun e => { e with entered := number :: e.entered })
  op.thenAlways (w.run (Op.modify fun e => { e with entered := e.entered.drop 1 }))

end Inside

/-- A native function that hosted code can call. -/
structure ForeignFunction where
  name : String
  entry : EntryPoint
  signature : Signature
deriving Repr, DecidableEq

namespace ForeignFunction

variable {σ : Type}

/-- Report the result of a native call: one value, or none for `:void`. -/
def report (w : Inside σ) (number : Nat) (result : Option Value) : Op σ EngineError Nat :=
  match result with
  | some value => (w.context number).run (Context.setValue value)
  | none => (w.context number).run Context.clearValues

/-- Run a foreign function on a frame of a context. `callCode` runs the code at an address. -/
def invoke (w : Inside σ) (callCode : EntryPoint → List Scalar → Op σ EngineError Scalar)
    (number : Nat) (f : ForeignFunction) (frame : Frame) : Op σ EngineError Nat := do
  let expected := f.signature.params.length
  if frame.argc ≠ expected then Op.fail (.foreign (.arityMismatch expected frame.argc))
  let args ← (w.context number).frame (Op.read (·.args frame))
  let b ← w.run (Engine.buildCall f.signature args)
  w.run (Engine.record (.foreignCall f.name args.length))
  let (_, b) ← (w.context number).withoutInterrupts <| w.entering number <|
    (CallBuilder.execute .foreign f.signature.ret (callCode f.entry)).beside b
  let result ← w.run (Engine.toHosted b.returnType b.output)
  report w number result

end ForeignFunction

/-- What native code can call: the native signature, and how the callback is named in events. -/
structure Callback where
  signature : Signature
  label : String
deriving Repr, DecidableEq

namespace Callback

variable {σ : Type}

/-- The callback for a callee with a name. Variadic callbacks are refused. -/
def create (signature : Signature) (callee : String) : Except ForeignError Callback :=
  if signature.variadicFrom.isSome then .error (.unsupportedVariadic "callbacks")
  else .ok { signature, label := s!"{callee} {signature.text}" }

/-- Marshal native arguments, each read as the declared type from its register word. -/
def decode (w : Inside σ) : List ForeignType → List Scalar → Op σ EngineError (List Value)
  | [], _ => return []
  | ty :: types, args => do
    let word := (args.head?.map Scalar.toWord).getD 0
    let value ← w.run (Engine.toHosted ty (.ofWord ty.kind word))
    return value.getD .nil :: (← decode w types (args.drop 1))

/-- Run a callback on a context. -/
def perform (w : Inside σ) (callback : Callback) (callee : Frame → Op σ EngineError Nat)
    (number : Nat) (args : List Scalar) : Op σ EngineError Scalar := do
  let values ← decode w callback.signature.params args
  w.run (Engine.record (.callbackInvoked callback.label))
  let _ ← (w.context number).funcall callee values
  let ret := callback.signature.ret
  if ret = .void then return .void
  let primary ← (w.context number).run (Op.gets (·.values.primary))
  w.run (Engine.toForeign ret primary)

/-- Record a failed callback. Native code gets a zero of the declared kind. -/
def failed (w : Inside σ) (callback : Callback) (error : EngineError) :
    Op σ EngineError (Scalar × Option EngineError) := do
  w.run (Engine.record (.callbackFailed callback.label error.message))
  return (.ofBits callback.signature.ret.kind 0, some error)

/-- Run a callback on the context of the innermost foreign call. The result is what native code
gets, and the error if the callback failed. -/
def run (w : Inside σ) (callback : Callback) (callee : Nat → Frame → Op σ EngineError Nat)
    (args : List Scalar) : Op σ EngineError (Scalar × Option EngineError) := do
  match (← w.run (Op.gets (·.entered))).head? with
  | none => callback.failed w (.foreign .noContext)
  | some number =>
    match ← (callback.perform w (callee number) number args).attempt with
    | .ok result => return (result, none)
    | .error error => callback.failed w error

end Callback

end CallEngine
