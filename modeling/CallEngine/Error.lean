import CallEngine.Foreign.Error
import CallEngine.Foreign.Library
import CallEngine.Lock
import CallEngine.Settings

/-!
# Errors of the engine

Every part reports its failures by errors of its own. Here they are brought together with the
ones that only the engine as a whole can report.
-/

namespace CallEngine

/-- A failure that the caller of an engine operation may handle. -/
inductive EngineError where
  | frame (error : FrameError)
  /-- Before control passed to native code. -/
  | foreign (error : ForeignError)
  /-- After control came back from native code, or in a callback. -/
  | marshal (error : MarshalError)
  | load (error : LoadError)
  | lock (error : LockError)
  | heap (error : HeapError)
  | condition (taken : Condition)
  | settings (error : SettingsError)
  | os (error : IoError)
  | wrongType (expected got : String)
  | arity (name expected : String) (got : Nat)
  /-- Signalled by hosted code. -/
  | signalled (message : String)
  | shutDown
  | contextsActive (count : Nat)
  /-- A document is not of the form it should have. -/
  | unreadable
deriving Repr, DecidableEq

/-- The name of the kind of error, which the kind of a part's error extends. -/
def EngineError.kind : EngineError → String
  | frame error => "Frame::" ++ error.kind
  | foreign error => "Ffi::" ++ error.kind
  | marshal error => "Marshal::" ++ error.kind
  | load error => "Load::" ++ error.kind
  | lock error => "Lock::" ++ error.kind
  | heap error => "Heap::" ++ error.kind
  | condition taken => "Condition::" ++ taken.kind
  | settings error => "Config::" ++ error.kind
  | os _ => "Os"
  | wrongType _ _ => "TypeError"
  | arity _ _ _ => "Arity"
  | signalled _ => "Signalled"
  | shutDown => "ShutDown"
  | contextsActive _ => "ContextsActive"
  | unreadable => "Json"

def EngineError.message : EngineError → String
  | frame error => error.message
  | foreign error => error.message
  | marshal error => error.message
  | load error => error.message
  | lock error => error.message
  | heap error => error.message
  | condition taken => taken.message
  | settings error => error.message
  | os error => s!"Operating system error: {error.name}"
  | wrongType expected got => s!"Type error: expected {expected}, got {got}"
  | arity name expected got => s!"{name}: expected {expected} arguments, got {got}"
  | signalled message => message
  | shutDown => "Runtime has been shut down"
  | contextsActive count => s!"Cannot shut down: {count} execution contexts still alive"
  | unreadable => "Document cannot be read"

end CallEngine
