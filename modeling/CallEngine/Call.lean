import CallEngine.Context
import CallEngine.Error

/-!
# The call protocol

Every call takes the same way, whatever is called: pending interrupts are delivered, a frame is
opened and filled, the callee runs on it, the frame is closed whether or not the callee succeeded,
and pending interrupts are delivered again.

A callee is an operation on some state that contains the context of the call. It reads its
arguments through its frame, reports its values on the context and says how many it reported.
-/

namespace CallEngine

/-- A way to run operations of one context inside a larger state. -/
structure Within (σ : Type) where
  run : {α : Type} → ContextOp EngineError α → Op σ EngineError α

namespace Within

/-- A context by itself. -/
def itself : Within Context := ⟨id⟩

variable {σ : Type}

/-- Run a frame operation. -/
def frame {α : Type} (w : Within σ) (op : ContextOp FrameError α) : Op σ EngineError α :=
  w.run (op.mapError .frame)

/-- Deliver what is pending. -/
def safePoint (w : Within σ) : Op σ EngineError Unit :=
  w.run (Context.safePoint.mapError .condition)

/-- Run an operation with interrupts disabled on the context, however it ends. -/
def withoutInterrupts {α : Type} (w : Within σ) (op : Op σ EngineError α) :
    Op σ EngineError α := do
  w.run (Op.modify Context.disableInterrupts)
  op.thenAlways (w.run (Op.modify Context.enableInterrupts))

/-- Run a callee on a frame that is open and filled; the result is the number of its values. -/
def apply (w : Within σ) (callee : Frame → Op σ EngineError Nat) (f : Frame) :
    Op σ EngineError Nat := do
  let count ← (do w.frame (Context.activate f); callee f : Op σ EngineError Nat).thenAlways
    (w.run (Context.closeFrame f))
  w.safePoint
  return count

/-- Call a callee with arguments. -/
def funcall (w : Within σ) (callee : Frame → Op σ EngineError Nat) (args : List Value) :
    Op σ EngineError Nat := do
  w.safePoint
  let f ← w.frame (Context.openFrameWith args)
  w.apply callee f

end Within

end CallEngine
