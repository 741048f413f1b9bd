/-!
# Call frames

A frame is a small copyable name for one call: its position in the chain of open frames and a
serial number that no other frame of the context ever has. A frame that was closed is thus told
apart from a later one at the same position.

Frames with few arguments keep them in the buffer of reported values, larger ones on the operand
stack.
-/

namespace CallEngine

/-- Where the arguments of a frame are. -/
inductive FrameBase where
  /-- In the buffer of reported values, from its first slot on. -/
  | values
  /-- On the operand stack, from `offset` on. -/
  | stack (offset : Nat)
deriving Repr, DecidableEq

inductive FrameState where
  | opened
  | active
  | closed
deriving Repr, DecidableEq

def FrameState.name : FrameState → String
  | opened => "open"
  | active => "active"
  | closed => "closed"

/-- The name of one call. -/
structure Frame where
  index : Nat
  serial : Nat
  argc : Nat
  base : FrameBase
  /-- The epoch of the buffer when the frame was opened. -/
  epoch : Nat
deriving Repr, DecidableEq

def Frame.isBufferBacked (f : Frame) : Bool := f.base == .values

/-- What a context keeps of an open frame. -/
structure FrameRecord where
  serial : Nat
  state : FrameState
  /-- The top of the operand stack before the frame was opened. -/
  stackMark : Nat
deriving Repr, DecidableEq

/-- Why a frame operation was refused. -/
inductive FrameError where
  | tooManyArguments (argc limit : Nat)
  | stale (serial : Nat)
  | closed (serial : Nat)
  | argumentIndex (index argc : Nat)
  | tooManyValues (count limit : Nat)
  | stackOverflow (requested available : Nat)
deriving Repr, DecidableEq

/-- The name of the kind of error. -/
def FrameError.kind : FrameError → String
  | tooManyArguments _ _ => "TooManyArguments"
  | stale _ => "Stale"
  | closed _ => "Closed"
  | argumentIndex _ _ => "ArgumentIndex"
  | tooManyValues _ _ => "TooManyValues"
  | stackOverflow _ _ => "StackOverflow"

def FrameError.message : FrameError → String
  | tooManyArguments argc limit => s!"Call with {argc} arguments exceeds the limit of {limit}"
  | stale serial => s!"Arguments of frame {serial} were overwritten by a later call"
  | closed serial => s!"Frame {serial} is closed"
  | argumentIndex index argc => s!"Argument index {index} out of range for {argc} arguments"
  | tooManyValues count limit => s!"Cannot return {count} values; the limit is {limit}"
  | stackOverflow requested available =>
    s!"Operand stack overflow: requested {requested} slots, {available} available"

end CallEngine
