import CallEngine.Frame
import CallEngine.Region
import CallEngine.Value

/-!
# Reported values

A buffer of fixed capacity through which a callee reports any number of values. It also holds the
arguments of small frames, so each write that may overwrite such arguments starts a new epoch.
-/

namespace CallEngine

/-- The buffer, the number of reported values at its front, and its epoch. -/
structure ValueChannel where
  slots : Array Value
  count : Nat := 0
  epoch : Nat := 0
deriving Repr

namespace ValueChannel

/-- A channel for up to `limit` values, and at least one. -/
def blank (limit : Nat) : ValueChannel := { slots := Array.replicate (max limit 1) .nil }

/-- Create a channel. The memory of all its slots is asked for at once. -/
def create {σ ε : Type} (limit : Nat) : Op σ ε ValueChannel :=
  if Machine.allocationLimit < max limit 1 * Region.slotBytes then Op.panic .capacity
  else return blank limit

def capacity (c : ValueChannel) : Nat := c.slots.size

/-- Write values to consecutive slots from `index` on. -/
def writeFrom (slots : Array Value) (index : Nat) : List Value → Array Value
  | [] => slots
  | v :: rest => writeFrom (slots.setIfInBounds index v) (index + 1) rest

/-- Report `values`. -/
def set (c : ValueChannel) (values : List Value) : Except FrameError ValueChannel :=
  if values.length ≤ c.capacity then
    .ok { slots := writeFrom c.slots 0 values, count := values.length, epoch := c.epoch + 1 }
  else .error (.tooManyValues values.length c.capacity)

/-- Report one value. -/
def setSingle (c : ValueChannel) (value : Value) : ValueChannel :=
  { slots := c.slots.setIfInBounds 0 value, count := 1, epoch := c.epoch + 1 }

/-- Report no value. -/
def clear (c : ValueChannel) : ValueChannel := { c with count := 0, epoch := c.epoch + 1 }

/-- The content of a slot of the buffer. -/
def slot (c : ValueChannel) (index : Nat) : Value := c.slots[index]?.getD .nil

/-- Overwrite a slot of the buffer within the current epoch. -/
def setSlot (c : ValueChannel) (index : Nat) (value : Value) : ValueChannel :=
  { c with slots := c.slots.setIfInBounds index value }

/-- The first reported value, nil if there is none. -/
def primary (c : ValueChannel) : Value := if c.count = 0 then .nil else c.slot 0

/-- A reported value; past the last one there is none. -/
def get (c : ValueChannel) (index : Nat) : Value :=
  if index < c.count then c.slot index else .noValue

/-- All reported values. -/
def toList (c : ValueChannel) : List Value := (c.slots.take c.count).toList

/-- Claim the first `argc` slots for the arguments of a new frame. -/
def beginFrame (c : ValueChannel) (argc : Nat) : ValueChannel :=
  { slots := writeFrom c.slots 0 (List.replicate argc .nil), count := 0, epoch := c.epoch + 1 }

end ValueChannel

end CallEngine
