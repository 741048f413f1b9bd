import CallEngine.Binary.Power
import CallEngine.Region
import CallEngine.Value

/-!
# The operand stack

A block of slots with a logical end that lies some guard slots short of its real end. Growth is
checked against the logical end. Crossing it opens the safety area behind it, so that recovery
still finds room, and the area closes again once usage is back below the logical end.

The slots are in memory of their own. No access to them is checked against the end of that memory.
-/

namespace CallEngine

/-- A reservation that was refused. -/
inductive StackExhausted where
  /-- It crossed the logical end, and the safety area is now open. -/
  | overflow (requested available : Nat)
  /-- It crossed the real end while the safety area was open. -/
  | exhausted (requested available : Nat)
deriving Repr, DecidableEq

/-- The slots in use, how far they may grow, and the memory they are in. -/
structure OperandStack where
  capacity : Nat
  guardSlots : Nat
  region : Region
  slots : Array Value := #[]
  safetyOpen : Bool := false
  peak : Nat := 0
  reservations : Nat := 0
  releases : Nat := 0
deriving Repr

namespace OperandStack

variable {σ : Type}

/-- A stack of `slots` slots of which the last `guardSlots` are behind the logical end. -/
def create (machine : Machine) (slots guardSlots : Nat) (guarded : Bool) :
    Op σ IoError OperandStack := do
  if slots ≤ guardSlots then Op.fail .invalidInput
  else if twoPow 64 ≤ slots * Region.slotBytes then Op.fail .outOfMemory
  else
    let region ← Region.create machine (Region.ofSlots slots) guarded
    return { capacity := slots, guardSlots, region }

/-- The number of slots in use. -/
def top (s : OperandStack) : Nat := s.slots.size

/-- Where ordinary growth ends. -/
def logicalEnd (s : OperandStack) : Nat := s.capacity - s.guardSlots

/-- Where growth ends now. -/
def limit (s : OperandStack) : Nat := if s.safetyOpen then s.capacity else s.logicalEnd

/-- How many slots are left. -/
def available (s : OperandStack) : Nat := s.limit - s.top

/-- Whether the first `n` slots are in memory that can be accessed. -/
def Holds (s : OperandStack) (n : Nat) : Prop := n * Region.slotBytes ≤ s.region.accessible

instance (s : OperandStack) (n : Nat) : Decidable (s.Holds n) := inferInstanceAs (Decidable (_ ≤ _))

/-- Reserve `n` slots on top, and write nil to each of them, the lowest first; the result is the
offset of the first. -/
def reserve (n : Nat) : Op OperandStack StackExhausted Nat := do
  let s ← Op.get
  if n ≤ s.available then
    if s.Holds (s.top + n) then
      Op.modify fun s =>
        { s with
          slots := s.slots ++ Array.replicate n .nil
          peak := max s.peak (s.top + n)
          reservations := s.reservations + 1 }
      return s.top
    else Op.stop .fault
  else if s.safetyOpen then Op.fail (.exhausted n s.available)
  else
    Op.modify fun s => { s with safetyOpen := true }
    Op.fail (.overflow n s.available)

/-- Whether the safety area is open and no longer needed. -/
def canSettle (s : OperandStack) : Bool := s.safetyOpen && s.top < s.logicalEnd

/-- Close the safety area if usage is back below the logical end, and say whether it was closed. -/
def settle (s : OperandStack) : Bool × OperandStack :=
  if s.canSettle then (true, { s with safetyOpen := false }) else (false, s)

/-- Give up the slots from `offset` on. -/
def truncate (s : OperandStack) (offset : Nat) : OperandStack :=
  if offset < s.top then
    { s with slots := s.slots.take offset, releases := s.releases + 1 }
  else s

/-- Give up the slots from `offset` on, and say whether that closed the safety area. -/
def releaseTo (s : OperandStack) (offset : Nat) : Bool × OperandStack := (s.truncate offset).settle

/-- The value of a slot in use. -/
def get? (s : OperandStack) (index : Nat) : Option Value := s.slots[index]?

/-- Write a slot in use; false if it is not in use. -/
def set (s : OperandStack) (index : Nat) (value : Value) : Bool × OperandStack :=
  (index < s.top, { s with slots := s.slots.setIfInBounds index value })

end OperandStack

end CallEngine
