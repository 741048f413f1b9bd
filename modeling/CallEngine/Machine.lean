import CallEngine.Binary.Power
import CallEngine.Outcome

/-!
# Machines

What a program gets from the machine it runs on, as far as it asks for memory, and what becomes of
its sums. No rule is made here for which requests are granted.
-/

namespace CallEngine

/-- Why the operating system refused a request. -/
inductive IoError where
  | invalidInput
  | invalidData
  | outOfMemory
  | isADirectory
  | notADirectory
  | invalidFilename
deriving Repr, DecidableEq

/-- The usual name of the reason. -/
def IoError.name : IoError → String
  | invalidInput => "InvalidInput"
  | invalidData => "InvalidData"
  | outOfMemory => "OutOfMemory"
  | isADirectory => "IsADirectory"
  | notADirectory => "NotADirectory"
  | invalidFilename => "InvalidFilename"

/-- A machine, with the way in which a program was built for it. -/
structure Machine where
  /-- Sums out of the range of their type stop the program. In other programs they wrap. -/
  checked : Bool
  /-- The answer to a request for a new mapping of so many bytes with one page of it protected. -/
  map : UInt64 → Except IoError Unit
  /-- Whether there is room for so many bytes, all zero. -/
  allocates : UInt64 → Bool

namespace Machine

variable {σ ε : Type}

/-- The most bytes that one allocation may have. -/
def allocationLimit : Nat := twoPow 63 - 1

/-- Add two words. -/
def add (machine : Machine) (a b : UInt64) : Op σ ε UInt64 :=
  if machine.checked && twoPow 64 ≤ a.toNat + b.toNat then Op.panic .arithmetic
  else return a + b

end Machine

end CallEngine
