import CallEngine.Machine

/-!
# Memory regions

The memory of a region of slots. A protected region is rounded up to whole pages and followed by one
page that cannot be accessed. The sums are those of 64-bit words, and are checked or wrap as in all
of the program.
-/

namespace CallEngine

/-- Memory that was granted. -/
structure Region where
  /-- How many bytes can be accessed, from the start of the region on. -/
  accessible : Nat
  /-- Whether a protected page comes next. -/
  guarded : Bool
deriving Repr, DecidableEq

namespace Region

variable {σ : Type}

/-- Bytes of a page. -/
def page : UInt64 := 4096

/-- Bytes of a slot that holds a value. -/
def slotBytes : Nat := 16

/-- The length of so many slots, if a word can say it. -/
def ofSlots (slots : Nat) : UInt64 := .ofNat (slots * slotBytes)

/-- What the address of an allocation is a multiple of. -/
def alignment : Nat := 16

/-- Bytes up to the page that cannot be accessed, at least one page. -/
def bodyLength (length : UInt64) : UInt64 := max ((length + page - 1) / page) 1 * page

/-- Bytes of the whole mapping. -/
def mapLength (length : UInt64) : UInt64 := bodyLength length + page

/-- Map `length` bytes, rounded up to whole pages, and a protected page. -/
def mapped (machine : Machine) (length : UInt64) : Op σ IoError Region := do
  let _ ← machine.add length page
  let whole ← machine.add (bodyLength length) page
  Op.ofExcept (machine.map whole)
  return { accessible := min (bodyLength length).toNat whole.toNat, guarded := true }

/-- Allocate `length` bytes, at least one. The limit of an allocation is for the length rounded up to
the alignment. -/
def allocated (machine : Machine) (length : UInt64) : Op σ IoError Region := do
  if Machine.allocationLimit < length.toNat + (alignment - 1) then Op.fail .invalidInput
  else if machine.allocates (max length 1) then
    return { accessible := (max length 1).toNat, guarded := false }
  else Op.fail .outOfMemory

/-- Take `length` bytes of memory. -/
def create (machine : Machine) (length : UInt64) (guarded : Bool) : Op σ IoError Region :=
  if guarded then mapped machine length else allocated machine length

end Region

end CallEngine
