import CallEngine.Foreign.Type

/-!
# Argument passing by target

Which registers a target offers for arguments, how its stack slots are sized, and where each
argument of a call travels.
-/

namespace CallEngine

/-- The argument-passing rules of one target. -/
structure Abi where
  name : String
  intRegisters : Nat
  floatRegisters : Nat
  /-- Integer and float arguments use up one common sequence of positions. -/
  sharedSequence : Bool
  /-- The least size of an argument on the stack. -/
  slotSize : Nat
  stackAlign : Nat
  /-- Variadic arguments always travel on the stack. -/
  variadicOnStack : Bool
  /-- There is a convention by which the callee cleans up. -/
  stdcall : Bool
deriving Repr, DecidableEq

namespace Abi

def systemV : Abi where
  name := "x86-64 System V"
  intRegisters := 6
  floatRegisters := 8
  sharedSequence := false
  slotSize := 8
  stackAlign := 16
  variadicOnStack := false
  stdcall := false

def win64 : Abi where
  name := "Win64"
  intRegisters := 4
  floatRegisters := 4
  sharedSequence := true
  slotSize := 8
  stackAlign := 16
  variadicOnStack := false
  stdcall := false

def aapcs64 : Abi where
  name := "AArch64 AAPCS"
  intRegisters := 8
  floatRegisters := 8
  sharedSequence := false
  slotSize := 8
  stackAlign := 16
  variadicOnStack := false
  stdcall := false

def appleArm64 : Abi where
  name := "Apple arm64"
  intRegisters := 8
  floatRegisters := 8
  sharedSequence := false
  slotSize := 8
  stackAlign := 16
  variadicOnStack := true
  stdcall := false

def i386 : Abi where
  name := "i386 cdecl"
  intRegisters := 0
  floatRegisters := 0
  sharedSequence := false
  slotSize := 4
  stackAlign := 16
  variadicOnStack := true
  stdcall := true

/-- Everything on the stack, in slots of the size of an address. -/
def generic : Abi where
  name := "generic"
  intRegisters := 0
  floatRegisters := 0
  sharedSequence := false
  slotSize := 8
  stackAlign := 16
  variadicOnStack := true
  stdcall := false

/-- The target the engine runs on. -/
def host : Abi := systemV

/-- Every table. -/
def all : List Abi := [systemV, win64, aapcs64, appleArm64, i386, generic]

end Abi

/-- The least multiple of `align` that is not below `offset`. -/
def alignUp (offset align : Nat) : Nat := (offset + align - 1) / align * align

/-- The register class of an argument. -/
inductive ArgClass where
  | integer
  | float
deriving Repr, DecidableEq

def ArgClass.of (ty : ForeignType) : ArgClass := if ty.isFloat then .float else .integer

/-- Where an argument travels. -/
inductive Location where
  | intRegister (index : Nat)
  | floatRegister (index : Nat)
  /-- A byte offset into the outgoing stack area. -/
  | stack (offset : Nat)
deriving Repr, DecidableEq

/-- The register of a class at an index. -/
def Location.register : ArgClass → Nat → Location
  | .integer, index => .intRegister index
  | .float, index => .floatRegister index

/-- How far the registers and the stack of a target are used up. -/
structure RegisterCursor where
  abi : Abi
  intUsed : Nat := 0
  floatUsed : Nat := 0
  stackOffset : Nat := 0
deriving Repr, DecidableEq

namespace RegisterCursor

/-- Forget all arguments. -/
def reset (c : RegisterCursor) : RegisterCursor := { abi := c.abi }

/-- The next register for a class, and the cursor after taking it. -/
def takeRegister? (c : RegisterCursor) (cls : ArgClass) : Option (Location × RegisterCursor) :=
  if c.abi.sharedSequence then
    if c.intUsed < c.abi.intRegisters then
      some (.register cls c.intUsed,
        { c with intUsed := c.intUsed + 1, floatUsed := c.floatUsed + 1 })
    else none
  else
    match cls with
    | .integer =>
      if c.intUsed < c.abi.intRegisters then
        some (.intRegister c.intUsed, { c with intUsed := c.intUsed + 1 })
      else none
    | .float =>
      if c.floatUsed < c.abi.floatRegisters then
        some (.floatRegister c.floatUsed, { c with floatUsed := c.floatUsed + 1 })
      else none

/-- The next place on the stack for a type, and the cursor after taking it. -/
def takeStack (c : RegisterCursor) (ty : ForeignType) : Location × RegisterCursor :=
  let offset := alignUp c.stackOffset (max ty.align c.abi.slotSize)
  (.stack offset, { c with stackOffset := offset + alignUp (max ty.size 1) c.abi.slotSize })

/-- Place the next argument. -/
def assign (c : RegisterCursor) (ty : ForeignType) (variadic : Bool) :
    Location × RegisterCursor :=
  if variadic && c.abi.variadicOnStack then c.takeStack ty
  else (c.takeRegister? (.of ty)).getD (c.takeStack ty)

/-- The outgoing stack area used so far, rounded to the stack alignment. -/
def stackSize (c : RegisterCursor) : Nat := alignUp c.stackOffset c.abi.stackAlign

end RegisterCursor

end CallEngine
