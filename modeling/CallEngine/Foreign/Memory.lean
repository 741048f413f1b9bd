import CallEngine.Binary.Octets
import CallEngine.Binary.Power

/-!
# Native strings

The part of native memory that the engine shares with native code: strings, each followed by a
zero byte, laid out one after the other. A string stays where it was placed.
-/

namespace CallEngine

/-- A string in native memory. -/
structure NativeString where
  address : Nat
  bytes : List UInt8
deriving Repr, DecidableEq

/-- The strings placed so far, the last one first. -/
structure Memory where
  strings : List NativeString := []
deriving Repr

namespace Memory

/-- Where the first string is placed. -/
def base : Nat := twoPow 44

/-- The first address behind all strings. -/
def nextAddress (m : Memory) : Nat :=
  match m.strings with
  | [] => base
  | s :: _ => s.address + s.bytes.length + 1

/-- Place a string. -/
def place (m : Memory) (bytes : List UInt8) : UInt64 × Memory :=
  (.ofNat m.nextAddress, ⟨⟨m.nextAddress, bytes⟩ :: m.strings⟩)

/-- The bytes from an address up to the next zero byte; none outside of all strings. -/
def read (m : Memory) (address : UInt64) : List UInt8 :=
  let a := address.toNat
  match m.strings.find? fun s => s.address ≤ a && a ≤ s.address + s.bytes.length with
  | some s => (s.bytes.drop (a - s.address)).takeWhile (· != 0)
  | none => []

end Memory

end CallEngine
