import CallEngine.Binary.Octets
import CallEngine.Binary.Power
import CallEngine.Heap

/-!
# Bignums

Integers beyond the fixnum range, as a sign and a magnitude in 64-bit limbs, the lowest limb
first and without leading zero limbs; zero is never negative. In the heap a bignum is one sign
byte followed by its limbs.
-/

namespace CallEngine

/-- Sign and magnitude. -/
structure Bignum where
  negative : Bool
  limbs : List UInt64
deriving Repr, DecidableEq

namespace Bignum

/-- The number that limbs denote, the lowest limb first. -/
def magnitude : List UInt64 → Nat
  | [] => 0
  | limb :: rest => limb.toNat + twoPow 64 * magnitude rest

/-- The integer a bignum denotes. -/
def toInt (b : Bignum) : Int := if b.negative then -magnitude b.limbs else magnitude b.limbs

/-- Drop the zero limbs at the high end. -/
def trimLimbs (limbs : List UInt64) : List UInt64 := (limbs.reverse.dropWhile (· == 0)).reverse

/-- Bring a sign and limbs into normal form. -/
def ofParts (negative : Bool) (limbs : List UInt64) : Bignum :=
  let limbs := trimLimbs limbs
  ⟨negative && !limbs.isEmpty, limbs⟩

/-- The limbs of a number. -/
def limbsOf : Nat → List UInt64
  | 0 => []
  | n + 1 => .ofNat ((n + 1) % twoPow 64) :: limbsOf ((n + 1) / twoPow 64)
decreasing_by exact Nat.div_lt_self (Nat.succ_pos _) (by decide)

/-- The bignum of an integer. -/
def ofInt (n : Int) : Bignum := ⟨n < 0, limbsOf n.natAbs⟩

/-- Lay limbs over a word of 128 bits, each 64 bits above the one before it, from place `i` on. -/
def assemble (word : BitVec 128) (i : Nat) : List UInt64 → BitVec 128
  | [] => word
  | limb :: rest => assemble (word ||| BitVec.ofNat 128 limb.toNat <<< (64 * i)) (i + 1) rest

/-- The integer, if it fits 128 bits with a sign. The least one has a magnitude that is itself out
of range. -/
def toWide? (b : Bignum) : Option Int :=
  if 2 < b.limbs.length then none
  else
    let magnitude := (assemble 0 0 b.limbs).toNat
    if b.negative && magnitude == twoPow 127 then some (-(twoPow 127 : Int))
    else if magnitude < twoPow 127 then some (if b.negative then -magnitude else magnitude)
    else none

/-- The stored form. -/
def payload (b : Bignum) : List UInt8 :=
  (if b.negative then 1 else 0) :: b.limbs.flatMap fun limb => Binary.octets 8 limb.toNat

/-- Read limbs, each of eight bytes; `none` if some bytes are left over. -/
def limbsOfBytes? : List UInt8 → Option (List UInt64)
  | [] => some []
  | a :: b :: c :: d :: e :: f :: g :: h :: rest =>
    (limbsOfBytes? rest).map (.ofNat (Binary.ofOctets [a, b, c, d, e, f, g, h]) :: ·)
  | _ => none

/-- Read the stored form; any sign byte but zero means negative. -/
def ofPayload? : List UInt8 → Option Bignum
  | [] => none
  | sign :: body => (limbsOfBytes? body).map (ofParts (sign != 0))

/-- Put a bignum into the heap. -/
def store (b : Bignum) (heap : Heap) : Except HeapError (Handle × Heap) :=
  heap.store .bignum b.payload

/-- Read a bignum from the heap. -/
def load (heap : Heap) (handle : Handle) : Except HeapError Bignum := do
  let bytes ← heap.readAs .bignum handle
  match ofPayload? bytes with
  | some b => return b
  | none => throw (.malformed .bignum)

end Bignum

namespace Value

/-- The value of an integer: a fixnum if it fits, else a new bignum. -/
def ofInteger (n : Int) (heap : Heap) : Except HeapError (Value × Heap) :=
  match ofFixnum? n with
  | some v => .ok (v, heap)
  | none => ((Bignum.ofInt n).store heap).map fun (handle, heap) => (.object handle, heap)

/-- The integer a value denotes; `none` for what is no integer or needs more than 128 bits. -/
def asInteger (heap : Heap) : Value → Except HeapError (Option Int)
  | fixnum n => .ok (some n.toInt)
  | object handle => do
    if (← heap.tagOf handle) = .bignum then
      return (← Bignum.load heap handle).toWide?
    else return none
  | _ => .ok none

end Value

/-- What a heap object holds, as far as it can be read. -/
inductive Contents where
  | string (text : String)
  | bytes (payload : List UInt8)
  | bignum (number : Bignum)
deriving Repr, DecidableEq

/-- Read an object according to its tag. -/
def Heap.contents (heap : Heap) (handle : Handle) : Except HeapError Contents := do
  match ← heap.tagOf handle with
  | .string => return .string (← heap.string handle)
  | .bytes => return .bytes (← heap.read handle)
  | .bignum => return .bignum (← Bignum.load heap handle)

end CallEngine
