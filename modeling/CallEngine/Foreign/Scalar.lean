import CallEngine.Binary.Format
import CallEngine.Binary.Octets
import CallEngine.Binary.Power

/-!
# Native scalars

A scalar is a machine kind and as many bits as that kind has. Integers are read off the bits as
two's complement or unsigned numbers; floats stay bit patterns.
-/

namespace CallEngine

/-- The machine kind of a native scalar. -/
inductive ScalarKind where
  | i8
  | u8
  | i16
  | u16
  | i32
  | u32
  | i64
  | u64
  | f32
  | f64
  | pointer
  | void
deriving Repr, DecidableEq, Inhabited

namespace ScalarKind

def name : ScalarKind → String
  | i8 => "i8"
  | u8 => "u8"
  | i16 => "i16"
  | u16 => "u16"
  | i32 => "i32"
  | u32 => "u32"
  | i64 => "i64"
  | u64 => "u64"
  | f32 => "f32"
  | f64 => "f64"
  | pointer => "pointer"
  | void => "void"

/-- Every kind. -/
def all : List ScalarKind := [i8, u8, i16, u16, i32, u32, i64, u64, f32, f64, pointer, void]

/-- Size in bytes. -/
def size : ScalarKind → Nat
  | i8 | u8 => 1
  | i16 | u16 => 2
  | i32 | u32 | f32 => 4
  | i64 | u64 | f64 | pointer => 8
  | void => 0

/-- Alignment in bytes. -/
def align (k : ScalarKind) : Nat := max k.size 1

/-- Size in bits. -/
def width (k : ScalarKind) : Nat := 8 * k.size

/-- Whether the bits are a two's complement number. -/
def isSigned : ScalarKind → Bool
  | i8 | i16 | i32 | i64 => true
  | _ => false

/-- Whether the bits are a number at all; an address counts as an unsigned one. -/
def isIntegral : ScalarKind → Bool
  | f32 | f64 | void => false
  | _ => true

/-- The least and the greatest integer of an integral kind. -/
def range (k : ScalarKind) : Int × Int :=
  if k.isSigned then (-(twoPow (k.width - 1) : Int), (twoPow (k.width - 1) : Int) - 1)
  else (0, (twoPow k.width : Int) - 1)

end ScalarKind

/-- A native scalar. -/
structure Scalar where
  kind : ScalarKind
  bits : BitVec kind.width
deriving Repr, DecidableEq

namespace Scalar

/-- The scalar of kind `k` whose bits are the lowest bits of `n`. -/
def ofBits (k : ScalarKind) (n : Nat) : Scalar := ⟨k, .ofNat k.width n⟩

/-- Nothing. -/
def void : Scalar := ofBits .void 0

/-- An address. -/
def pointer (address : UInt64) : Scalar := ofBits .pointer address.toNat

/-- The bits as an unsigned number. -/
def raw (s : Scalar) : Nat := s.bits.toNat

/-- The integer `n` in kind `k`; `none` out of range and for kinds that are not integral. -/
def ofInteger? (k : ScalarKind) (n : Int) : Option Scalar :=
  if k.isIntegral && k.range.1 ≤ n && n ≤ k.range.2 then some ⟨k, .ofInt k.width n⟩ else none

/-- The integer `n` in kind `k`, modulo the width of the kind. -/
def wrapInteger (k : ScalarKind) (n : Int) : Scalar := ⟨k, .ofInt k.width n⟩

/-- The bits read as a two's complement or an unsigned number. -/
def number (s : Scalar) : Int := if s.kind.isSigned then s.bits.toInt else s.bits.toNat

/-- The integer a scalar denotes. -/
def asInteger (s : Scalar) : Option Int := if s.kind.isIntegral then some s.number else none

/-- Default argument promotion: small integers to `i32`, singles to doubles. -/
def promote (s : Scalar) : Scalar :=
  match s.kind with
  | .i8 | .u8 | .i16 | .u16 => wrapInteger .i32 s.number
  | .f32 => ofBits .f64 (Binary.single.convert Binary.double s.raw)
  | _ => s

/-- The image in memory, filled up with zeros to eight bytes. -/
def toBytes (s : Scalar) : List UInt8 := Binary.octets 8 s.raw

/-- Read the image of a scalar of kind `k` from the front of `bytes`. -/
def ofBytes? (k : ScalarKind) (bytes : List UInt8) : Option Scalar :=
  if k.size ≤ bytes.length then some (ofBits k (Binary.ofOctets (bytes.take k.size))) else none

/-- The register word of a scalar: signed integers are sign-extended, all else is zero-extended. -/
def toWord (s : Scalar) : UInt64 :=
  .ofBitVec (if s.kind.isSigned then s.bits.signExtend 64 else s.bits.setWidth 64)

/-- The scalar of kind `k` in the low bits of a register word. -/
def ofWord (k : ScalarKind) (word : UInt64) : Scalar := ofBits k word.toNat

end Scalar

end CallEngine
