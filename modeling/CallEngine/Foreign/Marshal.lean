import CallEngine.Bignum
import CallEngine.Foreign.Error
import CallEngine.Foreign.Memory

/-!
# Marshaling

Hosted values become native scalars by the declared type of a parameter, and native scalars
become hosted values by the declared type of a result. Integers are checked against the range of
the type; strings are copied to native memory with a terminator.
-/

namespace CallEngine

/-- What has to be passed for a value: a scalar, or the address of a copy of some text. -/
inductive Passed where
  | scalar (s : Scalar)
  | copy (bytes : List UInt8)
deriving Repr, DecidableEq

namespace Marshal

/-- The integer of a value that is to be passed as `ty`. -/
def integerOf (heap : Heap) (ty : ForeignType) (value : Value) : Except MarshalError Int :=
  match value with
  | .fixnum n => .ok n.toInt
  | .object handle => do
    if (← (heap.tagOf handle).mapError .heap) = .bignum then
      match (← (Bignum.load heap handle).mapError .heap).toWide? with
      | some n => return n
      | none => throw (.outOfRange none ty)
    else throw (.typeMismatch ty "integer" value.typeName)
  | _ => .error (.typeMismatch ty "integer" value.typeName)

/-- The text of a value that is to be passed as `:cstring`. -/
def stringOf (heap : Heap) (handle : Handle) : Except MarshalError (List UInt8) := do
  let text ←
    match heap.string handle with
    | .ok text => pure text
    | .error (.wrongTag _ _) =>
      throw (.typeMismatch .cstring "string or nil" (Value.object handle).typeName)
    | .error e => throw (.heap e)
  let bytes := Text.utf8 text
  match bytes.findIdx? (· == 0) with
  | some position => throw (.interiorNul position)
  | none => return bytes

/-- What has to be passed for `value` as `ty`. -/
def passed (heap : Heap) (ty : ForeignType) (value : Value) : Except MarshalError Passed :=
  let mismatch := fun (expected : String) =>
    (.error (.typeMismatch ty expected value.typeName) : Except MarshalError Passed)
  if ty.isInteger then do
    let n ← integerOf heap ty value
    match Scalar.ofInteger? ty.kind n with
    | some s => return .scalar s
    | none => throw (.outOfRange (some n) ty)
  else
    match ty, value with
    | .char, .character c | .unsignedChar, .character c =>
      if c.toNat < 256 then .ok (.scalar (.ofBits ty.kind c.toNat))
      else .error (.characterOutOfRange c)
    | .char, _ | .unsignedChar, _ => mismatch "character"
    | .float, value =>
      match value.asReal with
      | some bits => .ok (.scalar (.ofBits .f32 (Binary.narrow bits).toNat))
      | none => mismatch "real"
    | .double, value =>
      match value.asReal with
      | some bits => .ok (.scalar (.ofBits .f64 bits.toNat))
      | none => mismatch "real"
    | .pointerVoid, .pointer address => .ok (.scalar (.pointer address))
    | .pointerVoid, .nil => .ok (.scalar (.pointer 0))
    | .pointerVoid, _ => mismatch "foreign pointer or nil"
    | .cstring, .nil => .ok (.scalar (.pointer 0))
    | .cstring, .object handle => (stringOf heap handle).map .copy
    | .cstring, _ => mismatch "string or nil"
    | .object, value =>
      match value.toWord with
      | some word => .ok (.scalar (.ofBits .u64 word.toNat))
      | none => mismatch "fixnum, character, nil or object"
    | _, _ => mismatch "no value"

/-- Put what has to be passed where native code finds it. -/
def place (memory : Memory) : Passed → Scalar × Memory
  | .scalar s => (s, memory)
  | .copy bytes => let (address, memory) := memory.place bytes; (.pointer address, memory)

/-- Marshal a hosted value for a parameter declared as `ty`. -/
def toForeign (heap : Heap) (memory : Memory) (ty : ForeignType) (value : Value) :
    Except MarshalError (Scalar × Memory) :=
  (passed heap ty value).map (place memory)

/-- Marshal a native result declared as `ty`; there is no value for `:void`. A scalar of another
kind than the declared one is reinterpreted by its register word, except for integer types, which
take any integer as it is and everything else for zero. -/
def toHosted (heap : Heap) (memory : Memory) (ty : ForeignType) (raw : Scalar) :
    Except MarshalError (Option Value × Heap) :=
  let bits := (if raw.kind = ty.kind then raw else .ofWord ty.kind raw.toWord).raw
  if ty.isInteger then do
    let (value, heap) ← (Value.ofInteger (raw.asInteger.getD 0) heap).mapError .heap
    return (some value, heap)
  else
    match ty with
    | .char | .unsignedChar => .ok (some (.character (Char.ofNat bits)), heap)
    | .float => .ok (some (.single (.ofNat bits)), heap)
    | .double => .ok (some (.double (.ofNat bits)), heap)
    | .pointerVoid => .ok (some (.pointer (.ofNat bits)), heap)
    | .cstring =>
      if bits = 0 then .ok (some .nil, heap)
      else
        match Text.ofUtf8? (memory.read (.ofNat bits)) with
        | none => .error .invalidString
        | some text => do
          let (handle, heap) ← (heap.makeString text).mapError .heap
          return (some (.object handle), heap)
    | .object =>
      match Value.ofWord? (.ofNat bits) with
      | some value => .ok (some value, heap)
      | none => .error (.invalidWord (.ofNat bits))
    | _ => .ok (none, heap)

end Marshal

/-- Marshaling with an account of the copies made since it was last cleared. -/
structure MarshalContext where
  memory : Memory := {}
  live : List NativeString := []

namespace MarshalContext

/-- Give up the copies of the previous call. -/
def clear (m : MarshalContext) : MarshalContext := { m with live := [] }

/-- Marshal a hosted value and keep account of a copy made for it. -/
def toForeign (m : MarshalContext) (heap : Heap) (ty : ForeignType) (value : Value) :
    Except MarshalError (Scalar × MarshalContext) := do
  match ← Marshal.passed heap ty value with
  | .scalar s => return (s, m)
  | .copy bytes =>
    let (address, memory) := m.memory.place bytes
    return (.pointer address, { memory, live := ⟨address.toNat, bytes⟩ :: m.live })

end MarshalContext

end CallEngine
