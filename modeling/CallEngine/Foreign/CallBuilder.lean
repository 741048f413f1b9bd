import CallEngine.Binary.Power
import CallEngine.Foreign.Abi
import CallEngine.Foreign.Marshal
import CallEngine.Foreign.Signature

/-!
# Building foreign calls

The arguments of one native call are collected in a buffer of 256 bytes, each at its natural
alignment, and each is given its place by the rules of a target. The buffer is filled with zeros
when a call is prepared. After that a push writes the bytes of its argument and nothing else, and the
cursor may be moved forward without writing anything. All checks are made before control passes to
native code.
-/

namespace CallEngine

/-- The number of bytes of a call image. -/
def imageLimit : Nat := 256

/-- The bytes in which a call image is built. There are always as many of them. -/
structure CallBuffer where
  bytes : List UInt8
  length_bytes : bytes.length = imageLimit
deriving Repr, DecidableEq

namespace CallBuffer

/-- A buffer of zeros. -/
def zeros : CallBuffer := ⟨List.replicate imageLimit 0, List.length_replicate⟩

/-- Write bytes into a buffer that has room for them. -/
def write (buffer : CallBuffer) (offset : Nat) (data : List UInt8)
    (h : offset + data.length ≤ imageLimit) : CallBuffer where
  bytes := overlay buffer.bytes offset data
  length_bytes := by
    rw [length_overlay (buffer.length_bytes.symm ▸ h), buffer.length_bytes]

end CallBuffer

/-- One pushed argument. -/
structure ArgSlot where
  ty : ForeignType
  /-- Where the argument starts in the image. -/
  offset : Nat
  size : Nat
  location : Location
deriving Repr, DecidableEq

/-- A prepared call: its signature, and the parameter types as they are passed. -/
structure PreparedCall where
  signature : Signature
  params : List ForeignType
deriving Repr, DecidableEq

/-- A call under construction. -/
structure CallBuilder where
  registers : RegisterCursor
  buffer : CallBuffer := .zeros
  /-- Where the image ends in the buffer. -/
  cursor : Nat := 0
  slots : List ArgSlot := []
  prepared : Option PreparedCall := none
  output : Scalar := .void
  /-- The copies of strings that are kept for the call, the last one first. -/
  copies : List NativeString := []

/-- An operation on a builder. -/
abbrev BuilderOp (α : Type) := Op CallBuilder ForeignError α

namespace CallBuilder

/-- A builder for a target. -/
def create (abi : Abi) : CallBuilder := { registers := { abi } }

def abi (b : CallBuilder) : Abi := b.registers.abi

/-- The bytes accumulated so far. -/
def image (b : CallBuilder) : List UInt8 := b.buffer.bytes.take b.cursor

/-- Start a new call. Conventions and variadic arguments that the target cannot express are
refused. -/
def prepare (signature : Signature) : BuilderOp Unit := do
  let abi ← Op.gets abi
  if signature.convention = .stdcall && !abi.stdcall then
    Op.fail (.unsupportedConvention .stdcall abi.name)
  else if signature.variadicFrom.isSome && abi.variadicOnStack &&
      0 < abi.intRegisters + abi.floatRegisters then
    Op.fail (.unsupportedVariadic abi.name)
  else
    Op.modify fun b =>
      { registers := b.registers.reset
        buffer := .zeros
        cursor := 0
        slots := []
        prepared := some ⟨signature, signature.effectiveParams⟩
        output := .void
        copies := [] }

/-- The call, and the index and type of the next parameter. -/
def nextParam (b : CallBuilder) : Except ForeignError (PreparedCall × Nat × ForeignType) :=
  match b.prepared with
  | none => .error .notPrepared
  | some call =>
    let index := b.slots.length
    match call.params[index]? with
    | some ty => .ok (call, index, ty)
    | none => .error (.arityMismatch call.params.length (index + 1))

/-- Push the image of the next argument. -/
def pushBytes (data : List UInt8) : BuilderOp Unit := do
  let (call, index, ty) ← Op.read nextParam
  if hsize : data.length = ty.size then
    let offset := alignUp (← Op.gets cursor) ty.align
    if hend : offset + ty.size ≤ imageLimit then
      Op.modify fun b =>
        let (location, registers) := b.registers.assign ty (call.signature.isVariadic index)
        { b with
          buffer := b.buffer.write offset data (hsize.symm ▸ hend)
          cursor := offset + ty.size
          registers
          slots := b.slots ++ [{ ty, offset, size := ty.size, location }] }
    else Op.fail (.bufferOverflow (offset + ty.size) imageLimit)
  else Op.fail (.sizeMismatch index ty.size data.length)

/-- Push a 32-bit integer as the next argument. -/
def pushInt (n : Int32) : BuilderOp Unit := pushBytes (Binary.octets 4 n.toUInt32.toNat)

/-- Whether a number is a power of two. -/
def isPowerOfTwo (n : Nat) : Bool := n ≠ 0 && twoPow n.log2 == n

/-- Move the cursor to the next multiple of `n`. -/
def align (n : Nat) : BuilderOp Unit := do
  if !isPowerOfTwo n then Op.fail (.invalidAlignment n)
  else
    let aligned := alignUp (← Op.gets cursor) n
    if imageLimit < aligned then Op.fail (.bufferOverflow aligned imageLimit)
    else Op.modify fun b => { b with cursor := aligned }

/-- The scalar to pass for a value. A copy is placed at `address`, and kept for the call. -/
def keep (address : Nat) : Passed → BuilderOp Scalar
  | .scalar s => pure s
  | .copy bytes => do
    Op.modify fun b => { b with copies := ⟨address, bytes⟩ :: b.copies }
    return .pointer (.ofNat address)

/-- The bytes to push for a scalar of the declared type that is passed as `ty`. -/
def passedBytes (declared ty : ForeignType) (native : Scalar) : List UInt8 :=
  (if declared = ty then native else native.promote).toBytes.take ty.size

/-- Marshal a hosted value as the next argument. A variadic argument is marshaled by its declared
type and then promoted. A copy that was made is kept even if the argument is refused afterwards. -/
def pushArg (heap : Heap) (address : Nat) (value : Value) : BuilderOp Unit := do
  let (call, index, ty) ← Op.read nextParam
  match call.signature.params[index]? with
  | none => Op.panic .bounds
  | some declared =>
    let passed ← Op.ofExcept ((Marshal.passed heap declared value).mapError .marshal)
    let native ← keep address passed
    pushBytes (passedBytes declared ty native)

/-- Native memory with the copies that are kept for the call. -/
def memoryIn (b : CallBuilder) (memory : Memory) : Memory := ⟨b.copies ++ memory.strings⟩

/-- Push the values one after the other, with copies placed behind all strings in native memory. -/
def pushArgs (heap : Heap) (memory : Memory) : List Value → BuilderOp Unit
  | [] => pure ()
  | value :: rest => do
    pushArg heap (← Op.gets fun b => (b.memoryIn memory).nextAddress) value
    pushArgs heap memory rest

/-- Whether control may pass to native code that returns `returnType`. -/
def checkReady (b : CallBuilder) (returnType : ForeignType) : Except ForeignError Unit :=
  match b.prepared with
  | none => .error .notPrepared
  | some call =>
    if returnType ≠ call.signature.ret then
      .error (.returnTypeMismatch call.signature.ret returnType)
    else if b.slots.length ≠ call.params.length then
      .error (.arityMismatch call.params.length b.slots.length)
    else .ok ()

/-- The argument of a slot, read from the buffer. -/
def argument? (b : CallBuilder) (slot : ArgSlot) : Option Scalar :=
  Scalar.ofBytes? slot.ty.kind (b.buffer.bytes.drop slot.offset)

/-- All arguments, read from the buffer. -/
def arguments? (b : CallBuilder) : Option (List Scalar) := b.slots.mapM b.argument?

/-- The arguments as native code finds them, once everything is checked. The addresses of all of
them are taken first, and one that is not an address in the buffer stops the program. -/
def takeArguments (returnType : ForeignType) : BuilderOp (List Scalar) := do
  Op.read (·.checkReady returnType)
  let b ← Op.get
  if b.slots.any (imageLimit ≤ ·.offset) then Op.panic .bounds
  else
    match b.arguments? with
    | some args => return args
    | none => Op.stop .fault

/-- Keep the result of the call: what native code returned, as the declared kind. -/
def setOutput (returnType : ForeignType) (result : Scalar) (b : CallBuilder) : CallBuilder :=
  { b with output := .ofWord returnType.kind result.toWord }

/-- Pass control to native code once everything is checked, and keep what it returns. Native code
runs on a state of its own, beside the builder. -/
def execute {σ ε : Type} (refuse : ForeignError → ε) (returnType : ForeignType)
    (code : List Scalar → Op σ ε Scalar) : Op (CallBuilder × σ) ε Scalar := do
  let args ← ((takeArguments returnType).mapError refuse).first
  let result ← (code args).second
  (Op.modify (setOutput returnType result)).first
  (Op.gets output).first

/-- The result type of the prepared call. -/
def returnType (b : CallBuilder) : ForeignType :=
  (b.prepared.map (·.signature.ret)).getD .void

/-- The last result as a hosted value. -/
def resultValue (b : CallBuilder) (heap : Heap) (memory : Memory) :
    Except MarshalError (Option Value × Heap) :=
  Marshal.toHosted heap (b.memoryIn memory) b.returnType b.output

end CallBuilder

end CallEngine
