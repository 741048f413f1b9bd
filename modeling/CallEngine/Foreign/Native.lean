import CallEngine.Binary.Power
import CallEngine.Foreign.Memory
import CallEngine.Foreign.Scalar
import CallEngine.Text.Bytes

/-!
# Native functions

The native functions of a program around the engine, as examples of what such functions do. They take
and return native scalars. Some read strings in native memory, some call back into the engine, and
some post an interrupt to the context they are called on. The engine knows them by address only, and
what is said about calls does not depend on which functions there are.
-/

namespace CallEngine

/-- A string constant of native code. -/
inductive NativeText where
  | plain
  | empty
  | null
  /-- Bytes that are not UTF-8. -/
  | broken
  | wide
deriving Repr, DecidableEq

/-- A native function. -/
inductive Native where
  | identity (kind : ScalarKind)
  | addI32
  | addI64
  | widenI8
  | negU16
  | half
  | addF
  | scale
  | nothing
  | sink
  | seven
  | u64Max
  | i64Min
  | text (constant : NativeText)
  | textLength
  | textTail
  | sum8
  | sum10
  | mix10
  | variadicMix
  | call1
  | callTwice
  | fold
  | callDouble
  | callText
  | interruptSelf
  | interruptThenCall
deriving Repr, DecidableEq

namespace Native

/-- Every native function. -/
def all : List Native :=
  [.i8, .u8, .i16, .u16, .i32, .u32, .i64, .u64, .f32, .f64, .pointer].map .identity ++
    [addI32, addI64, widenI8, negU16, half, addF, scale, nothing, sink, seven, u64Max, i64Min] ++
    [.plain, .empty, .null, .broken, .wide].map .text ++
    [textLength, textTail, sum8, sum10, mix10, variadicMix, call1, callTwice, fold, callDouble,
      callText, interruptSelf, interruptThenCall]

/-- The symbol of a native function. -/
def name : Native → String
  | identity .pointer => "id_ptr"
  | identity kind => "id_" ++ kind.name
  | addI32 => "add_i32"
  | addI64 => "add_i64"
  | widenI8 => "widen_i8"
  | negU16 => "neg_u16"
  | half => "half"
  | addF => "addf"
  | scale => "scale"
  | nothing => "nothing"
  | sink => "sink"
  | seven => "seven"
  | u64Max => "u64_max"
  | i64Min => "i64_min"
  | text .plain => "str_kiln"
  | text .empty => "str_empty"
  | text .null => "str_null"
  | text .broken => "str_bad"
  | text .wide => "str_utf8"
  | textLength => "cstr_len"
  | textTail => "cstr_tail"
  | sum8 => "sum8i"
  | sum10 => "sum10d"
  | mix10 => "mix10"
  | variadicMix => "va_mix"
  | call1 => "call1"
  | callTwice => "call_twice"
  | fold => "fold"
  | callDouble => "call_d"
  | callText => "call_s"
  | interruptSelf => "interrupt_self"
  | interruptThenCall => "interrupt_then_call"

def ofName? (name : String) : Option Native := all.find? (·.name == name)

/-- The kinds of the parameters. -/
def params : Native → List ScalarKind
  | identity kind => [kind]
  | addI32 => [.i32, .i32]
  | addI64 => [.i64, .i64]
  | widenI8 => [.i8]
  | negU16 => [.u16]
  | half => [.f64]
  | addF => [.f32, .f32]
  | scale => [.f64, .i8]
  | sink => [.i32]
  | textLength | textTail => [.pointer]
  | sum8 => List.replicate 8 .i32
  | sum10 => List.replicate 10 .f64
  | mix10 => [.i8, .u8, .i16, .u16, .i32, .u32, .i64, .u64, .f32, .f64]
  | variadicMix => [.i32, .i32, .f64]
  | call1 | callTwice | fold => [.pointer, .i32]
  | callDouble => [.pointer, .f64]
  | callText => [.pointer, .pointer]
  | interruptThenCall => [.pointer]
  | nothing | seven | u64Max | i64Min | text _ | interruptSelf => []

/-! ## String constants -/

/-- The string constants that have an address, with their bytes. -/
def constants : List (NativeText × List UInt8) :=
  [(.plain, Text.utf8 "kiln"), (.empty, []), (.broken, [0x61, 0xff, 0xfe]),
    (.wide, Text.utf8 "λx→😀")]

/-- Native memory as it is before any call. -/
def memory : Memory := constants.foldl (fun m (_, bytes) => (m.place bytes).2) {}

/-- Where a string constant stands among those that have an address. -/
def constantIndex? (constant : NativeText) : Option Nat :=
  constants.findIdx? (·.1 == constant)

/-- The address of a string constant. -/
def constantAddress (constant : NativeText) : UInt64 :=
  match constantIndex? constant with
  | none => 0
  | some index => .ofNat ((memory.strings.reverse[index]?.map (·.address)).getD 0)

/-! ## Arithmetic -/

/-- The argument at an index, read as the kind of the parameter. -/
def argument (native : Native) (args : List Scalar) (index : Nat) : Scalar :=
  let kind := (native.params[index]?).getD .void
  match args[index]? with
  | some s => if s.kind = kind then s else .ofWord kind s.toWord
  | none => .ofBits kind 0

/-- A scalar of a float kind, or an integer, as a double. -/
def toDouble (s : Scalar) : Float :=
  match s.kind with
  | .f64 => Float.ofBits (.ofNat s.raw)
  | .f32 => Float.ofBits (Binary.widen (.ofNat s.raw))
  | _ => Float.ofBits (Binary.doubleOfInt s.number)

def ofDouble (x : Float) : Scalar := .ofBits .f64 x.toBits.toNat

/-- Each argument times its position, counted from one, added up in order from zero. -/
def weightedSum (args : List Scalar) : Float :=
  (args.foldl (fun (acc : Float × Nat) s =>
    (acc.1 + Float.ofNat acc.2 * toDouble s, acc.2 + 1)) (0.0, 1)).1

/-- The length of the string at an address; the null address has the length 999. -/
def lengthAt (memory : Memory) (address : UInt64) : Nat :=
  if address = 0 then 999 else (memory.read address).length

/-- What a function returns that neither calls back nor interrupts; `none` for the others. -/
def compute? (native : Native) (memory : Memory) (args : List Scalar) : Option Scalar :=
  let arg := native.argument args
  match native with
  | identity _ => some (arg 0)
  | addI32 => some (.wrapInteger .i32 ((arg 0).number + (arg 1).number))
  | addI64 => some (.wrapInteger .i64 ((arg 0).number + (arg 1).number))
  | widenI8 => some (.wrapInteger .i64 (arg 0).number)
  | negU16 => some (.wrapInteger .i64 (-(arg 0).number))
  | half => some (ofDouble (toDouble (arg 0) / 2.0))
  | addF =>
    let sum := Float32.ofBits (.ofNat (arg 0).raw) + Float32.ofBits (.ofNat (arg 1).raw)
    some (.ofBits .f32 sum.toBits.toNat)
  | scale => some (ofDouble (toDouble (arg 0) * toDouble (arg 1)))
  | nothing | sink => some .void
  | seven => some (.wrapInteger .i32 7)
  | u64Max => some (.ofBits .u64 (twoPow 64 - 1))
  | i64Min => some (.ofBits .i64 (twoPow 63))
  | text constant => some (.pointer (constantAddress constant))
  | textLength =>
    some (.ofBits .u64 (lengthAt memory (arg 0).toWord))
  | textTail =>
    let address := (arg 0).toWord
    some (.pointer (if address = 0 || (memory.read address).isEmpty then address else address + 1))
  | sum8 =>
    let terms := (List.range 8).map fun k => ((k + 1 : Nat) : Int) * (arg k).number
    some (.wrapInteger .i64 (terms.foldl (· + ·) 0))
  | sum10 => some (ofDouble (weightedSum ((List.range 10).map arg)))
  | mix10 => some (ofDouble (weightedSum ((List.range 10).map arg)))
  | variadicMix =>
    some (ofDouble (toDouble (arg 0) + 10.0 * toDouble (arg 1) + 100.0 * toDouble (arg 2)))
  | call1 | callTwice | fold | callDouble | callText | interruptSelf | interruptThenCall => none

/-! ## Calling back -/

/-- What native code can do to the engine that called it. -/
structure Host (m : Type → Type) where
  /-- Call the code at an address. -/
  call : UInt64 → List Scalar → m Scalar
  /-- Post a user interrupt to the calling context. -/
  interrupt : m Unit

/-- The low half of a register, the high half of which is zero. Native code passes 32-bit arguments
on in this way, whatever sign they have. -/
def lowHalf (s : Scalar) : Scalar := .ofWord .u32 s.toWord

/-- Call back with the numbers from `i` on, `count` times, and the result so far. -/
def foldCalls {m : Type → Type} [Monad m] (host : Host m) (code : UInt64) (acc : Scalar) (i : Nat) :
    Nat → m Scalar
  | 0 => return acc
  | count + 1 => do
    let acc ← host.call code [lowHalf acc, .ofBits .u32 i]
    foldCalls host code (.ofWord .i32 acc.toWord) (i + 1) count

/-- Run a native function. Where code to call back is null, a fixed number is returned. -/
def run {m : Type → Type} [Monad m] (host : Host m) (memory : m Memory) (native : Native)
    (args : List Scalar) : m Scalar := do
  let arg := native.argument args
  let code := (arg 0).toWord
  match native with
  | call1 =>
    if code = 0 then return .wrapInteger .i32 (-1)
    else return .ofWord .i32 (← host.call code [lowHalf (arg 1)]).toWord
  | callTwice =>
    if code = 0 then return .wrapInteger .i32 (-1)
    else
      let once ← host.call code [lowHalf (arg 1)]
      return .ofWord .i32 (← host.call code [lowHalf once]).toWord
  | fold =>
    if code = 0 then return .wrapInteger .i32 (-1)
    else foldCalls host code (.wrapInteger .i32 0) 1 (min (arg 1).number 100).toNat
  | callDouble =>
    if code = 0 then return ofDouble (-1.0)
    else return .ofWord .f64 (← host.call code [arg 1]).toWord
  | callText =>
    if code = 0 then return .ofBits .u64 998
    else
      let address := (← host.call code [arg 1]).toWord
      return .ofBits .u64 (lengthAt (← memory) address)
  | interruptSelf =>
    host.interrupt
    return .wrapInteger .i32 7
  | interruptThenCall =>
    host.interrupt
    if code = 0 then return .wrapInteger .i32 (-1)
    else return .ofWord .i32 (← host.call code [.ofBits .u32 1]).toWord
  | _ => return (native.compute? (← memory) args).getD .void

end Native

end CallEngine
