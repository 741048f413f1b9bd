import CallEngine.Foreign.Scalar

/-!
# Foreign types and calling conventions

The type tags that hosted code declares for native parameters and results, and the names of the
calling conventions. Names are read without regard to case and with or without their colon.
-/

namespace CallEngine

/-- The declared type of a foreign parameter or result. -/
inductive ForeignType where
  | char
  | unsignedChar
  | byte
  | unsignedByte
  | short
  | unsignedShort
  | int
  | unsignedInt
  | long
  | unsignedLong
  | longLong
  | unsignedLongLong
  | int8
  | uint8
  | int16
  | uint16
  | int32
  | uint32
  | int64
  | uint64
  | float
  | double
  | pointerVoid
  | cstring
  | object
  /-- Meant for results only. -/
  | void
deriving Repr, DecidableEq, Inhabited

/-- A name without the one colon it may start with. -/
def bareName (name : String) : String :=
  match name.toList with
  | ':' :: rest => String.ofList rest
  | _ => name

namespace ForeignType

/-- Every foreign type. -/
def all : List ForeignType :=
  [char, unsignedChar, byte, unsignedByte, short, unsignedShort, int, unsignedInt, long,
    unsignedLong, longLong, unsignedLongLong, int8, uint8, int16, uint16, int32, uint32, int64,
    uint64, float, double, pointerVoid, cstring, object, void]

/-- The declared name without its colon. -/
def bare : ForeignType → String
  | char => "char"
  | unsignedChar => "unsigned-char"
  | byte => "byte"
  | unsignedByte => "unsigned-byte"
  | short => "short"
  | unsignedShort => "unsigned-short"
  | int => "int"
  | unsignedInt => "unsigned-int"
  | long => "long"
  | unsignedLong => "unsigned-long"
  | longLong => "long-long"
  | unsignedLongLong => "unsigned-long-long"
  | int8 => "int8-t"
  | uint8 => "uint8-t"
  | int16 => "int16-t"
  | uint16 => "uint16-t"
  | int32 => "int32-t"
  | uint32 => "uint32-t"
  | int64 => "int64-t"
  | uint64 => "uint64-t"
  | float => "float"
  | double => "double"
  | pointerVoid => "pointer-void"
  | cstring => "cstring"
  | object => "object"
  | void => "void"

/-- The declared name. -/
def name (ty : ForeignType) : String := ":" ++ ty.bare

/-- Read a declared name. -/
def ofName? (name : String) : Option ForeignType :=
  all.find? fun ty => ty.bare == (bareName name).toLower

/-- The machine kind of a type; `:long` has 64 bits. -/
def kind : ForeignType → ScalarKind
  | char | byte | int8 => .i8
  | unsignedChar | unsignedByte | uint8 => .u8
  | short | int16 => .i16
  | unsignedShort | uint16 => .u16
  | int | int32 => .i32
  | unsignedInt | uint32 => .u32
  | long | longLong | int64 => .i64
  | unsignedLong | unsignedLongLong | uint64 | object => .u64
  | float => .f32
  | double => .f64
  | pointerVoid | cstring => .pointer
  | void => .void

def size (ty : ForeignType) : Nat := ty.kind.size

def align (ty : ForeignType) : Nat := ty.kind.align

/-- The types that take hosted integers. -/
def isInteger : ForeignType → Bool
  | char | unsignedChar | float | double | pointerVoid | cstring | object | void => false
  | _ => true

def isCharacter : ForeignType → Bool
  | char | unsignedChar => true
  | _ => false

def isFloat : ForeignType → Bool
  | float | double => true
  | _ => false

/-- The least and the greatest integer of an integer type. -/
def range? (ty : ForeignType) : Option (Int × Int) :=
  if ty.isInteger then some ty.kind.range else none

/-- The type that a variadic argument of this type travels as. -/
def promoted (ty : ForeignType) : ForeignType :=
  match ty.kind with
  | .i8 | .u8 | .i16 | .u16 => int
  | .f32 => double
  | _ => ty

end ForeignType

/-- Who cleans up after a native call. -/
inductive CallingConvention where
  | default
  | cdecl
  | stdcall
deriving Repr, DecidableEq, Inhabited

namespace CallingConvention

/-- The name without its colon. -/
def bare : CallingConvention → String
  | default => "default"
  | cdecl => "cdecl"
  | stdcall => "stdcall"

def name (c : CallingConvention) : String := ":" ++ c.bare

/-- The convention with this bare name. -/
def ofBare? (bare : String) : Option CallingConvention :=
  [default, cdecl, stdcall].find? fun c => c.bare == bare

/-- Read a convention's name. -/
def ofName? (name : String) : Option CallingConvention := ofBare? (bareName name).toLower

end CallingConvention

end CallEngine
