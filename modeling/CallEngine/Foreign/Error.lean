import CallEngine.Foreign.Type
import CallEngine.Heap
import CallEngine.Text.Quoted

/-!
# Errors of the foreign interface

Marshaling errors arise where a hosted value and a native scalar do not fit each other; call
errors arise before control passes to native code.
-/

namespace CallEngine

/-- Why a value could not cross the boundary. -/
inductive MarshalError where
  | typeMismatch (ty : ForeignType) (expected got : String)
  /-- `none` stands for a number of more than 128 bits. -/
  | outOfRange (value : Option Int) (ty : ForeignType)
  | characterOutOfRange (c : Char)
  | interiorNul (position : Nat)
  | invalidString
  | invalidWord (word : UInt64)
  | heap (error : HeapError)
deriving Repr, DecidableEq

/-- The name of the kind of error, which an error of the heap extends. -/
def MarshalError.kind : MarshalError → String
  | typeMismatch _ _ _ => "TypeMismatch"
  | outOfRange _ _ => "OutOfRange"
  | characterOutOfRange _ => "CharacterOutOfRange"
  | interiorNul _ => "InteriorNul"
  | invalidString => "InvalidString"
  | invalidWord _ => "InvalidWord"
  | heap error => "Heap::" ++ error.kind

def MarshalError.message : MarshalError → String
  | typeMismatch ty expected got => s!"Type mismatch: {ty.name} expects {expected}, got {got}"
  | outOfRange value ty =>
    let written := (value.map toString).getD "bignum"
    s!"Integer {written} out of range for {ty.name}"
  | characterOutOfRange c => s!"Character {Text.quotedChar c} has no single-byte code"
  | interiorNul position => s!"String has an interior NUL byte at {position}"
  | invalidString => "Foreign string is not valid UTF-8"
  | invalidWord word => s!"Word 0x{Text.hexadecimal word.toNat} does not encode a value"
  | heap error => error.message

/-- Why a foreign call was refused. -/
inductive ForeignError where
  | unsupportedType (name : String)
  | unknownConvention (name : String)
  | voidParameter (index : Nat)
  | variadicStart (start count : Nat)
  | unsupportedConvention (convention : CallingConvention) (abi : String)
  | unsupportedVariadic (target : String)
  | bufferOverflow (needed limit : Nat)
  | sizeMismatch (index expected got : Nat)
  | invalidAlignment (alignment : Nat)
  | arityMismatch (expected got : Nat)
  | notPrepared
  | returnTypeMismatch (expected got : ForeignType)
  | noContext
  | marshal (error : MarshalError)
deriving Repr, DecidableEq

/-- The name of the kind of error, which a marshaling error extends. -/
def ForeignError.kind : ForeignError → String
  | unsupportedType _ => "UnsupportedType"
  | unknownConvention _ => "UnknownConvention"
  | voidParameter _ => "VoidParameter"
  | variadicStart _ _ => "VariadicStart"
  | unsupportedConvention _ _ => "UnsupportedConvention"
  | unsupportedVariadic _ => "UnsupportedVariadic"
  | bufferOverflow _ _ => "BufferOverflow"
  | sizeMismatch _ _ _ => "SizeMismatch"
  | invalidAlignment _ => "InvalidAlignment"
  | arityMismatch _ _ => "ArityMismatch"
  | notPrepared => "NotPrepared"
  | returnTypeMismatch _ _ => "ReturnTypeMismatch"
  | noContext => "NoContext"
  | marshal error => "Marshal::" ++ error.kind

def ForeignError.message : ForeignError → String
  | unsupportedType name => s!"Unsupported foreign type {name}"
  | unknownConvention name => s!"Unknown calling convention {name}"
  | voidParameter index => s!":void is not a valid type for parameter {index}"
  | variadicStart start count =>
    s!"Variadic start {start} is past the {count} declared parameters"
  | unsupportedConvention convention abi =>
    s!"{convention.name} calls are not supported on {abi}"
  | unsupportedVariadic target => s!"Variadic calls are not supported on {target}"
  | bufferOverflow needed limit =>
    s!"Call image overflow: {needed} bytes needed, limit is {limit}"
  | sizeMismatch index expected got => s!"Parameter {index} takes {expected} bytes, got {got}"
  | invalidAlignment alignment => s!"Alignment {alignment} is not a power of two"
  | arityMismatch expected got => s!"Expected {expected} arguments, got {got}"
  | notPrepared => "No foreign call prepared"
  | returnTypeMismatch expected got =>
    s!"Return type {got.name} does not match prepared {expected.name}"
  | noContext => "No execution context registered on this thread"
  | marshal error => error.message

end CallEngine
