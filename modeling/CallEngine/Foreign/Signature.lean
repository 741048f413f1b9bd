import CallEngine.Binary.Power
import CallEngine.Foreign.Error
import CallEngine.Json

/-!
# Foreign signatures

Parameter types, result type and calling convention of a native function. Arguments from the
variadic start on are promoted before they are passed.

A signature is declared by type names, or read from a JSON document. Declaring refuses `:void`
parameters and a variadic start past the parameters; a document is taken as it stands.
-/

namespace CallEngine

/-- The declared shape of a native function. -/
structure Signature where
  params : List ForeignType
  ret : ForeignType
  convention : CallingConvention := .default
  /-- The index of the first argument passed as variadic. -/
  variadicFrom : Option Nat := none
deriving Repr, DecidableEq

namespace Signature

/-- A signature with the default convention and no variadic part. -/
def make (params : List ForeignType) (ret : ForeignType) : Except ForeignError Signature :=
  match params.findIdx? (· == .void) with
  | some index => .error (.voidParameter index)
  | none => .ok { params, ret }

/-- Read a type name. -/
def readType (name : String) : Except ForeignError ForeignType :=
  match ForeignType.ofName? name with
  | some ty => .ok ty
  | none => .error (.unsupportedType name)

/-- Read a convention's name. -/
def readConvention (name : String) : Except ForeignError CallingConvention :=
  match CallingConvention.ofName? name with
  | some c => .ok c
  | none => .error (.unknownConvention name)

/-- The signature of declared names. -/
def declare (params : List String) (ret convention : String) : Except ForeignError Signature := do
  let params ← params.mapM readType
  let ret ← readType ret
  let signature ← make params ret
  let convention ← readConvention convention
  return { signature with convention }

/-- Let the arguments from `start` on be variadic. -/
def variadic (s : Signature) (start : Nat) : Except ForeignError Signature :=
  if s.params.length < start then .error (.variadicStart start s.params.length)
  else .ok { s with variadicFrom := some start }

/-- Whether the argument at `index` is passed as variadic. -/
def isVariadic (s : Signature) (index : Nat) : Bool :=
  match s.variadicFrom with
  | some start => start ≤ index
  | none => false

/-- Promote the types from the variadic start on, the first of them standing at `index`. -/
def promoteFrom (s : Signature) (index : Nat) : List ForeignType → List ForeignType
  | [] => []
  | ty :: rest =>
    (if s.isVariadic index then ty.promoted else ty) :: s.promoteFrom (index + 1) rest

/-- The parameter types as they are passed. -/
def effectiveParams (s : Signature) : List ForeignType := s.promoteFrom 0 s.params

/-- The written parameters, the first of them standing at `index`. -/
def paramTexts (s : Signature) (index : Nat) : List ForeignType → List String
  | [] => []
  | ty :: rest =>
    (if s.variadicFrom = some index then "&rest " ++ ty.name else ty.name) ::
      s.paramTexts (index + 1) rest

/-- How a signature is written. -/
def text (s : Signature) : String :=
  let arguments := String.intercalate " " (s.paramTexts 0 s.params)
  let convention := if s.convention = .default then "" else " " ++ s.convention.name
  s!"({arguments}) -> {s.ret.name}{convention}"

/-- The JSON text of a signature. -/
def jsonText (s : Signature) : String :=
  let params := String.intercalate "," (s.params.map fun ty => Text.jsonString ty.name)
  let start := (s.variadicFrom.map toString).getD "null"
  "\x7b\"params\":[" ++ params ++ "],\"ret\":" ++ Text.jsonString s.ret.name ++
    ",\"convention\":" ++ Text.jsonString s.convention.bare ++ ",\"variadic_from\":" ++ start ++
    "\x7d"

/-- Read a type from a document. -/
def typeOfJson? : Json → Option ForeignType
  | .string name => ForeignType.ofName? name
  | _ => none

/-- Read a list of types from a document. -/
def paramsOfJson? : Json → Option (List ForeignType)
  | .array items => items.mapM typeOfJson?
  | _ => none

/-- Read a convention from a document: its bare name, or that name as the only member of an
object, with null beside it. -/
def conventionOfJson? : Json → Option CallingConvention
  | .string bare => CallingConvention.ofBare? bare
  | .object [(bare, .null)] => CallingConvention.ofBare? bare
  | _ => none

/-- Read the variadic start from a document; null means there is none. -/
def startOfJson? : Json → Option (Option Nat)
  | .null => some none
  | .integer n => if 0 ≤ n && n < twoPow 64 then some (some n.toNat) else none
  | _ => none

/-- The four documents of a signature put together. -/
def ofFields? (params ret convention start : Json) : Option Signature := do
  let params ← paramsOfJson? params
  let ret ← typeOfJson? ret
  let convention ← conventionOfJson? convention
  let variadicFrom ← startOfJson? start
  return { params, ret, convention, variadicFrom }

/-- The names of the members of a signature. -/
def memberNames : List String := ["params", "ret", "convention", "variadic_from"]

/-- Read a signature from a document: an object in which no known member repeats and only the
variadic start may be missing, or an array of the four fields in order. -/
def ofJson? : Json → Option Signature
  | .array [params, ret, convention, start] => ofFields? params ret convention start
  | .object members =>
    let one := fun name => (members.filter (·.1 == name)).map (·.2)
    match one "params", one "ret", one "convention", one "variadic_from" with
    | [params], [ret], [convention], [start] => ofFields? params ret convention start
    | [params], [ret], [convention], [] => ofFields? params ret convention .null
    | _, _, _, _ => none
  | _ => none

/-- Read a signature from the text of a document, in which other members do not matter. -/
def parse? (text : String) : Option Signature := do
  ofJson? (← Json.parseSkipping? (fun name => !memberNames.contains name) text)

end Signature

end CallEngine
