import CallEngine.Error
import CallEngine.Foreign.Signature
import CallEngine.Json.Field

/-!
# Declarations of signatures

A signature is declared by the names of its types, or given as a JSON document.
-/

namespace CallEngine

/-- How a signature is given. -/
inductive Declaration where
  | names (params : List String) (ret convention : String) (variadicFrom : Option Nat)
  | document (text : String)
deriving Repr, DecidableEq

namespace Declaration

/-- The signature of declared names. -/
def ofNames (params : List String) (ret convention : String) (variadicFrom : Option Nat) :
    Except ForeignError Signature := do
  let signature ← Signature.declare params ret convention
  match variadicFrom with
  | some start => signature.variadic start
  | none => return signature

/-- The declared signature. -/
def read : Declaration → Except EngineError Signature
  | names params ret convention variadicFrom =>
    (ofNames params ret convention variadicFrom).mapError .foreign
  | document text =>
    match Signature.parse? text with
    | some signature => .ok signature
    | none => .error .unreadable

/-- Read a declaration from an object of names, or from one that holds the text of a document. -/
def ofJson? (j : Json) : Option Declaration :=
  match j.field? "json" with
  | some written => written.text?.map .document
  | none => do
    let params ← (← j.itemsAt? "params").mapM Json.text?
    let convention := (← j.optionalAt? "conv" Json.text?).getD ":default"
    return .names params (← j.textAt? "ret") convention
      (← j.optionalAt? "variadic" Json.natural?)

end Declaration

end CallEngine
