import CallEngine.Json.Field
import CallEngine.Literal

/-!
# Literals as documents

How literals are written in JSON. Null is nil, a number is a fixnum and a string is a string
object; every other literal is an object whose member `t` tells its kind. Floats are written by
their bits in hexadecimal, or as `nan`.
-/

namespace CallEngine

/-- The bits of a float; `nan` stands for the quiet not-a-number of the format. -/
def floatBits? (quiet : Nat) (j : Json) : Option Nat := do
  let digits ← j.textAt? "bits"
  if digits == "nan" then return quiet else Json.numberOfDigits? digits.toList

def singleBits? (j : Json) : Option UInt32 := (floatBits? 0x7fc00000 j).map .ofNat

def doubleBits? (j : Json) : Option UInt64 := (floatBits? 0x7ff8000000000000 j).map .ofNat

/-- Read a tag's name. -/
def Tag.ofName? (name : String) : Option Tag :=
  [Tag.string, .bignum, .bytes].find? (·.name == name)

/-- Read the sign and the limbs of a bignum. -/
def Bignum.ofJson? (j : Json) : Option Bignum := do
  let limbs ← (← j.itemsAt? "limbs").mapM fun limb => do return .ofNat (← limb.natural?)
  return .ofParts (j.flagAt "neg") limbs

namespace Literal

/-- Read a literal that is an object of kind `t`. -/
def ofTagged? (j : Json) : String → Option Literal
  | "nil" => some (.immediate .nil)
  | "fixnum" => do return .immediate (.fixnum (.ofInt (← j.integerAt? "v")))
  | "single" => do return .immediate (.single (← singleBits? j))
  | "double" => do return .immediate (.double (← doubleBits? j))
  | "char" => do return .immediate (.character (Char.ofNat (← j.naturalAt? "v")))
  | "pointer" => do return .immediate (.pointer (.ofNat (← j.naturalAt? "v")))
  | "object" => do return .immediate (.object (.ofNat (← j.naturalAt? "h")))
  | "novalue" => some (.immediate .noValue)
  | "string" => do return .string (← j.textAt? "s")
  | "int" => do return .integer (← j.integerAt? "v")
  | "bignum" => do return .bignum (← Bignum.ofJson? j)
  | "raw" => do return .raw (← Tag.ofName? (← j.textAt? "tag")) (← j.bytesAt? "hex")
  | _ => none

/-- Read a literal. -/
def ofJson? : Json → Option Literal
  | .null => some (.immediate .nil)
  | .integer n => some (.immediate (.fixnum (.ofInt n)))
  | .string s => some (.string s)
  | j => do ofTagged? j (← j.textAt? "t")

end Literal

/-- Read a series: an array, `repeat` with a count `n`, or `range` with its first number and the
number behind its last. -/
def Series.ofJson? {α : Type} (item? : Json → Option α) (j : Json) : Option (Series α) :=
  match j, j.get? "repeat", j.get? "range" with
  | .array list, _, _ => (list.mapM item?).map .items
  | _, some item, _ => do return .repeated (← item? item) (← j.naturalAt? "n")
  | _, none, some (.array [first, last]) => do
    let first ← first.integer?
    return .range first ((← last.integer?) - first).toNat
  | _, _, _ => none

end CallEngine
