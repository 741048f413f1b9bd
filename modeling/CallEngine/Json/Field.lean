import CallEngine.Json

/-!
# Reading fields

Reading the members of an object as texts, numbers, bytes and lists. An integer may be written as a
number or as decimal digits in a string, bytes are written in hexadecimal. A member that is null
counts as missing. Also the integers that stand anywhere in a document.
-/

namespace CallEngine.Json

def text? : Json → Option String
  | string s => some s
  | _ => none

def integer? : Json → Option Int
  | integer n => some n
  | string s => s.toInt?
  | _ => none

def natural? (j : Json) : Option Nat := do
  let n ← j.integer?
  if 0 ≤ n then some n.toNat else none

def items? : Json → Option (List Json)
  | array items => some items
  | _ => none

def members? : Json → Option (List (String × Json))
  | object members => some members
  | _ => none

/-- The bytes that pairs of hexadecimal digits denote. -/
def bytesOfDigits? : List Char → Option (List UInt8)
  | [] => some []
  | high :: low :: rest => do
    let high ← hexValue? high
    let low ← hexValue? low
    return .ofNat (16 * high + low) :: (← bytesOfDigits? rest)
  | _ => none

/-- The number that hexadecimal digits denote. -/
def numberOfDigits? (digits : List Char) : Option Nat :=
  digits.foldlM (fun n c => (hexValue? c).map (16 * n + ·)) 0

def bytes? (j : Json) : Option (List UInt8) := do bytesOfDigits? (← j.text?).toList

/-- A member that is there and not null. -/
def field? (j : Json) (name : String) : Option Json :=
  match j.get? name with
  | some null => none
  | found => found

def textAt? (j : Json) (name : String) : Option String := do (← j.field? name).text?

def integerAt? (j : Json) (name : String) : Option Int := do (← j.field? name).integer?

def naturalAt? (j : Json) (name : String) : Option Nat := do (← j.field? name).natural?

def itemsAt? (j : Json) (name : String) : Option (List Json) := do (← j.field? name).items?

def bytesAt? (j : Json) (name : String) : Option (List UInt8) := do (← j.field? name).bytes?

/-- Whether a member is true; a missing one is not. -/
def flagAt (j : Json) (name : String) : Bool :=
  match j.field? name with
  | some (bool b) => b
  | _ => false

mutual

/-- All integers in a document, also those written as strings. -/
def numbers : Json → List Int
  | integer n => [n]
  | string s => s.toInt?.toList
  | array items => itemNumbers items
  | object members => memberNumbers members
  | _ => []

/-- All integers in documents. -/
def itemNumbers : List Json → List Int
  | [] => []
  | item :: rest => item.numbers ++ itemNumbers rest

/-- All integers in members. -/
def memberNumbers : List (String × Json) → List Int
  | [] => []
  | (_, value) :: rest => value.numbers ++ memberNumbers rest

end

/-- Read a member that may be missing. -/
def optionalAt? {α : Type} (j : Json) (name : String) (read : Json → Option α) :
    Option (Option α) :=
  match j.field? name with
  | some value => (read value).map some
  | none => some none

end CallEngine.Json
