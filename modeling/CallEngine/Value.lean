import CallEngine.Binary.Power
import CallEngine.Binary.Shortest
import CallEngine.Text.Bytes

/-!
# Hosted values

The values of the hosted language. Numbers, characters and foreign addresses are held
immediately; strings, bignums and byte vectors are heap objects named by a handle. Floats are
kept as their bit patterns.

A value may travel as one tagged machine word, four times a payload plus a tag from 0 to 3: nil
is the word 0, a fixnum has the tag 1, a character 2 and an object 3.
-/

namespace CallEngine

/-- The name of a heap object. -/
abbrev Handle := UInt64

/-- How a handle is written. -/
def Handle.text (h : Handle) : String := s!"#<object {h.toNat}>"

/-- A value of the hosted language. -/
inductive Value where
  | nil
  | fixnum (n : Int64)
  | single (bits : UInt32)
  | double (bits : UInt64)
  | character (c : Char)
  | pointer (address : UInt64)
  | object (handle : Handle)
  /-- What a read past the last reported value gives; evaluation never produces it. -/
  | noValue
deriving Repr, DecidableEq, Inhabited

namespace Value

/-- Whether an integer fits the 62 bits of a fixnum. -/
def isFixnum (n : Int) : Bool := -(twoPow 61 : Int) ≤ n && n < twoPow 61

/-- The fixnum of an integer in range. -/
def ofFixnum? (n : Int) : Option Value :=
  if isFixnum n then some (.fixnum (.ofInt n)) else none

/-- Any real value as a double. -/
def asReal : Value → Option UInt64
  | fixnum n => some (Binary.doubleOfInt n.toInt)
  | single bits => some (Binary.widen bits)
  | double bits => some bits
  | _ => none

def isNil : Value → Bool
  | nil => true
  | _ => false

def isNoValue : Value → Bool
  | noValue => true
  | _ => false

/-- The name of a value's type. -/
def typeName : Value → String
  | nil => "nil"
  | fixnum _ => "fixnum"
  | single _ => "single-float"
  | double _ => "double-float"
  | character _ => "character"
  | pointer _ => "foreign-pointer"
  | object _ => "object"
  | noValue => "no-value"

/-- How a value is written. -/
def text : Value → String
  | nil => "nil"
  | fixnum n => toString n.toInt
  | single bits => Binary.single.text bits.toNat ++ "f0"
  | double bits => Binary.double.text bits.toNat ++ "d0"
  | character c => "#\\" ++ c.toString
  | pointer address => s!"#<foreign 0x{Text.hexadecimal address.toNat}>"
  | object handle => Handle.text handle
  | noValue => "#<no value>"

/-- The tagged word of a value. A fixnum contributes its low 62 bits; floats, addresses, the
sentinel and handles of more than 62 bits have no word. -/
def toWord : Value → Option UInt64
  | nil => some 0
  | fixnum n => some (.ofNat (4 * (n.toInt % twoPow 62).toNat + 1))
  | character c => some (.ofNat (4 * c.toNat + 2))
  | object handle =>
    if handle.toNat < twoPow 62 then some (.ofNat (4 * handle.toNat + 3)) else none
  | _ => none

/-- The value of a tagged word. -/
def ofWord? (word : UInt64) : Option Value :=
  let payload := word.toNat / 4
  match word.toNat % 4 with
  | 0 => if payload = 0 then some nil else none
  | 1 => some (fixnum (.ofInt (Int.bmod payload (twoPow 62))))
  | 2 => if payload.isValidChar then some (character (Char.ofNat payload)) else none
  | _ => some (object (.ofNat payload))

end Value

end CallEngine
