import CallEngine.Machine
import CallEngine.Value

/-!
# The object heap

An append-only arena. Objects are named 0, 1, 2, … in the order of their allocation, start out
filled with zeros, and never change their tag or their size. The bytes that are granted to objects
are counted, and a heap may have a limit on them.
-/

namespace CallEngine

/-- The kind of a heap object. -/
inductive Tag where
  /-- UTF-8 text without a terminator. -/
  | string
  /-- A sign byte, then 64-bit limbs, the lowest first and each little-endian. -/
  | bignum
  /-- Any bytes. -/
  | bytes
deriving Repr, DecidableEq, Inhabited

/-- How a tag is written. -/
def Tag.name : Tag → String
  | string => "string"
  | bignum => "bignum"
  | bytes => "bytes"

/-- Why the heap refused an access. -/
inductive HeapError where
  | invalidHandle (handle : Handle)
  | exhausted (requested available : Nat)
  | outOfBounds (offset length size : Nat)
  | wrongTag (expected got : Tag)
  | malformed (tag : Tag)
deriving Repr, DecidableEq

/-- The name of the kind of error. -/
def HeapError.kind : HeapError → String
  | invalidHandle _ => "InvalidHandle"
  | exhausted _ _ => "Exhausted"
  | outOfBounds _ _ _ => "OutOfBounds"
  | wrongTag _ _ => "WrongTag"
  | malformed _ => "Malformed"

def HeapError.message : HeapError → String
  | invalidHandle h => s!"Invalid object handle {h.text}"
  | exhausted requested available =>
    s!"Heap exhausted: requested {requested} bytes with {available} available"
  | outOfBounds offset length size =>
    s!"Write of {length} bytes at offset {offset} exceeds object size {size}"
  | wrongTag expected got => s!"Expected {expected.name} object, got {got.name}"
  | malformed tag => s!"Malformed {tag.name} object"

/-- Lay `bytes` over `payload` from `offset` on. -/
def overlay (payload : List UInt8) (offset : Nat) (bytes : List UInt8) : List UInt8 :=
  payload.take offset ++ bytes ++ payload.drop (offset + bytes.length)

/-- What is laid over a payload does not change its length. -/
theorem length_overlay {payload bytes : List UInt8} {offset : Nat}
    (hfits : offset + bytes.length ≤ payload.length) :
    (overlay payload offset bytes).length = payload.length := by
  simp only [overlay, List.length_append, List.length_take, List.length_drop]
  omega

/-- One object of the heap. -/
structure HeapObject where
  tag : Tag
  payload : List UInt8
deriving Repr, DecidableEq

/-- The number of bytes of an object. -/
def HeapObject.size (object : HeapObject) : Nat := object.payload.length

/-- The objects allocated so far, and the most payload bytes they may have together. -/
structure Heap where
  objects : Array HeapObject := #[]
  /-- The payload bytes that were granted so far, counted in a word. -/
  allocated : UInt64 := 0
  limit : Option UInt64 := none

/-- An operation on the heap. -/
abbrev HeapOp (α : Type) := Op Heap HeapError α

namespace Heap

/-- Count `size` more bytes. With a limit the sum is checked, and refused if a word does not hold it;
without one it wraps. -/
def reserve (heap : Heap) (size : Nat) : Except HeapError Heap :=
  let total := heap.allocated.toNat + size
  match heap.limit with
  | none => .ok { heap with allocated := .ofNat total }
  | some limit =>
    if total < twoPow 64 && total ≤ limit.toNat then .ok { heap with allocated := .ofNat total }
    else .error (.exhausted size (limit.toNat - heap.allocated.toNat))

/-- Add an object behind all others; the result is its handle. -/
def push (heap : Heap) (object : HeapObject) : Handle × Heap :=
  (.ofNat heap.objects.size, { heap with objects := heap.objects.push object })

/-- Allocate `size` zero bytes. They are counted before the memory for them is asked for. -/
def allocate (size : UInt64) (tag : Tag) : HeapOp Handle := do
  Op.transition fun heap => (heap.reserve size.toNat).map ((), ·)
  if Machine.allocationLimit < size.toNat then Op.panic .capacity
  Op.change (·.push { tag, payload := List.replicate size.toNat 0 })

/-- Look up an object. -/
def object (heap : Heap) (handle : Handle) : Except HeapError HeapObject :=
  match heap.objects[handle.toNat]? with
  | some object => .ok object
  | none => .error (.invalidHandle handle)

/-- The tag of an object. -/
def tagOf (heap : Heap) (handle : Handle) : Except HeapError Tag :=
  (heap.object handle).map (·.tag)

/-- The payload of an object. -/
def read (heap : Heap) (handle : Handle) : Except HeapError (List UInt8) :=
  (heap.object handle).map (·.payload)

/-- Overwrite part of an object's payload. -/
def write (heap : Heap) (handle : Handle) (offset : Nat) (bytes : List UInt8) :
    Except HeapError Heap :=
  match heap.object handle with
  | .error e => .error e
  | .ok object =>
    if offset + bytes.length ≤ object.size then
      .ok { heap with
        objects := heap.objects.setIfInBounds handle.toNat
          { object with payload := overlay object.payload offset bytes } }
    else .error (.outOfBounds offset bytes.length object.size)

/-- Allocate an object that holds exactly `bytes`. They are in memory already, so there are not more
of them than one allocation may have. -/
def store (heap : Heap) (tag : Tag) (bytes : List UInt8) : Except HeapError (Handle × Heap) :=
  (heap.reserve bytes.length).map (·.push { tag, payload := bytes })

/-- Allocate a string object. -/
def makeString (heap : Heap) (text : String) : Except HeapError (Handle × Heap) :=
  heap.store .string (Text.utf8 text)

/-- The payload of an object that has to have the tag `tag`. -/
def readAs (heap : Heap) (tag : Tag) (handle : Handle) : Except HeapError (List UInt8) := do
  let object ← heap.object handle
  if object.tag = tag then return object.payload
  else throw (.wrongTag tag object.tag)

/-- The text of a string object. -/
def string (heap : Heap) (handle : Handle) : Except HeapError String := do
  let bytes ← heap.readAs .string handle
  match Text.ofUtf8? bytes with
  | some text => return text
  | none => throw (.malformed .string)

end Heap

end CallEngine
