import CallEngine.Bignum

/-!
# Literals

Values as they are written in programs. Text, large integers and raw objects are put into the heap
when the literal is evaluated, so evaluation is an operation on the heap.
-/

namespace CallEngine

/-- A value written out. -/
inductive Literal where
  /-- A value that needs no object, or names one that should exist. -/
  | immediate (value : Value)
  | string (text : String)
  /-- A fixnum if it is in range, else a bignum. -/
  | integer (n : Int)
  /-- A bignum even if a fixnum would do. -/
  | bignum (number : Bignum)
  /-- An object with any tag and any payload. -/
  | raw (tag : Tag) (payload : List UInt8)
deriving Repr, DecidableEq

/-- The value of a literal. -/
def Literal.eval : Literal → HeapOp Value
  | immediate value => return value
  | string text => do return .object (← Op.transition (·.makeString text))
  | integer n => Op.transition (Value.ofInteger n)
  | bignum number => do return .object (← Op.transition number.store)
  | raw tag payload => do return .object (← Op.transition (·.store tag payload))

/-- A list of values: written one by one, one value many times, or consecutive fixnums. -/
inductive Series (α : Type) where
  | items (items : List α)
  | repeated (item : α) (count : Nat)
  /-- The fixnums from `first` on, `count` of them. -/
  | range (first : Int) (count : Nat)
deriving Repr, DecidableEq

namespace Series

variable {α σ ε : Type}

/-- Evaluate items in order. -/
def evalItems (eval : α → Op σ ε Value) : List α → Op σ ε (List Value)
  | [] => return []
  | item :: rest => do
    let value ← eval item
    return value :: (← evalItems eval rest)

/-- The values of a series. An item that is repeated is evaluated once. -/
def eval (eval : α → Op σ ε Value) : Series α → Op σ ε (List Value)
  | items list => evalItems eval list
  | repeated item count => do return List.replicate count (← eval item)
  | range first count => return (List.range count).map fun (i : Nat) => .fixnum (.ofInt (first + i))

end Series

end CallEngine
