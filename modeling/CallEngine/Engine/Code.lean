import CallEngine.Foreign.Library
import CallEngine.Foreign.Native

/-!
# Native code

What stands at the addresses that foreign calls jump to: the native functions of the engine, the
functions of loaded libraries, the functions of the process itself, and trampolines. Each kind has
a range of addresses of its own, sixteen bytes for each function. The ranges lie where no number
that is given from outside happens to be an address in them.
-/

namespace CallEngine

/-- A piece of code that has an address. -/
inductive Code where
  | native (function : Native)
  /-- A function of a loaded library, by its position among all of them in load order. -/
  | exported (index : Nat)
  | process (name : String)
  /-- A trampoline, by the order of creation. -/
  | trampoline (index : Nat)
deriving Repr, DecidableEq

namespace Code

/-- The bytes of the range of one kind. -/
def span : Nat := 0x10000000000

/-- The number of kinds. -/
def kinds : Nat := 4

/-- The position of the range of a kind. -/
def kind : Code → Nat
  | native _ => 0
  | exported _ => 1
  | process _ => 2
  | trampoline _ => 3

/-- The position of code in the range of its kind. -/
def position : Code → Nat
  | native function => Native.all.idxOf function
  | exported index => index
  | process name => processSymbols.idxOf name
  | trampoline index => index

/-- The address of code, where the ranges start at `origin`. -/
def address (origin : Nat) (code : Code) : EntryPoint :=
  .ofNat (origin + span * code.kind + 16 * code.position)

/-- The code at a position of the range of a kind. -/
def atPosition? (kind position : Nat) : Option Code :=
  match kind with
  | 0 => Native.all[position]?.map .native
  | 1 => some (.exported position)
  | 2 => processSymbols[position]?.map .process
  | 3 => some (.trampoline position)
  | _ => none

/-- The code at an address, where the ranges start at `origin`. -/
def ofAddress? (origin : Nat) (entry : EntryPoint) : Option Code :=
  let offset := entry.toNat - origin
  if origin ≤ entry.toNat && offset % 16 = 0 then
    atPosition? (offset / span) (offset % span / 16)
  else none

/-- The places where the ranges may start. -/
def originAt (n : Nat) : Nat := 0x500000000000 + kinds * span * n

/-- A place for the ranges such that none of the given numbers is an address in them. Each number
rules out at most one place, so there is one among the first few. -/
def freeOrigin (numbers : List Int) : Nat :=
  let free := fun (origin : Nat) =>
    numbers.all fun n => n < origin || (origin + kinds * span : Nat) ≤ n
  (((List.range (numbers.length + 1)).map originAt).find? free).getD (originAt 0)

end Code

namespace LibraryLoader

/-- The functions of all loaded libraries, in load order. -/
def exports (l : LibraryLoader) : List Export := l.loaded.flatMap (·.2)

/-- The code of a symbol, in the loaded libraries first. -/
def code? (l : LibraryLoader) (name : String) : Option Code :=
  match l.find? name with
  | some (.exported _) => (l.exports.findIdx? (·.name == symbolName name)).map .exported
  | some (.process name) => some (.process name)
  | none => none

end LibraryLoader

end CallEngine
