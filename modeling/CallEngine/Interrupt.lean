import CallEngine.Binary.Power
import CallEngine.Outcome

/-!
# Interrupts and faults

Interrupts never run where they are raised. They are kept as bits of a pending word and taken at a
safe point, arithmetic traps before user interrupts and in a fixed order, unless delivery is
disabled. Faults are tracked beside them: at most one may be in flight.
-/

namespace CallEngine

/-- An arithmetic trap. -/
inductive Trap where
  | divisionByZero
  | floatingOverflow
  | floatingUnderflow
  | floatingInvalid
  | floatingInexact
deriving Repr, DecidableEq

namespace Trap

/-- Every trap, the most urgent first. -/
def all : List Trap :=
  [divisionByZero, floatingOverflow, floatingUnderflow, floatingInvalid, floatingInexact]

def name : Trap → String
  | divisionByZero => "division-by-zero"
  | floatingOverflow => "floating-point-overflow"
  | floatingUnderflow => "floating-point-underflow"
  | floatingInvalid => "floating-point-invalid-operation"
  | floatingInexact => "floating-point-inexact"

def index : Trap → Nat
  | divisionByZero => 0
  | floatingOverflow => 1
  | floatingUnderflow => 2
  | floatingInvalid => 3
  | floatingInexact => 4

end Trap

/-- An interrupt that can be pending. -/
inductive InterruptKind where
  /-- Sent from outside: by another thread or from the console. -/
  | user
  | arithmetic (trap : Trap)
deriving Repr, DecidableEq

namespace InterruptKind

def name : InterruptKind → String
  | user => "user interrupt"
  | arithmetic trap => trap.name

/-- The position of a kind's bit in the pending word. -/
def position : InterruptKind → Nat
  | user => 0
  | arithmetic trap => trap.index + 1

end InterruptKind

/-- The word of pending interrupts. -/
structure PendingWord where
  bits : BitVec 32 := 0
deriving Repr, DecidableEq

namespace PendingWord

def insert (w : PendingWord) (kind : InterruptKind) : PendingWord :=
  ⟨w.bits ||| BitVec.twoPow 32 kind.position⟩

def erase (w : PendingWord) (kind : InterruptKind) : PendingWord :=
  ⟨w.bits &&& ~~~BitVec.twoPow 32 kind.position⟩

def contains (w : PendingWord) (kind : InterruptKind) : Bool := w.bits.getLsbD kind.position

def isEmpty (w : PendingWord) : Bool := w.bits == 0

/-- The most urgent pending interrupt: the first pending trap, else the user interrupt. -/
def first? (w : PendingWord) : Option InterruptKind :=
  if w.isEmpty then none
  else some (((Trap.all.map .arithmetic).find? w.contains).getD .user)

end PendingWord

/-- A fault on the running thread. -/
inductive Fault where
  | stackOverflow
  | arithmetic (trap : Trap)
deriving Repr, DecidableEq

def Fault.name : Fault → String
  | stackOverflow => "stack overflow"
  | arithmetic trap => trap.name

/-- A fault raised while another one is in flight. -/
structure DoubleFault where
  first : Fault
  second : Fault
deriving Repr, DecidableEq

def DoubleFault.message (d : DoubleFault) : String :=
  s!"{d.second.name} while recovering from {d.first.name}"

/-- A delivered interrupt. -/
inductive Condition where
  | interrupt
  | arithmetic (trap : Trap)
deriving Repr, DecidableEq

namespace Condition

/-- The name of the kind of condition. -/
def kind : Condition → String
  | interrupt => "Interrupt"
  | arithmetic _ => "Arithmetic"

def message : Condition → String
  | interrupt => "Interactive interrupt"
  | arithmetic trap => s!"Arithmetic error: {trap.name}"

def ofKind : InterruptKind → Condition
  | .user => interrupt
  | .arithmetic trap => arithmetic trap

end Condition

/-- The delivery state of one context. -/
structure InterruptGuard where
  deliverImmediately : Bool := false
  pending : PendingWord := {}
  /-- How many regions without interrupts are open. -/
  disabled : Nat := 0
  faultInFlight : Option Fault := none
deriving Repr, DecidableEq

namespace InterruptGuard

def isDisabled (g : InterruptGuard) : Bool := 0 < g.disabled

/-- Make an interrupt pending. -/
def post (g : InterruptGuard) (kind : InterruptKind) : InterruptGuard :=
  { g with pending := g.pending.insert kind }

/-- The most urgent pending interrupt, whether or not it could be delivered. -/
def peek (g : InterruptGuard) : Option InterruptKind := g.pending.first?

/-- Remove an interrupt, and the fault that it is the delivery of. -/
def take (g : InterruptGuard) (kind : InterruptKind) : InterruptGuard :=
  { g with
    pending := g.pending.erase kind
    faultInFlight :=
      match kind with
      | .user => g.faultInFlight
      | .arithmetic trap =>
        if g.faultInFlight = some (.arithmetic trap) then none else g.faultInFlight }

/-- Take the most urgent pending interrupt if delivery is enabled. -/
def poll (g : InterruptGuard) : Option InterruptKind × InterruptGuard :=
  if g.isDisabled then (none, g)
  else
    match g.peek with
    | none => (none, g)
    | some kind => (some kind, g.take kind)

/-- Make an interrupt pending, and take the most urgent one if delivery is immediate. -/
def raise (g : InterruptGuard) (kind : InterruptKind) : Option InterruptKind × InterruptGuard :=
  if g.deliverImmediately then (g.post kind).poll else (none, g.post kind)

/-- Count one more region. -/
def deepen (g : InterruptGuard) : InterruptGuard := { g with disabled := g.disabled + 1 }

/-- Open a region without interrupts. The regions are counted by a word, and the program stops
rather than count more of them. -/
def disable : Op InterruptGuard Empty Unit := do
  let g ← Op.get
  if twoPow 32 ≤ g.disabled + 1 then Op.panic .arithmetic
  Op.modify deepen

/-- Close one region; there may be none to close. -/
def enable (g : InterruptGuard) : InterruptGuard := { g with disabled := g.disabled - 1 }

/-- Record a fault; an arithmetic one becomes pending as well. -/
def signalFault (g : InterruptGuard) (fault : Fault) : Except DoubleFault InterruptGuard :=
  match g.faultInFlight with
  | some first => .error ⟨first, fault⟩
  | none =>
    let g := { g with faultInFlight := some fault }
    match fault with
    | .stackOverflow => .ok g
    | .arithmetic trap => .ok (g.post (.arithmetic trap))

/-- The stack has recovered from an overflow. -/
def recoverStack (g : InterruptGuard) : InterruptGuard :=
  if g.faultInFlight = some .stackOverflow then { g with faultInFlight := none } else g

end InterruptGuard

end CallEngine
