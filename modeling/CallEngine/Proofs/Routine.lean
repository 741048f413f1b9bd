import CallEngine.Call
import Mathlib.Logic.Relation

/-!
# Programs over a context

A routine is any finite program that works on one context: it opens, fills and closes frames,
reports values, passes safe points, calls other routines and runs regions without interrupts. What
it does next may depend on every answer so far and on everything it can read off the context.

A frame is a copyable name, and a program may keep the name of a frame that was closed long ago. It
cannot make one up, though, and a name belongs to the context that gave it out. So routines name
frames by serial number, and a history beside the context knows which frame each serial number was
given to. The history also keeps what was stored and reported, for stating what a context has to
answer. It is never read by an operation of the context.
-/

namespace CallEngine

/-- Something that happened on a context. -/
inductive Entry where
  /-- A frame was opened for these arguments. -/
  | opened (f : Frame) (args : List Value)
  /-- An argument of a frame was stored. -/
  | stored (f : Frame) (index : Nat) (value : Value)
  /-- Values were reported. -/
  | reported (values : List Value)

/-- What happened on a context, the latest first. -/
abbrev History := List Entry

namespace History

/-- The frames that were ever opened, the latest first. -/
def issued : History → List Frame
  | [] => []
  | .opened f _ :: earlier => f :: issued earlier
  | .stored _ _ _ :: earlier => issued earlier
  | .reported _ :: earlier => issued earlier

/-- The frame that was opened with a serial number. -/
def frame? (h : History) (serial : Nat) : Option Frame := h.issued.find? (·.serial == serial)

end History

/-- A context with its history. -/
structure Tracked where
  context : Context
  history : History := []

namespace Tracked

/-- The operations of the context. -/
def within : Within Tracked :=
  ⟨fun op s => (op s.context).mapState fun context => { s with context }⟩

/-- Add an entry to the history. -/
def note (entry : Entry) : Op Tracked EngineError Unit :=
  Op.modify fun s => { s with history := entry :: s.history }

/-- Open a frame that holds `args`, and enter it into the history. -/
def opening (op : ContextOp FrameError Frame) (args : List Value) : Op Tracked EngineError Frame := do
  let f ← within.frame op
  note (.opened f args)
  return f

/-- Open a frame for `argc` arguments, all nil. -/
def openFrame (argc : Nat) : Op Tracked EngineError Frame :=
  opening (Context.openFrame argc) (List.replicate argc .nil)

/-- Open a frame that holds `args`. -/
def openFrameWith (args : List Value) : Op Tracked EngineError Frame :=
  opening (Context.openFrameWith args) args

/-- Do something with the frame of a serial number. If none was opened yet, there is no such frame
to be named, and nothing is done. -/
def onFrame {α : Type} (serial : Nat) (nothing : α) (op : Frame → Op Tracked EngineError α) :
    Op Tracked EngineError α := fun s =>
  match s.history.frame? serial with
  | some f => op f s
  | none => .done nothing s

/-- Call a callee with arguments. The frame of the call is known from the moment the callee runs. -/
def funcall (callee : Frame → Op Tracked EngineError Nat) (args : List Value) :
    Op Tracked EngineError Nat :=
  within.funcall (fun f => do note (.opened f args); callee f) args

end Tracked

/-- One use of a context that runs nothing else. Frames are named by serial number. -/
inductive Request where
  | openFrame (argc : Nat)
  | openFrameWith (args : List Value)
  | activate (serial : Nat)
  | setArg (serial index : Nat) (value : Value)
  | closeFrame (serial : Nat)
  | setValues (values : List Value)
  | setValue (value : Value)
  | clearValues
  | safePoint
  | raiseInterrupt (kind : InterruptKind)
  | signalTrap (trap : Trap)
  /-- Make an interrupt pending from outside the context's thread. -/
  | post (kind : InterruptKind)

namespace Request

open Tracked

/-- Carry out a request, and enter what it changed into the history. -/
def run : Request → Op Tracked EngineError Unit
  | openFrame argc => do let _ ← Tracked.openFrame argc
  | openFrameWith args => do let _ ← Tracked.openFrameWith args
  | activate serial => onFrame serial () fun f => within.frame (Context.activate f)
  | setArg serial index value => onFrame serial () fun f => do
    within.frame (Context.setArg f index value)
    note (.stored f index value)
  | closeFrame serial => onFrame serial () fun f => within.run (Context.closeFrame f)
  | setValues values => do
    let _ ← within.frame (Context.setValues values)
    note (.reported values)
  | setValue value => do
    let _ ← within.run (Context.setValue value)
    note (.reported [value])
  | clearValues => do
    let _ ← within.run Context.clearValues
    note (.reported [])
  | safePoint => within.safePoint
  | raiseInterrupt kind => within.run ((Context.raiseInterrupt kind).mapError .condition)
  | signalTrap trap => within.run ((Context.signalTrap trap).mapError .condition)
  | post kind => within.run (Op.modify (Context.post kind))

end Request

/-- A finite program over a context. Every way to go on is given the answer to what was done last
and the context as it is then. -/
inductive Routine where
  /-- Return a number of values, or fail. -/
  | finish (result : Except EngineError Nat)
  | request (request : Request) (next : Except EngineError Unit → Context → Routine)
  /-- Call another routine with arguments. -/
  | funcall (callee : Frame → Routine) (args : List Value)
    (next : Except EngineError Nat → Context → Routine)
  /-- Run another routine on a frame that was opened before. -/
  | apply (callee : Frame → Routine) (serial : Nat)
    (next : Except EngineError Nat → Context → Routine)
  | withoutInterrupts (body : Routine) (next : Except EngineError Nat → Context → Routine)

namespace Routine

open Tracked

/-- Run a routine on a context. -/
def run : Routine → Op Tracked EngineError Nat
  | finish result => Op.ofExcept result
  | request q next => do
    let answer ← q.run.attempt
    (next answer (← Op.get).context).run
  | funcall callee args next => do
    let answer ← (Tracked.funcall (fun f => (callee f).run) args).attempt
    (next answer (← Op.get).context).run
  | apply callee serial next => do
    let answer ← (onFrame serial 0 (within.apply fun f => (callee f).run)).attempt
    (next answer (← Op.get).context).run
  | withoutInterrupts body next => do
    let answer ← (within.withoutInterrupts body.run).attempt
    (next answer (← Op.get).context).run

end Routine

namespace Tracked

/-- What can happen to a context between two moments at which it is looked at: a routine has run on
it, or a region without interrupts was opened or closed. A moment within a call is the end of a
shorter routine, which has opened and activated the frame of the call and done a part of the callee;
one within a region comes after the region was opened. -/
inductive Step : Tracked → Tracked → Prop
  | routine {s : Tracked} (r : Routine) (hreturns : (r.run s).isFatal = false) :
    Step s (r.run s).state
  | disable {s : Tracked} : Step s { s with context := s.context.disableInterrupts }
  | enable {s : Tracked} : Step s { s with context := s.context.enableInterrupts }

/-- A state of a context and one that it is in later. -/
abbrev Later : Tracked → Tracked → Prop := Relation.ReflTransGen Step

/-- A context that was just created, on whatever machine, from settings that fit each other. -/
structure Created (settings : Settings) (s : Tracked) : Prop where
  valid : settings.validate = .ok ()
  context : ∃ machine id stack,
    OperandStack.create machine settings.operandStackSlots settings.guardSlots settings.guardPage
        () = .done stack () ∧ s.context = .create id settings.limits stack
  history : s.history = []

/-- A state in which a context that was created from these settings can be. -/
def Reachable (settings : Settings) (s : Tracked) : Prop :=
  ∃ first, Created settings first ∧ Later first s

end Tracked

end CallEngine
