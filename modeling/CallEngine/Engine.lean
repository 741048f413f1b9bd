import CallEngine.Call
import CallEngine.Engine.Code

/-!
# The engine

What the contexts of one engine share: settings, heap, native memory, the log of events, the
registries behind the lock, and the contexts themselves.

A context is created in several steps, and between any two of them other threads may do something.
It is registered under the next id, what was created is recorded, the console may go to it, and it
gets its channel of values. The last step may fail when the context is registered already. A context
is dropped in several steps too. Contexts are numbered from zero in the order in which they were
registered.
-/

namespace CallEngine

/-- The state of an engine. -/
structure Engine where
  machine : Machine
  settings : Settings := {}
  files : FileSystem := {}
  heap : Heap := {}
  memory : Memory := Native.memory
  /-- Where the addresses of code start. -/
  codeOrigin : Nat := Code.originAt 0
  /-- Whether events are kept. -/
  recording : Bool := true
  /-- The events kept so far, the latest first. -/
  log : List Event := []
  locks : HeldLocks := {}
  packages : List (String × Handle) := []
  /-- The error handlers, the innermost first. -/
  handlers : List Handle := []
  symbols : SymbolTable := {}
  libraries : LibraryLoader
  /-- The id that the next context gets. -/
  nextContext : Nat := 1
  /-- The ids of the registered contexts. -/
  registered : List Nat := []
  /-- The contexts by number. A context is in its place as soon as it is registered, and interrupts
  reach it there. One that was dropped leaves a gap. -/
  contexts : Array (Option Context) := #[]
  isShutDown : Bool := false
  /-- The id of the context that console interrupts go to. -/
  consoleOwner : Option Nat := none
  /-- The numbers of the contexts inside foreign calls, the innermost first. -/
  entered : List Nat := []

/-- An operation on an engine. -/
abbrev EngineOp (α : Type) := Op Engine EngineError α

namespace Engine

/-! ## Events -/

/-- Keep an event, if events are kept. -/
def note (event : Event) (e : Engine) : Engine :=
  if e.recording then { e with log := event :: e.log } else e

/-- Keep an event. -/
def record (event : Event) : EngineOp Unit := Op.modify (note event)

/-- The events kept so far, in order. -/
def events (e : Engine) : List Event := e.log.reverse

/-! ## Contexts -/

/-- A context by number. -/
def context? (e : Engine) (number : Nat) : Option Context := e.contexts[number]?.join

/-- Go on with a context. -/
def inPlace {α : Type} (number : Nat) (next : Context → EngineOp α) : EngineOp α := fun e =>
  match e.context? number with
  | none => .failed (.signalled s!"unknown context {number}") e
  | some c => next c e

/-- Put a context back after an operation, and collect what is in its journal. -/
def putContext (e : Engine) (number : Nat) (c : Context) : Engine :=
  c.journal.reverse.foldl (fun e event => e.note event)
    { e with contexts := e.contexts.setIfInBounds number (some { c with journal := [] }) }

/-- Run an operation on a context. -/
def onContext {α : Type} (number : Nat) (op : ContextOp EngineError α) : EngineOp α := fun e =>
  match e.context? number with
  | none => .failed (.signalled s!"unknown context {number}") e
  | some c => (op c).mapState (e.putContext number)

/-- The operations of one context inside the engine. -/
def within (number : Nat) : Within Engine := ⟨onContext number⟩

/-! ## Locks -/

/-- The engine's own lock domain. -/
def domain : Nat := 0

/-- Take the engine's lock under one of its names. -/
def take (name : DomainLock) : EngineOp Unit := fun e =>
  match e.locks.acquire domain name with
  | .ok locks => .done () { e with locks }
  | .error error => .failed (.lock error) e

/-- Give the engine's lock back. -/
def giveBack : EngineOp Unit := Op.modify fun e => { e with locks := e.locks.release domain }

/-- The record of a refused lock, if it was refused because of the order of locks. -/
def noteViolation (error : LockError) (e : Engine) : Engine :=
  match error with
  | .orderViolation held requested => e.note (.lockOrderViolation held.text requested.text)
  | .reentrant _ => e

/-- Take the engine's lock; a violation of the lock order is recorded. -/
def takeChecked (name : DomainLock) : EngineOp Unit := fun e =>
  match take name e with
  | .failed (.lock error) e => .failed (.lock error) (e.noteViolation error)
  | outcome => outcome

/-- Run an operation under the engine's lock. -/
def locked {α : Type} (name : DomainLock) (op : EngineOp α) : EngineOp α := do
  takeChecked name
  op.thenAlways giveBack

/-! ## The life of contexts -/

/-- Register a new context on a stack that was created for it; the result is its number. -/
def register (limits : ContextLimits) (stack : OperandStack) : EngineOp Nat := do
  let e ← Op.get
  if e.isShutDown then Op.fail .shutDown
  Op.modify fun e =>
    { e with
      nextContext := e.nextContext + 1
      registered := e.registered ++ [e.nextContext]
      contexts := e.contexts.push (some (.unfinished e.nextContext limits stack)) }
  return e.contexts.size

/-- Start the creation of a context; the result is its number. -/
def startContext : EngineOp Nat := do
  let e ← Op.get
  let limits := e.settings.limits
  let stack ←
    (OperandStack.create e.machine limits.operandStackSlots limits.guardSlots
      limits.guardPage).mapError .os
  locked .global (register limits stack)

/-- Record that a context is created. -/
def announceContext (number : Nat) : EngineOp Unit :=
  inPlace number fun c => record (.contextCreated c.id c.stack.capacity)

/-- Record that the guard of a context is installed. -/
def announceGuard (number : Nat) : EngineOp Unit :=
  inPlace number fun c =>
    record (.guardInstalled c.id c.stack.guardSlots c.stack.region.guarded)

/-- Let console interrupts go to a context unless another one has them. -/
def routeConsole (id : Nat) (e : Engine) : Engine :=
  if e.settings.signalHandlers && e.consoleOwner.isNone then { e with consoleOwner := some id }
  else e

/-- Let console interrupts go to a context in its place. -/
def routeContext (number : Nat) : EngineOp Unit :=
  inPlace number fun c => Op.modify (routeConsole c.id)

/-- Put something into the place of a context. -/
def setPlace (number : Nat) (place : Option Context) (e : Engine) : Engine :=
  { e with contexts := e.contexts.setIfInBounds number place }

/-- Give a context its channel of values; the result is its id. If there can be no such channel, the
context is gone, and stays registered. -/
def finishContext (number : Nat) : EngineOp Nat :=
  inPlace number fun c => do
    Op.modify (setPlace number none)
    let values ← ValueChannel.create (← Op.get).settings.limits.multipleValuesLimit
    Op.modify (setPlace number (some { c with values }))
    return c.id

/-- Create a context; the result is its id. -/
def createContext : EngineOp Nat := do
  let number ← startContext
  announceContext number
  announceGuard number
  routeContext number
  finishContext number

/-- Hand the console over from a context that is gone to the oldest one that is registered. -/
def moveConsole (id : Nat) (e : Engine) : Engine :=
  if e.consoleOwner = some id then { e with consoleOwner := e.registered.min? } else e

/-- Record that the guard of a context is removed. -/
def announceRemoval (number : Nat) : EngineOp Unit :=
  inPlace number fun c => record (.guardRemoved c.id)

/-- Record that a context is destroyed. -/
def announceEnd (number : Nat) : EngineOp Unit :=
  inPlace number fun c => record (.contextDestroyed c.id)

/-- Take a context off the registry. That its lock is refused is fatal. -/
def unregister (number : Nat) : EngineOp Unit :=
  inPlace number fun c => do
    match ← (takeChecked .global).attempt with
    | .error error => Op.fatal s!"cannot unregister context {c.id}: {error.message}"
    | .ok () =>
      Op.modify fun e => { setPlace number none e with registered := e.registered.erase c.id }
      Op.modify (moveConsole c.id)
      giveBack

/-- Drop a context; one that is gone stays so. -/
def dropContext (number : Nat) : EngineOp Unit := do
  if ((← Op.get).context? number).isSome then
    announceRemoval number
    announceEnd number
    unregister number

/-- Accept no more contexts. Refused while one is registered. -/
def shutdown : EngineOp Unit := do
  locked .global do
    let e ← Op.get
    if e.registered.isEmpty then Op.modify fun e => { e with isShutDown := true }
    else Op.fail (.contextsActive e.registered.length)
  Op.modify fun e => { e with consoleOwner := none }

/-- The number of registered contexts. -/
def activeContexts : EngineOp Nat := locked .global (Op.gets (·.registered.length))

/-- Make a user interrupt pending on the context with an id, if it is in its place. -/
def postUser (id : Nat) (e : Engine) : Engine :=
  { e with
    contexts := e.contexts.map fun slot =>
      slot.map fun c => if c.id = id then c.post .user else c }

/-- Interrupt the context with an id; false if there is none. -/
def interruptContext (id : Nat) : EngineOp Bool :=
  locked .global do
    if (← Op.get).registered.contains id then
      Op.modify (postUser id)
      record (.interruptPosted id InterruptKind.user.name)
      return true
    else return false

/-- Interrupt from the console; false if nobody is to receive it. -/
def consoleInterrupt : EngineOp Bool := do
  match (← Op.get).consoleOwner with
  | some id =>
    Op.modify (postUser id)
    return true
  | none => return false

end Engine

end CallEngine
