import CallEngine.Event
import CallEngine.Interrupt
import CallEngine.OperandStack
import CallEngine.Outcome
import CallEngine.ValueChannel

/-!
# Execution contexts

A context owns an operand stack, a channel of reported values, the chain of open frames and the
state of interrupt delivery. All operations of a call work on these four parts: opening and
closing frames, reading and writing arguments, reporting values and passing safe points.

An operation that has to be recorded puts an event into the journal of the context; whoever runs
the operation collects it from there.
-/

namespace CallEngine

/-- The limits a context is created with. -/
structure ContextLimits where
  /-- Frames with fewer arguments than this keep them in the buffer of reported values. -/
  smallCallThreshold : Nat
  callArgumentsLimit : Nat
  multipleValuesLimit : Nat
  operandStackSlots : Nat
  guardSlots : Nat
  guardPage : Bool
  deliverImmediately : Bool
deriving Repr, DecidableEq

/-- The state of one thread of execution. -/
structure Context where
  id : Nat
  smallCallThreshold : Nat
  callArgumentsLimit : Nat
  stack : OperandStack
  values : ValueChannel
  /-- The open frames, the outermost first. -/
  frames : Array FrameRecord := #[]
  nextSerial : Nat := 0
  guard : InterruptGuard
  bufferFrames : Nat := 0
  stackFrames : Nat := 0
  /-- Events not collected yet, the latest first. -/
  journal : List Event := []
deriving Repr

/-- An operation on a context. -/
abbrev ContextOp (ε α : Type) := Op Context ε α

namespace Context

variable {ε : Type}

/-- A context on a given stack, before it has a channel of values. -/
def unfinished (id : Nat) (limits : ContextLimits) (stack : OperandStack) : Context where
  id
  smallCallThreshold := limits.smallCallThreshold
  callArgumentsLimit := limits.callArgumentsLimit
  stack
  values := { slots := #[] }
  guard := { deliverImmediately := limits.deliverImmediately }

/-- A context with no frames on a given stack. -/
def create (id : Nat) (limits : ContextLimits) (stack : OperandStack) : Context :=
  { unfinished id limits stack with values := .blank limits.multipleValuesLimit }

/-- How a context is named in messages. -/
def text (c : Context) : String := s!"context {c.id}"

/-- The number of open frames. -/
def depth (c : Context) : Nat := c.frames.size

/-- Put an event into the journal. -/
def log (event : Event) : ContextOp ε Unit :=
  Op.modify fun c => { c with journal := event :: c.journal }

/-! ## Frames -/

/-- Add a frame to the chain. -/
def pushFrame (mark argc : Nat) (base : FrameBase) : ContextOp ε Frame :=
  Op.change fun c =>
    ({ index := c.frames.size, serial := c.nextSerial, argc, base, epoch := c.values.epoch },
      { c with
        nextSerial := c.nextSerial + 1
        frames := c.frames.push ⟨c.nextSerial, .opened, mark⟩ })

/-- Open a frame in the buffer of reported values. -/
def openBuffer (argc : Nat) : ContextOp ε Frame := do
  Op.modify fun c =>
    { c with values := c.values.beginFrame argc, bufferFrames := c.bufferFrames + 1 }
  let c ← Op.get
  pushFrame c.stack.top argc .values

/-- What becomes of a refused reservation. A first overflow is an error that can be handled; one
during recovery, or one beyond the real end, is fatal. -/
def stackExhausted (refusal : StackExhausted) : ContextOp FrameError Frame := do
  let c ← Op.get
  match refusal with
  | .overflow requested available =>
    match c.guard.signalFault .stackOverflow with
    | .error double => Op.fatal double.message
    | .ok guard =>
      Op.modify fun c => { c with guard }
      log (.stackOverflow c.id requested available)
      Op.fail (.stackOverflow requested available)
  | .exhausted requested available =>
    Op.fatal (s!"operand stack exhausted on {c.text}: requested {requested} slots " ++
      s!"with {available} left in the safety area")

/-- Run an operation on the operand stack. -/
def onStack {δ α : Type} (op : Op OperandStack δ α) : ContextOp δ α := fun c =>
  (op c.stack).mapState fun stack => { c with stack }

/-- Open a frame on the operand stack. -/
def openStack (argc : Nat) : ContextOp FrameError Frame := do
  let c ← Op.get
  match ← (onStack (OperandStack.reserve argc)).attempt with
  | .error refusal => stackExhausted refusal
  | .ok offset =>
    Op.modify fun c => { c with stackFrames := c.stackFrames + 1 }
    pushFrame c.stack.top argc (.stack offset)

/-- Open a frame for `argc` arguments, all nil. -/
def openFrame (argc : Nat) : ContextOp FrameError Frame := do
  let c ← Op.get
  if c.callArgumentsLimit < argc then Op.fail (.tooManyArguments argc c.callArgumentsLimit)
  else if argc < c.smallCallThreshold then openBuffer argc
  else openStack argc

/-- Read a slot of a frame. -/
def readSlot (c : Context) (f : Frame) (index : Nat) : Value :=
  match f.base with
  | .values => c.values.slot index
  | .stack offset => (c.stack.get? (offset + index)).getD .nil

/-- Write a slot of a frame. -/
def writeSlot (f : Frame) (index : Nat) (value : Value) (c : Context) : Context :=
  match f.base with
  | .values => { c with values := c.values.setSlot index value }
  | .stack offset => { c with stack := (c.stack.set (offset + index) value).2 }

/-- Write consecutive slots of a frame from `index` on. -/
def writeSlots (f : Frame) (index : Nat) : List Value → Context → Context
  | [], c => c
  | v :: rest, c => writeSlots f (index + 1) rest (writeSlot f index v c)

/-- Open a frame that holds `args`. -/
def openFrameWith (args : List Value) : ContextOp FrameError Frame := do
  let f ← openFrame args.length
  Op.modify (writeSlots f 0 args)
  return f

/-- The record of an open frame. -/
def record? (c : Context) (f : Frame) : Option FrameRecord :=
  c.frames[f.index]?.filter (·.serial == f.serial)

/-- End the recovery from a stack overflow once usage is back below the logical end. -/
def settleStack (c : Context) : Context :=
  let stack := c.stack.settle.2
  { c with stack, guard := if stack.safetyOpen then c.guard else c.guard.recoverStack }

/-- Take the innermost frame off the chain and give up its slots. -/
def popFrame (f : Frame) (record : FrameRecord) (c : Context) : Context :=
  let c := { c with frames := c.frames.pop }
  match f.base with
  | .values => c
  | .stack _ => { c with stack := (c.stack.releaseTo record.stackMark).2 }

/-- Close the innermost frame. Closing any other frame, or one that is closed, is fatal. -/
def closeFrame (f : Frame) : ContextOp ε Unit := do
  let c ← Op.get
  match c.record? f with
  | none => Op.fatal s!"frame {f.serial} closed twice on {c.text}"
  | some record =>
    if f.index + 1 = c.depth then Op.modify fun c => (popFrame f record c).settleStack
    else
      let inner := c.depth - f.index - 1
      Op.fatal s!"frame {f.serial} closed with {inner} inner frames still open on {c.text}"

/-- Mark a frame as running its callee. -/
def activate (f : Frame) : ContextOp FrameError Unit := do
  let c ← Op.get
  match c.record? f with
  | none => Op.fail (.closed f.serial)
  | some record =>
    Op.modify fun c =>
      { c with frames := c.frames.setIfInBounds f.index { record with state := .active } }

/-- The state of a frame. -/
def frameState (c : Context) (f : Frame) : FrameState :=
  match c.record? f with
  | some record => record.state
  | none => .closed

/-- Whether slot `index` of a frame may be read and written. -/
def checkAccess (c : Context) (f : Frame) (index : Nat) : Except FrameError Unit :=
  if (c.record? f).isNone then .error (.closed f.serial)
  else if f.argc ≤ index then .error (.argumentIndex index f.argc)
  else if f.isBufferBacked && f.epoch != c.values.epoch then .error (.stale f.serial)
  else .ok ()

/-- An argument of a frame. -/
def arg (c : Context) (f : Frame) (index : Nat) : Except FrameError Value :=
  (c.checkAccess f index).map fun _ => c.readSlot f index

/-- Store an argument of a frame. -/
def setArg (f : Frame) (index : Nat) (value : Value) : ContextOp FrameError Unit := do
  let c ← Op.get
  Op.ofExcept (c.checkAccess f index)
  Op.modify (writeSlot f index value)

/-- All arguments of a frame. -/
def args (c : Context) (f : Frame) : Except FrameError (List Value) :=
  if f.argc = 0 then
    if (c.record? f).isNone then .error (.closed f.serial) else .ok []
  else (c.checkAccess f 0).map fun _ => (List.range f.argc).map (c.readSlot f)

/-! ## Reported values -/

/-- Report values; the result is their number. -/
def setValues (values : List Value) : ContextOp FrameError Nat := do
  let c ← Op.get
  let channel ← Op.ofExcept (c.values.set values)
  Op.modify fun c => { c with values := channel }
  return values.length

/-- Report one value. -/
def setValue (value : Value) : ContextOp ε Nat := do
  Op.modify fun c => { c with values := c.values.setSingle value }
  return 1

/-- Report no value. -/
def clearValues : ContextOp ε Nat := do
  Op.modify fun c => { c with values := c.values.clear }
  return 0

/-! ## Interrupts -/

/-- Record a delivery and turn it into the condition it is handled as. -/
def deliver {α : Type} (kind : InterruptKind) : ContextOp Condition α := do
  let c ← Op.get
  log (.interruptDelivered c.id kind.name)
  Op.fail (.ofKind kind)

/-- Deliver the most urgent pending interrupt, if delivery is enabled. -/
def safePoint : ContextOp Condition Unit := do
  Op.modify settleStack
  let c ← Op.get
  let (taken, guard) := c.guard.poll
  Op.modify fun c => { c with guard }
  match taken with
  | some kind => deliver kind
  | none => return ()

/-- Raise an interrupt on the context's own thread. -/
def raiseInterrupt (kind : InterruptKind) : ContextOp Condition Unit := do
  let c ← Op.get
  let (taken, guard) := c.guard.raise kind
  Op.modify fun c => { c with guard }
  match taken with
  | some kind => deliver kind
  | none =>
    if guard.isDisabled then log (.interruptDeferred c.id kind.name)
    else log (.interruptPosted c.id kind.name)

/-- Record an arithmetic trap. One taken while another fault is in flight is fatal. -/
def signalTrap (trap : Trap) : ContextOp Condition Unit := do
  let c ← Op.get
  match c.guard.signalFault (.arithmetic trap) with
  | .error double => Op.fatal double.message
  | .ok guard =>
    Op.modify fun c => { c with guard }
    if guard.deliverImmediately then safePoint else return ()

/-- Make an interrupt pending from outside the context's thread. -/
def post (kind : InterruptKind) (c : Context) : Context := { c with guard := c.guard.post kind }

/-- Open a region without interrupts. Each open region is a computation that has not returned yet, and
no native stack has room for more of them than the word of the guard can count. -/
def disableInterrupts (c : Context) : Context := { c with guard := c.guard.deepen }

/-- Close a region without interrupts. -/
def enableInterrupts (c : Context) : Context := { c with guard := c.guard.enable }

end Context

end CallEngine
