import CallEngine.Script.Session

/-!
# Simple instructions

The instructions that run no other ones: those to one context, and those to the engine.
-/

namespace CallEngine

namespace Script

namespace Session

/-- The sum of fixnums, modulo the width of a machine word. -/
def sum (total : Int64) : List Value → Except EngineError Int64
  | [] => .ok total
  | .fixnum n :: rest => sum (total + n) rest
  | other :: _ => .error (.wrongType "fixnum" other.typeName)

/-- Carry out an instruction to a context. -/
def onContext (scope : Scope) (number : Nat) : ContextAction → SessionOp Answer
  | .openFrame argc binding => do
    let f ← c.frame (Context.openFrame argc)
    bindFrame binding f
    return .frame f
  | .openFrameWith args binding => do
    let args ← operands scope number args
    let f ← c.frame (Context.openFrameWith args)
    bindFrame binding f
    return .frame f
  | .close ref => do
    let f ← frame scope ref
    c.run (Context.closeFrame f)
    return .nothing
  | .activate ref => do
    let f ← frame scope ref
    c.frame (Context.activate f)
    return .nothing
  | .frameState ref => do
    let f ← frame scope ref
    return .text (← readContext number (·.frameState f)).name
  | .arg ref index => do
    let f ← frame scope ref
    showValue (← c.frame (Op.read (·.arg f index)))
  | .setArg ref index value => do
    let value ← operand scope number value
    let f ← frame scope ref
    c.frame (Context.setArg f index value)
    return .nothing
  | .args ref => do
    let f ← frame scope ref
    showValues (← c.frame (Op.read (·.args f)))
  | .setValues values => do
    let values ← operands scope number values
    return .number (← c.frame (Context.setValues values))
  | .setValue value => do
    let value ← operand scope number value
    return .number (← c.run (Context.setValue value))
  | .clearValues => do return .number (← c.run Context.clearValues)
  | .primary => do showValue (← readContext number (·.values.primary))
  | .value index => do showValue (← readContext number (·.values.get index))
  | .values => do showValues (← readContext number (·.values.toList))
  | .safePoint => do
    c.safePoint
    return .nothing
  | .raise kind => do
    c.run ((Context.raiseInterrupt kind).mapError .condition)
    return .nothing
  | .trap trap => do
    c.run ((Context.signalTrap trap).mapError .condition)
    return .nothing
  | .post kind => do
    c.run (Op.modify (Context.post kind))
    return .flag (!(← readContext number (·.guard.pending.isEmpty)))
  | .sumArgs ref => do
    let f ← frame scope ref
    let total ← Op.ofExcept (sum 0 (← c.frame (Op.read (·.args f))))
    return .number (← c.run (Context.setValue (.fixnum total)))
  | .signal message => Op.fail (.signalled message)
  | .describe => do return .describe (← readContext number ContextSummary.ofContext)
where
  /-- The operations of the context. -/
  c : Within Session := within number

/-- Answer with what stands at a resolved entry point. -/
def resolved (name : String) (entry : EntryPoint) (s : Session) : Answer :=
  match Code.ofAddress? s.engine.codeOrigin entry with
  | some (.native function) => .native function
  | some (.exported index) =>
    match s.engine.libraries.exports[index]? with
    | some function => .found name (.exported function)
    | none => .nothing
  | some (.process symbol) => .found name (.process symbol)
  | _ => .nothing

/-- The native function at an entry point. -/
def nativeAt? (origin : Nat) (entry : EntryPoint) : Option Native :=
  match Code.ofAddress? origin entry with
  | some (.native function) => some function
  | _ => none

/-- Run one operation on a table under its lock. -/
def onTable (index : Nat) (op : TableOp) : SessionOp Answer := do
  let s ← Op.get
  match s.tables[index]? with
  | none => Op.fail (.signalled s!"unknown table {index}")
  | some table =>
    let _ ← Op.ofExcept ((s.engine.locks.acquireTable index).mapError .lock)
    let (answer, table) := op.run table
    Op.modify fun s => { s with tables := s.tables.setIfInBounds index table }
    return .entry answer

/-- Take the last error of a trampoline. -/
def takeError (name : String) : SessionOp Answer := do
  let index ← trampolineIndex name
  let error := ((← Op.get).trampolines[index]?).bind (·.lastError)
  Op.modify fun s =>
    { s with trampolines := s.trampolines.modify index fun t => { t with lastError := none } }
  return .lastError error

/-- Carry out an instruction to the engine. -/
def perform : EngineAction → SessionOp Answer
  | .newContext => do return .number (← onEngine Engine.createContext)
  | .dropContext number => do
    onEngine (Engine.dropContext number)
    return .nothing
  | .shutdown => do
    onEngine Engine.shutdown
    return .nothing
  | .isShutDown => do return .flag (← Op.get).engine.isShutDown
  | .activeContexts => do return .number (← onEngine Engine.activeContexts)
  | .interruptContext id => do return .flag (← onEngine (Engine.interruptContext id))
  | .registerPackage name package => do
    return .handle (← onEngine (Engine.registerPackage name package))
  | .findPackage name => do return .handle (← onEngine (Engine.findPackage name))
  | .removePackage name => do return .handle (← onEngine (Engine.removePackage name))
  | .pushHandler handler => do
    onEngine (Engine.pushHandler handler)
    return .nothing
  | .popHandler => do return .handle (← onEngine Engine.popHandler)
  | .registry => do
    onEngine (Engine.take .global)
    let summary := (← Op.get).engine.summary
    onEngine Engine.giveBack
    return .registry summary
  | .isHeld => do return .flag ((← Op.get).engine.locks.holds Engine.domain)
  | .newTable =>
    Op.change fun s => (.number s.tables.size, { s with tables := s.tables.push {} })
  | .table index op => onTable index op
  | .registerSymbol name native => do
    let origin := (← Op.get).engine.codeOrigin
    let entry := (native.map fun n => (Code.native n).address origin).getD 0
    let replaced ← onEngine (Engine.registerSymbol name entry)
    return .replaced (replaced.bind (nativeAt? origin))
  | .resolve name => do
    let entry ← onEngine (Engine.resolve name)
    Op.gets (resolved name entry)
  | .loadLibrary name => do return .text (← onEngine (Engine.loadLibrary name))
  | .consoleOwner => do return .console (← Op.get).engine.consoleOwner
  | .consoleInterrupt => do
    return .text (if ← onEngine Engine.consoleInterrupt then "raised" else "not routed")
  | .takeError name => takeError name
  | .events => do return .texts ((← Op.get).engine.events.map Event.text)
  | .clearEvents => do
    onEngine (Op.modify fun e => { e with log := [] })
    return .nothing

end Session

end Script

end CallEngine
