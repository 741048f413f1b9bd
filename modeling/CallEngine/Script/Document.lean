import CallEngine.Literal.Document
import CallEngine.Lock
import CallEngine.Script.Instruction
import CallEngine.Table.Document

/-!
# Scripts as documents

Reading scripts from JSON. An instruction is an object whose member `do` names what is to be done.
Instructions nest no deeper than documents do.
-/

namespace CallEngine

/-- Read a trap's name. -/
def Trap.ofName? (name : String) : Option Trap := Trap.all.find? (·.name == name)

/-- Read the short name of an interrupt. -/
def InterruptKind.ofName? (name : String) : Option InterruptKind :=
  if name == "user" then some .user else (Trap.ofName? name).map .arithmetic

namespace Script

/-- Read the frame that an object refers to, the own one by default. -/
def FrameRef.ofJson? (j : Json) : Option FrameRef := do
  match ← j.optionalAt? "frame" Json.text? with
  | none => return .own
  | some name => return if name == "self" then .own else .named name

/-- Read an operand. -/
def Operand.ofJson? (j : Json) : Option Operand :=
  match j.textAt? "t" with
  | some "arg" => do return .arg (← FrameRef.ofJson? j) (← j.naturalAt? "i")
  | some "primary" => some .primary
  | some "val" => do return .reported (← j.naturalAt? "i")
  | some "code" => do return .code (← j.textAt? "name")
  | _ => (Literal.ofJson? j).map .literal

/-- Read a list of operands. -/
def Operands.ofJson? (j : Json) : Option Operands :=
  match j.textAt? "t" with
  | some "args" => (FrameRef.ofJson? j).map .args
  | _ => (Series.ofJson? Operand.ofJson? j).map .series

def operandAt? (j : Json) (name : String) : Option Operand := do
  Operand.ofJson? (← j.get? name)

def operandsAt? (j : Json) (name : String) : Option Operands := do
  Operands.ofJson? (← j.get? name)

/-- Read an instruction to a context. -/
def ContextAction.ofJson? (j : Json) : String → Option ContextAction
  | "open" => do
    return .openFrame (← j.naturalAt? "argc") (← j.optionalAt? "as" Json.text?)
  | "open_with" => do
    return .openFrameWith (← operandsAt? j "args") (← j.optionalAt? "as" Json.text?)
  | "close" => (FrameRef.ofJson? j).map .close
  | "activate" => (FrameRef.ofJson? j).map .activate
  | "frame_state" => (FrameRef.ofJson? j).map .frameState
  | "arg" => do return .arg (← FrameRef.ofJson? j) (← j.naturalAt? "i")
  | "set_arg" => do
    return .setArg (← FrameRef.ofJson? j) (← j.naturalAt? "i") (← operandAt? j "value")
  | "args" => (FrameRef.ofJson? j).map .args
  | "set_values" => (operandsAt? j "values").map .setValues
  | "set_value" => (operandAt? j "value").map .setValue
  | "clear_values" => some .clearValues
  | "primary" => some .primary
  | "value" => (j.naturalAt? "i").map .value
  | "values" => some .values
  | "safe_point" => some .safePoint
  | "raise" => do return .raise (← InterruptKind.ofName? (← j.textAt? "kind"))
  | "trap" => do return .trap (← Trap.ofName? (← j.textAt? "trap"))
  | "post" => do return .post (← InterruptKind.ofName? (← j.textAt? "kind"))
  | "sum_args" => (FrameRef.ofJson? j).map .sumArgs
  | "signal" => (j.textAt? "message").map .signal
  | "stack" => some .describe
  | _ => none

/-- Read a native function's name. -/
def nativeOfJson? (j : Json) : Option Native := do Native.ofName? (← j.text?)

def handleAt? (j : Json) (name : String) : Option Handle := (j.naturalAt? name).map .ofNat

/-- Read an instruction to the engine. -/
def EngineAction.ofJson? (j : Json) : String → Option EngineAction
  | "new_context" => some .newContext
  | "drop_context" => (j.naturalAt? "which").map .dropContext
  | "shutdown" => some .shutdown
  | "is_shut_down" => some .isShutDown
  | "active_contexts" => some .activeContexts
  | "interrupt_context" => (j.naturalAt? "id").map .interruptContext
  | "register_package" => do return .registerPackage (← j.textAt? "name") (← handleAt? j "h")
  | "find_package" => (j.textAt? "name").map .findPackage
  | "remove_package" => (j.textAt? "name").map .removePackage
  | "push_handler" => (handleAt? j "h").map .pushHandler
  | "pop_handler" => some .popHandler
  | "registry" => some .registry
  | "is_held" => some .isHeld
  | "new_table" => some .newTable
  | "table" => do return .table (← j.naturalAt? "table") (← TableOp.ofJson? (← j.field? "op"))
  | "register_symbol" => do
    return .registerSymbol (← j.textAt? "name") (← j.optionalAt? "native" nativeOfJson?)
  | "resolve" => (j.textAt? "name").map .resolve
  | "load_library" => (j.textAt? "name").map .loadLibrary
  | "console_owner" => some .consoleOwner
  | "sigint" => some .consoleInterrupt
  | "take_error" => (j.textAt? "tramp").map .takeError
  | "events" => some .events
  | "clear_events" => some .clearEvents
  | _ => none

/-- Read a foreign callee. A symbol goes by its own name. -/
def foreignOfJson? (j : Json) : Option Callee := do
  let name ← j.optionalAt? "name" Json.text?
  let signature ← Declaration.ofJson? (← j.field? "sig")
  match j.field? "native", j.field? "tramp" with
  | some native, _ => return .foreign (.native (← nativeOfJson? native)) name signature
  | none, some trampoline => return .foreign (.trampoline (← trampoline.text?)) name signature
  | none, none => return .foreign (.symbol (← j.textAt? "symbol")) none signature

/-- Read a function whose instructions are read by `instruction?`. -/
def functionWith? (instruction? : Json → Option Instruction) (name : String) (j : Json) :
    Option Function := do
  let body ← (← j.itemsAt? "body").mapM instruction?
  return .mk name ((← j.optionalAt? "min" Json.natural?).getD 0)
    (← j.optionalAt? "max" Json.natural?) body (← j.optionalAt? "returns" Json.natural?)

/-- Read a callee: the name of a function, a function, or a foreign one. -/
def calleeWith? (instruction? : Json → Option Instruction) (j : Json) : Option Callee := do
  match j with
  | .string name => return .defined name
  | _ =>
    if (j.field? "body").isSome then
      let name := (← j.optionalAt? "name" Json.text?).getD "lambda"
      return .function (← functionWith? instruction? name j)
    else foreignOfJson? j

/-- Read the nested instructions of an instruction. -/
def bodyWith? (instruction? : Json → Option Instruction) (j : Json) :
    Option (List Instruction) := do
  let items ← j.optionalAt? "ops" Json.items?
  (items.getD []).mapM instruction?

/-- Read what an instruction does that may run other instructions. -/
def blockWith? (instruction? : Json → Option Instruction) (j : Json) : String → Option Action
  | "without_interrupts" => (bodyWith? instruction? j).map .withoutInterrupts
  | "hold_global" => (bodyWith? instruction? j).map (.hold .global)
  | "hold_package" => (bodyWith? instruction? j).map (.hold .package)
  | "hold_error_handler" => (bodyWith? instruction? j).map (.hold .errorHandler)
  | "hold_table" => do return .holdTable (← j.naturalAt? "table") (← bodyWith? instruction? j)
  | "funcall" => do
    return .funcall (← calleeWith? instruction? (← j.field? "callee")) (← operandsAt? j "args")
      (← j.optionalAt? "max_depth" Json.natural?)
  | "apply" => do
    return .apply (← calleeWith? instruction? (← j.field? "callee")) (← FrameRef.ofJson? j)
  | "trampoline" => do
    return .trampoline (← j.textAt? "as") (← Declaration.ofJson? (← j.field? "sig"))
      (← calleeWith? instruction? (← j.field? "callee"))
  | "call_direct" => do return .callDirect (← j.textAt? "tramp") (← j.integerAt? "x")
  | _ => none

/-- Read what an instruction does. -/
def actionWith? (instruction? : Json → Option Instruction) (j : Json) : Option Action := do
  let name ← j.textAt? "do"
  (ContextAction.ofJson? j name).map .onContext <|> (EngineAction.ofJson? j name).map .onEngine <|>
    blockWith? instruction? j name

/-- Read an instruction with at most this many levels below it. -/
def instructionLevel? : Nat → Json → Option Instruction
  | 0, _ => none
  | level + 1, j => do
    return .mk (← j.optionalAt? "ctx" Json.natural?) (j.flagAt "try")
      (← actionWith? (instructionLevel? level) j)

/-- Read an instruction. -/
def Instruction.ofJson? (j : Json) : Option Instruction := instructionLevel? Json.depthLimit j

/-- Read a function. -/
def Function.ofJson? (name : String) (j : Json) : Option Function :=
  functionWith? Instruction.ofJson? name j

end Script

end CallEngine
