import CallEngine.Foreign.Declaration
import CallEngine.Foreign.Native
import CallEngine.Interrupt
import CallEngine.Literal
import CallEngine.Table

/-!
# Scripts

A script drives an engine from outside: it opens and closes frames, calls functions, raises
interrupts and works on the registries. The bodies of hosted functions are scripts too, so that
instructions and functions are defined together.
-/

namespace CallEngine

namespace Script

/-- The frame that an instruction works on. -/
inductive FrameRef where
  | named (name : String)
  /-- The frame of the running function. -/
  | own
deriving Repr, DecidableEq

/-- A value that an instruction is given. -/
inductive Operand where
  | literal (value : Literal)
  /-- An argument of a frame. -/
  | arg (frame : FrameRef) (index : Nat)
  /-- The first reported value. -/
  | primary
  | reported (index : Nat)
  /-- The address of a trampoline's code. -/
  | code (trampoline : String)
deriving Repr, DecidableEq

/-- A list of values that an instruction is given. -/
inductive Operands where
  | series (values : Series Operand)
  /-- All arguments of a frame. -/
  | args (frame : FrameRef)
deriving Repr, DecidableEq

/-- An instruction to one context that runs nothing else. -/
inductive ContextAction where
  | openFrame (argc : Nat) (binding : Option String)
  | openFrameWith (args : Operands) (binding : Option String)
  | close (frame : FrameRef)
  | activate (frame : FrameRef)
  | frameState (frame : FrameRef)
  | arg (frame : FrameRef) (index : Nat)
  | setArg (frame : FrameRef) (index : Nat) (value : Operand)
  | args (frame : FrameRef)
  | setValues (values : Operands)
  | setValue (value : Operand)
  | clearValues
  | primary
  | value (index : Nat)
  | values
  | safePoint
  | raise (kind : InterruptKind)
  | trap (trap : Trap)
  /-- Make an interrupt pending from outside the context's thread. -/
  | post (kind : InterruptKind)
  /-- Report the sum of all arguments of a frame. -/
  | sumArgs (frame : FrameRef)
  | signal (message : String)
  /-- Describe the context and its operand stack. -/
  | describe
deriving Repr, DecidableEq

/-- An instruction to the engine that runs nothing else. -/
inductive EngineAction where
  | newContext
  | dropContext (number : Nat)
  | shutdown
  | isShutDown
  | activeContexts
  | interruptContext (id : Nat)
  | registerPackage (name : String) (package : Handle)
  | findPackage (name : String)
  | removePackage (name : String)
  | pushHandler (handler : Handle)
  | popHandler
  | registry
  | isHeld
  | newTable
  | table (index : Nat) (op : TableOp)
  /-- Make a native function, or the null address, known under a name. -/
  | registerSymbol (name : String) (native : Option Native)
  | resolve (name : String)
  | loadLibrary (name : String)
  | consoleOwner
  | consoleInterrupt
  | takeError (trampoline : String)
  | events
  | clearEvents
deriving Repr, DecidableEq

/-- What a foreign callee calls. -/
inductive ForeignTarget where
  | native (function : Native)
  | trampoline (name : String)
  | symbol (name : String)
deriving Repr, DecidableEq

mutual

/-- An instruction: the context it is meant for where none is at hand, whether a failure
of it is passed over inside a function, and what is to be done. -/
inductive Instruction where
  | mk (context : Option Nat) (tolerant : Bool) (action : Action)

/-- What an instruction does. -/
inductive Action where
  | onContext (action : ContextAction)
  | onEngine (action : EngineAction)
  | withoutInterrupts (body : List Instruction)
  /-- Hold the engine's lock under one of its names. -/
  | hold (name : DomainLock) (body : List Instruction)
  | holdTable (index : Nat) (body : List Instruction)
  /-- Call, unless `depthLimit` frames are open. -/
  | funcall (callee : Callee) (args : Operands) (depthLimit : Option Nat)
  | apply (callee : Callee) (frame : FrameRef)
  /-- Make a callee callable from native code. -/
  | trampoline (name : String) (signature : Declaration) (callee : Callee)
  /-- Call the code of a trampoline with one integer. -/
  | callDirect (trampoline : String) (argument : Int)

/-- How a callee is named. -/
inductive Callee where
  /-- A function that the script defines under a name. -/
  | defined (name : String)
  | function (function : Function)
  /-- A foreign function, and the name it goes by if not its own. -/
  | foreign (target : ForeignTarget) (name : Option String) (signature : Declaration)

/-- A hosted function. It takes `minArgs` arguments up to `maxArgs`, runs its body, and returns a
fixed count or else the number of values reported in the end. -/
inductive Function where
  | mk (name : String) (minArgs : Nat) (maxArgs : Option Nat) (body : List Instruction)
    (returns : Option Nat)

end

namespace Instruction

def context : Instruction → Option Nat
  | mk context _ _ => context

def tolerant : Instruction → Bool
  | mk _ tolerant _ => tolerant

def action : Instruction → Action
  | mk _ _ action => action

end Instruction

namespace Function

def name : Function → String
  | mk name _ _ _ _ => name

def minArgs : Function → Nat
  | mk _ minArgs _ _ _ => minArgs

def maxArgs : Function → Option Nat
  | mk _ _ maxArgs _ _ => maxArgs

def body : Function → List Instruction
  | mk _ _ _ body _ => body

def returns : Function → Option Nat
  | mk _ _ _ _ returns => returns

/-- How the number of arguments is described. -/
def expected (f : Function) : String :=
  match f.maxArgs with
  | some most => if most = f.minArgs then s!"exactly {most}" else s!"{f.minArgs} to {most}"
  | none => s!"at least {f.minArgs}"

/-- Whether a function takes this many arguments. -/
def accepts (f : Function) (argc : Nat) : Bool :=
  f.minArgs ≤ argc && (f.maxArgs.all (argc ≤ ·))

end Function

end Script

end CallEngine
