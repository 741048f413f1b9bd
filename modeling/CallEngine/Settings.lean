import CallEngine.Context
import CallEngine.Json
import CallEngine.Machine
import CallEngine.Path

/-!
# Settings

The settings of the engine, in four sections that may all be missing and in which everything may
be left open. What is left open has a default. A later layer of settings is laid over an earlier
one by `merge`.
-/

namespace CallEngine

/-- Limits of calls. -/
structure FrameSettings where
  smallCallThreshold : Option Nat := none
  callArgumentsLimit : Option Nat := none
  multipleValuesLimit : Option Nat := none
deriving Repr, DecidableEq

/-- The size of operand stacks. -/
structure StackSettings where
  operandStackSlots : Option Nat := none
  guardSlots : Option Nat := none
  guardPage : Option Bool := none
deriving Repr, DecidableEq

/-- Where libraries are searched, and which are loaded from the start. -/
structure ForeignSettings where
  libraryPaths : List RawPath := []
  preload : List String := []
deriving Repr, DecidableEq

/-- How interrupts are delivered. -/
structure InterruptSettings where
  signalHandlers : Option Bool := none
  deliverImmediately : Option Bool := none
deriving Repr, DecidableEq

/-- All settings of one layer. -/
structure Settings where
  frames : Option FrameSettings := none
  stack : Option StackSettings := none
  ffi : Option ForeignSettings := none
  interrupts : Option InterruptSettings := none
deriving Repr, DecidableEq

/-- Why settings were refused. -/
inductive SettingsError where
  | notFound (path : String)
  | io (error : IoError)
  | syntaxError (file : String)
  | invalidValue (field reason : String)
deriving Repr, DecidableEq

/-- The name of the kind of error. -/
def SettingsError.kind : SettingsError → String
  | notFound _ => "NotFound"
  | io _ => "IoError"
  | syntaxError _ => "TomlParseError"
  | invalidValue _ _ => "InvalidValue"

def SettingsError.message : SettingsError → String
  | notFound path => s!"Configuration file not found: {path}"
  | io error => s!"Failed to read configuration file: {error.name}"
  | syntaxError file => s!"Invalid TOML syntax in {file}"
  | invalidValue field reason => s!"Invalid value for '{field}': {reason}"

namespace Settings

/-! ## Effective values -/

def smallCallThreshold (s : Settings) : Nat := (s.frames.bind (·.smallCallThreshold)).getD 64

def callArgumentsLimit (s : Settings) : Nat := (s.frames.bind (·.callArgumentsLimit)).getD 65536

def multipleValuesLimit (s : Settings) : Nat := (s.frames.bind (·.multipleValuesLimit)).getD 64

def operandStackSlots (s : Settings) : Nat := (s.stack.bind (·.operandStackSlots)).getD 131072

def guardSlots (s : Settings) : Nat := (s.stack.bind (·.guardSlots)).getD 1024

def guardPage (s : Settings) : Bool := (s.stack.bind (·.guardPage)).getD true

def libraryPaths (s : Settings) : List RawPath := (s.ffi.map (·.libraryPaths)).getD []

def preload (s : Settings) : List String := (s.ffi.map (·.preload)).getD []

def signalHandlers (s : Settings) : Bool := (s.interrupts.bind (·.signalHandlers)).getD false

def deliverImmediately (s : Settings) : Bool :=
  (s.interrupts.bind (·.deliverImmediately)).getD false

/-- The limits that contexts are created with. -/
def limits (s : Settings) : ContextLimits where
  smallCallThreshold := s.smallCallThreshold
  callArgumentsLimit := s.callArgumentsLimit
  multipleValuesLimit := s.multipleValuesLimit
  operandStackSlots := s.operandStackSlots
  guardSlots := s.guardSlots
  guardPage := s.guardPage
  deliverImmediately := s.deliverImmediately

/-- Refuse a field unless a condition holds. -/
def require (condition : Bool) (field reason : String) : Except SettingsError Unit :=
  if condition then .ok () else .error (.invalidValue field reason)

/-- Check that the effective values fit each other. -/
def validate (s : Settings) : Except SettingsError Unit := do
  let positive := "must be greater than zero"
  require (0 < s.smallCallThreshold) "frames.small_call_threshold" positive
  require (0 < s.callArgumentsLimit) "frames.call_arguments_limit" positive
  require (0 < s.multipleValuesLimit) "frames.multiple_values_limit" positive
  require (0 < s.operandStackSlots) "stack.operand_stack_slots" positive
  require (s.smallCallThreshold ≤ s.multipleValuesLimit) "frames.small_call_threshold"
    s!"threshold {s.smallCallThreshold} exceeds multiple_values_limit {s.multipleValuesLimit}"
  require (s.smallCallThreshold ≤ s.callArgumentsLimit) "frames.small_call_threshold"
    s!"threshold {s.smallCallThreshold} exceeds call_arguments_limit {s.callArgumentsLimit}"
  require (s.guardSlots < s.operandStackSlots) "stack.guard_slots"
    (s!"guard area {s.guardSlots} must be smaller than the stack " ++
      s!"({s.operandStackSlots} slots)")
  let usable := s.operandStackSlots - s.guardSlots
  require (s.callArgumentsLimit ≤ usable) "frames.call_arguments_limit"
    (s!"limit {s.callArgumentsLimit} exceeds the {usable} operand stack slots " ++
      "below the guard area")

/-! ## Layers -/

/-- Lay an optional section over another one. -/
def mergeSection {α : Type} (initial : α) (lay : α → α → α) (earlier later : Option α) :
    Option α :=
  match later with
  | none => earlier
  | some later => some (lay (earlier.getD initial) later)

/-- Append the names that are not there yet, one after the other. -/
def addMissing (names : List String) : List String → List String
  | [] => names
  | name :: rest =>
    addMissing (if names.contains name then names else names ++ [name]) rest

/-- Lay later settings over earlier ones. What the later ones set wins; their library paths come
first, and their preloaded libraries are added to the earlier ones. -/
def merge (earlier later : Settings) : Settings where
  frames := mergeSection {} (fun a b =>
    { smallCallThreshold := b.smallCallThreshold <|> a.smallCallThreshold
      callArgumentsLimit := b.callArgumentsLimit <|> a.callArgumentsLimit
      multipleValuesLimit := b.multipleValuesLimit <|> a.multipleValuesLimit })
    earlier.frames later.frames
  stack := mergeSection {} (fun a b =>
    { operandStackSlots := b.operandStackSlots <|> a.operandStackSlots
      guardSlots := b.guardSlots <|> a.guardSlots
      guardPage := b.guardPage <|> a.guardPage })
    earlier.stack later.stack
  ffi := mergeSection {} (fun a b =>
    { libraryPaths := b.libraryPaths ++ a.libraryPaths
      preload := addMissing a.preload b.preload })
    earlier.ffi later.ffi
  interrupts := mergeSection {} (fun a b =>
    { signalHandlers := b.signalHandlers <|> a.signalHandlers
      deliverImmediately := b.deliverImmediately <|> a.deliverImmediately })
    earlier.interrupts later.interrupts

end Settings

end CallEngine
