import CallEngine.Binary.Power
import CallEngine.FileSystem
import CallEngine.Settings.Document

/-!
# Layers of settings

The settings in force are those of the user, overlaid with those of the project, overlaid with the
environment. The project's file is looked for in a directory and in all directories above it.
-/

namespace CallEngine

/-- Environment variables and their values in bytes. -/
abbrev Environment := List (String × List UInt8)

/-- Settings in force, and the directory of the project they come from. -/
structure ProjectSettings where
  settings : Settings
  projectRoot : Option String
deriving Repr, DecidableEq

namespace Settings

/-- The name of a project's settings file. -/
def projectFile : String := "kiln.toml"

/-- The user's settings file below the home directory. -/
def userFile (home : String) : String := Path.join (Path.join home ".kiln") "config.toml"

/-- The content of a file as text. -/
def readText (fs : FileSystem) (path : String) : Except SettingsError String :=
  match fs.lookup path with
  | .ok (.file content) =>
    match Text.ofUtf8? content with
    | some text => .ok text
    | none => .error (.io .invalidData)
  | .ok (.library _) => .error (.io .invalidData)
  | .ok .directory => .error (.io .isADirectory)
  | .error .notFound => .error (.notFound path)
  | .error (.refused error) => .error (.io error)

/-- Read and check a settings file. -/
def loadFile (fs : FileSystem) (path : String) : Except SettingsError Settings := do
  parse path (← readText fs path)

/-- Look for the project's file in a directory and all directories above it. -/
def findProject (fs : FileSystem) (dir : String) :
    Except SettingsError (Option String × Settings) :=
  match (dir :: Path.parents dir).find? fun d => fs.exists? (Path.join d projectFile) with
  | some root => (loadFile fs (Path.join root projectFile)).map fun s => (some root, s)
  | none => .ok (none, {})

/-- The user's settings; a missing file leaves everything open. -/
def loadUser (fs : FileSystem) (path : String) : Except SettingsError Settings :=
  if fs.exists? path then loadFile fs path else .ok {}

/-! ## The environment -/

/-- Characters that are trimmed from both ends of a number. -/
def isBlank (c : Char) : Bool :=
  let n := c.toNat
  (0x9 ≤ n && n ≤ 0xd) || n == 0x20 || n == 0x85 || n == 0xa0 || n == 0x1680 ||
    (0x2000 ≤ n && n ≤ 0x200a) || n == 0x2028 || n == 0x2029 || n == 0x202f || n == 0x205f ||
    n == 0x3000

/-- A text without the blanks at its ends. -/
def trim (cs : List Char) : List Char :=
  ((cs.dropWhile isBlank).reverse.dropWhile isBlank).reverse

/-- Read decimal digits after a number read so far, within 64 bits. The first character that is
no digit, or that leads out of the range, decides what is wrong. -/
def readDigits (n : Nat) : List Char → Except String Nat
  | [] => .ok n
  | c :: rest =>
    if !c.isDigit then .error "invalid digit found in string"
    else
      let n := 10 * n + (c.toNat - '0'.toNat)
      if twoPow 64 ≤ n then .error "number too large to fit in target type" else readDigits n rest

/-- Read an unsigned number, which may have a plus sign. -/
def readNumber (cs : List Char) : Except String Nat :=
  match cs with
  | [] => .error "cannot parse integer from empty string"
  | ['+'] => .error "invalid digit found in string"
  | '+' :: rest => readDigits 0 rest
  | _ => readDigits 0 cs

/-- A variable's text; one that is not UTF-8 counts as not set. -/
def variableText? (env : Environment) (name : String) : Option String :=
  (env.lookup name).bind Text.ofUtf8?

/-- A variable that is to be a number. -/
def variableNumber? (env : Environment) (name : String) : Except SettingsError (Option Nat) :=
  match variableText? env name with
  | none => .ok none
  | some raw =>
    match readNumber (trim raw.toList) with
    | .ok n => .ok (some n)
    | .error e => .error (.invalidValue name s!"'{raw}' is not a non-negative integer: {e}")

/-- The directories in a list separated by colons; empty ones are dropped. -/
def splitPaths (bytes : List UInt8) : List RawPath :=
  ((bytes.splitOn 58).filter (!·.isEmpty)).map RawPath.mk

/-- Change the limits of calls, which are there afterwards. -/
def withFrames (change : FrameSettings → FrameSettings) (s : Settings) : Settings :=
  { s with frames := some (change (s.frames.getD {})) }

/-- Change the size of operand stacks, which is there afterwards. -/
def withStack (change : StackSettings → StackSettings) (s : Settings) : Settings :=
  { s with stack := some (change (s.stack.getD {})) }

/-- Change the foreign section, which is there afterwards. -/
def withForeign (change : ForeignSettings → ForeignSettings) (s : Settings) : Settings :=
  { s with ffi := some (change (s.ffi.getD {})) }

/-- Change the interrupt section, which is there afterwards. -/
def withInterrupts (change : InterruptSettings → InterruptSettings) (s : Settings) : Settings :=
  { s with interrupts := some (change (s.interrupts.getD {})) }

/-- Let a variable that is set override a number. -/
def overrideNumber (env : Environment) (name : String) (put : Nat → Settings → Settings)
    (s : Settings) : Except SettingsError Settings := do
  match ← variableNumber? env name with
  | some n => return put n s
  | none => return s

/-- Let library paths of the environment come before the ones that are there. -/
def overridePaths (env : Environment) (s : Settings) : Settings :=
  match env.lookup "KILN_LIBRARY_PATH" with
  | some paths =>
    s.withForeign fun f => { f with libraryPaths := splitPaths paths ++ f.libraryPaths }
  | none => s

/-- Let the environment decide on signal handlers. -/
def overrideHandlers (env : Environment) (s : Settings) : Settings :=
  match variableText? env "KILN_SIGNAL_HANDLERS" with
  | some text =>
    s.withInterrupts fun i =>
      { i with signalHandlers := some (["true", "1", "yes"].contains text.toLower) }
  | none => s

/-- Let the variables that are set override settings, one after the other. -/
def applyEnvironment (env : Environment) (s : Settings) : Except SettingsError Settings := do
  let s ← overrideNumber env "KILN_SMALL_CALL_THRESHOLD"
    (fun n => withFrames fun f => { f with smallCallThreshold := some n }) s
  let s ← overrideNumber env "KILN_CALL_ARGUMENTS_LIMIT"
    (fun n => withFrames fun f => { f with callArgumentsLimit := some n }) s
  let s ← overrideNumber env "KILN_MULTIPLE_VALUES_LIMIT"
    (fun n => withFrames fun f => { f with multipleValuesLimit := some n }) s
  let s ← overrideNumber env "KILN_OPERAND_STACK_SLOTS"
    (fun n => withStack fun k => { k with operandStackSlots := some n }) s
  let s ← overrideNumber env "KILN_GUARD_SLOTS"
    (fun n => withStack fun k => { k with guardSlots := some n }) s
  return overrideHandlers env (overridePaths env s)

/-! ## All layers -/

/-- Lay the project over the user's settings and the environment over both, and check the whole. -/
def combine (fs : FileSystem) (user : String) (env : Environment) (project : Settings) :
    Except SettingsError Settings := do
  let base ← loadUser fs user
  let settings ← applyEnvironment env (base.merge project)
  settings.validate
  return settings

/-- The settings in force in a directory. -/
def loadFromDirectory (fs : FileSystem) (user : String) (env : Environment) (dir : String) :
    Except SettingsError ProjectSettings := do
  let (projectRoot, project) ← findProject fs dir
  return { settings := ← combine fs user env project, projectRoot }

/-- The settings in force for a given project file. -/
def loadFromFile (fs : FileSystem) (user : String) (env : Environment) (path : String) :
    Except SettingsError ProjectSettings := do
  let project ← loadFile fs path
  return { settings := ← combine fs user env project, projectRoot := Path.parent? path }

end Settings

end CallEngine
