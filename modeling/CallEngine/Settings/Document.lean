import CallEngine.Binary.Power
import CallEngine.Settings
import CallEngine.Text.Quoted
import CallEngine.Toml

/-!
# Settings as documents

Settings are written as JSON, and read from JSON or from a settings file. In a document a section
is an object with no unknown members, or an array of its fields in order. Null leaves an optional
field open.
-/

namespace CallEngine

namespace Settings

/-! ## Writing -/

/-- An object of the members that are there. -/
def objectText (members : List (String × Option String)) : String :=
  let written := members.filterMap fun (name, value) =>
    value.map fun value => Text.jsonString name ++ ":" ++ value
  "\x7b" ++ String.intercalate "," written ++ "\x7d"

def numberText (n : Option Nat) : Option String := n.map toString

def flagText (b : Option Bool) : Option String := b.map fun b => if b then "true" else "false"

/-- An array of strings; an empty one is left out. -/
def listText (items : List String) : Option String :=
  if items.isEmpty then none
  else some ("[" ++ String.intercalate "," (items.map Text.jsonString) ++ "]")

/-- The JSON text of settings, in which what is left open does not appear. There is none if a
library path is not UTF-8. -/
def jsonText? (s : Settings) : Option String := do
  let paths ← s.libraryPaths.mapM RawPath.text?
  return objectText [
    ("frames", s.frames.map fun f => objectText [
      ("small_call_threshold", numberText f.smallCallThreshold),
      ("call_arguments_limit", numberText f.callArgumentsLimit),
      ("multiple_values_limit", numberText f.multipleValuesLimit)]),
    ("stack", s.stack.map fun k => objectText [
      ("operand_stack_slots", numberText k.operandStackSlots),
      ("guard_slots", numberText k.guardSlots),
      ("guard_page", flagText k.guardPage)]),
    ("ffi", s.ffi.map fun f => objectText [
      ("library_paths", listText paths),
      ("preload", listText f.preload)]),
    ("interrupts", s.interrupts.map fun i => objectText [
      ("signal_handlers", flagText i.signalHandlers),
      ("deliver_immediately", flagText i.deliverImmediately)])]

/-! ## Reading -/

/-- The fields of a section in order, `none` for one that is missing. In an object nothing else may
stand. An array has to be long enough for the first `least` fields, and must not be longer than
all of them if `exact`. -/
def fields? (exact : Bool) (names : List String) (least : Nat) :
    Json → Option (List (Option Json))
  | .object members =>
    if members.all fun (name, _) => names.contains name then
      some (names.map fun name => Json.get? name (.object members))
    else none
  | .array items =>
    if least ≤ items.length && (!exact || items.length ≤ names.length) then
      some ((List.range names.length).map fun i => items[i]?)
    else none
  | _ => none

/-- A field that may be missing or null. -/
def optional? {α : Type} (read : Json → Option α) : Option Json → Option (Option α)
  | none => some none
  | some .null => some none
  | some document => (read document).map some

def number? : Json → Option Nat
  | .integer n => if 0 ≤ n && n < twoPow 64 then some n.toNat else none
  | _ => none

def flag? : Json → Option Bool
  | .bool b => some b
  | _ => none

def text? : Json → Option String
  | .string s => some s
  | _ => none

/-- A list of strings that may be missing, but not null. -/
def texts? : Option Json → Option (List String)
  | none => some []
  | some (.array items) => items.mapM text?
  | _ => none

def frames? (exact : Bool) (document : Json) : Option FrameSettings := do
  let names := ["small_call_threshold", "call_arguments_limit", "multiple_values_limit"]
  match ← fields? exact names 3 document with
  | [threshold, arguments, values] =>
    return {
      smallCallThreshold := ← optional? number? threshold
      callArgumentsLimit := ← optional? number? arguments
      multipleValuesLimit := ← optional? number? values }
  | _ => none

def stack? (exact : Bool) (document : Json) : Option StackSettings := do
  match ← fields? exact ["operand_stack_slots", "guard_slots", "guard_page"] 3 document with
  | [slots, guardSlots, page] =>
    return {
      operandStackSlots := ← optional? number? slots
      guardSlots := ← optional? number? guardSlots
      guardPage := ← optional? flag? page }
  | _ => none

def foreign? (exact : Bool) (document : Json) : Option ForeignSettings := do
  match ← fields? exact ["library_paths", "preload"] 0 document with
  | [paths, preload] =>
    return { libraryPaths := (← texts? paths).map .ofText, preload := ← texts? preload }
  | _ => none

def interrupts? (exact : Bool) (document : Json) : Option InterruptSettings := do
  match ← fields? exact ["signal_handlers", "deliver_immediately"] 2 document with
  | [handlers, immediately] =>
    return {
      signalHandlers := ← optional? flag? handlers
      deliverImmediately := ← optional? flag? immediately }
  | _ => none

/-- Read settings from a document. -/
def ofDocument? (exact : Bool) (document : Json) : Option Settings := do
  match ← fields? exact ["frames", "stack", "ffi", "interrupts"] 4 document with
  | [frames, stack, ffi, interrupts] =>
    return {
      frames := ← optional? (frames? exact) frames
      stack := ← optional? (stack? exact) stack
      ffi := ← optional? (foreign? exact) ffi
      interrupts := ← optional? (interrupts? exact) interrupts }
  | _ => none

/-- Read settings from JSON, where an array must not be too long. -/
def ofJson? (document : Json) : Option Settings := ofDocument? true document

/-- Read the text of a settings file, without checking the values. -/
def ofToml? (text : String) : Option Settings := do ofDocument? false (← Toml.parse? text)

/-- Read and check the text of a settings file, which is known as `file`. -/
def parse (file text : String) : Except SettingsError Settings := do
  match ofToml? text with
  | none => throw (.syntaxError file)
  | some settings =>
    settings.validate
    return settings

end Settings

end CallEngine
