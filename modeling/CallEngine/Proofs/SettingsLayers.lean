import CallEngine.Proofs.Creation
import CallEngine.Proofs.Refusal
import CallEngine.Settings.Layers
import Mathlib.Control.Monad.Basic

/-!
# Which layers of settings are accepted

Settings are laid over each other: the file of the user, the file of the project and the
environment, which is shown to be a layer like the others. What is loaded is what the three layers
make together, and it is loaded exactly if that passes the check and each of the two files passes
it by itself. So settings that fit each other are still refused if one of the files does not fit
without the other layers. The environment is only checked as a part of the whole.
-/

namespace CallEngine.Settings

variable {fs : FileSystem} {env : Environment} {path : String}
  {s layer base project overrides : Settings}

/-! ## Layers -/

/-- The text of a file is read as this layer. Nothing is said about its values. -/
def FileHolds (fs : FileSystem) (path : String) (layer : Settings) : Prop :=
  ∃ text, readText fs path = .ok text ∧ ofToml? text = some layer

/-- The layer of the user. A missing file leaves everything open. -/
inductive UserHolds (fs : FileSystem) (path : String) : Settings → Prop
  | missing (hmissing : fs.exists? path = false) : UserHolds fs path {}
  | file {layer : Settings} (hexists : fs.exists? path = true) (hfile : FileHolds fs path layer) :
    UserHolds fs path layer

/-- The layer of the project, and the nearest directory that has a file for it. -/
inductive ProjectHolds (fs : FileSystem) (dir : String) : Option String → Settings → Prop
  | missing
    (hmissing : ∀ d ∈ dir :: Path.parents dir, fs.exists? (Path.join d projectFile) = false) :
    ProjectHolds fs dir none {}
  | file {inner outer : List String} {root : String} {layer : Settings}
    (hdirs : dir :: Path.parents dir = inner ++ root :: outer)
    (hinner : ∀ d ∈ inner, fs.exists? (Path.join d projectFile) = false)
    (hexists : fs.exists? (Path.join root projectFile) = true)
    (hfile : FileHolds fs (Path.join root projectFile) layer) :
    ProjectHolds fs dir (some root) layer

/-! ## The environment -/

/-- Limits of calls, which are there if one of them is set. -/
def framesOf (smallCallThreshold callArgumentsLimit multipleValuesLimit : Option Nat) :
    Option FrameSettings :=
  if (smallCallThreshold <|> callArgumentsLimit <|> multipleValuesLimit).isSome then
    some { smallCallThreshold, callArgumentsLimit, multipleValuesLimit }
  else none

/-- The size of operand stacks, which is there if a part of it is set. -/
def stackOf (operandStackSlots guardSlots : Option Nat) : Option StackSettings :=
  if (operandStackSlots <|> guardSlots).isSome then some { operandStackSlots, guardSlots } else none

/-- The library paths of the environment. -/
def foreignOf (env : Environment) : Option ForeignSettings :=
  (env.lookup "KILN_LIBRARY_PATH").map fun paths => { libraryPaths := splitPaths paths }

/-- What the environment says about signal handlers. -/
def interruptsOf (env : Environment) : Option InterruptSettings :=
  (variableText? env "KILN_SIGNAL_HANDLERS").map fun text =>
    { signalHandlers := some (["true", "1", "yes"].contains text.toLower) }

/-- The environment as a layer. Its numbers have to be numbers. -/
def ofEnvironment (env : Environment) : Except SettingsError Settings := do
  let threshold ← variableNumber? env "KILN_SMALL_CALL_THRESHOLD"
  let arguments ← variableNumber? env "KILN_CALL_ARGUMENTS_LIMIT"
  let values ← variableNumber? env "KILN_MULTIPLE_VALUES_LIMIT"
  let slots ← variableNumber? env "KILN_OPERAND_STACK_SLOTS"
  let guardSlots ← variableNumber? env "KILN_GUARD_SLOTS"
  return {
    frames := framesOf threshold arguments values
    stack := stackOf slots guardSlots
    ffi := foreignOf env
    interrupts := interruptsOf env }

/-- A variable that can be read overrides a number if it is set. -/
theorem overrideNumber_eq (env : Environment) (name : String) (put : Nat → Settings → Settings)
    (s : Settings) :
    overrideNumber env name put s = (variableNumber? env name).map fun n => n.elim s (put · s) := by
  unfold overrideNumber
  cases variableNumber? env name with
  | error e => rfl
  | ok n => cases n <;> rfl

/-- Limits of calls that are overridden as a layer are overridden one by one. -/
theorem merge_frames (threshold arguments values : Option Nat) (s : Settings) :
    s.merge { frames := framesOf threshold arguments values } =
      let s := threshold.elim s fun n =>
        s.withFrames fun f => { f with smallCallThreshold := some n }
      let s := arguments.elim s fun n =>
        s.withFrames fun f => { f with callArgumentsLimit := some n }
      values.elim s fun n => s.withFrames fun f => { f with multipleValuesLimit := some n } := by
  cases threshold <;> cases arguments <;> cases values <;> rfl

/-- The size of operand stacks that is overridden as a layer is overridden part by part. -/
theorem merge_stack (slots guardSlots : Option Nat) (s : Settings) :
    s.merge { stack := stackOf slots guardSlots } =
      let s := slots.elim s fun n => s.withStack fun k => { k with operandStackSlots := some n }
      guardSlots.elim s fun n => s.withStack fun k => { k with guardSlots := some n } := by
  cases slots <;> cases guardSlots <;> rfl

/-- Library paths and signal handlers are overridden as a layer. -/
theorem merge_names (env : Environment) (s : Settings) :
    s.merge { ffi := foreignOf env, interrupts := interruptsOf env } =
      overrideHandlers env (overridePaths env s) := by
  unfold overrideHandlers overridePaths foreignOf interruptsOf
  cases env.lookup "KILN_LIBRARY_PATH" <;> cases variableText? env "KILN_SIGNAL_HANDLERS" <;> rfl

/-- The environment is a layer over all others. -/
theorem applyEnvironment_eq (env : Environment) (s : Settings) :
    applyEnvironment env s = (ofEnvironment env).map s.merge := by
  unfold applyEnvironment ofEnvironment
  simp only [overrideNumber_eq]
  generalize variableNumber? env "KILN_SMALL_CALL_THRESHOLD" = threshold,
    variableNumber? env "KILN_CALL_ARGUMENTS_LIMIT" = arguments,
    variableNumber? env "KILN_MULTIPLE_VALUES_LIMIT" = values,
    variableNumber? env "KILN_OPERAND_STACK_SLOTS" = slots,
    variableNumber? env "KILN_GUARD_SLOTS" = guardSlots
  -- The first variable that cannot be read decides both sides.
  obtain _ | threshold := threshold
  · rfl
  obtain _ | arguments := arguments
  · rfl
  obtain _ | values := values
  · rfl
  obtain _ | slots := slots
  · rfl
  obtain _ | guardSlots := guardSlots
  · rfl
  change _ = Except.ok (((s.merge { frames := framesOf threshold arguments values }).merge
    { stack := stackOf slots guardSlots }).merge
      { ffi := foreignOf env, interrupts := interruptsOf env })
  rw [merge_names, merge_stack, merge_frames]
  rfl

/-! ## Checks -/

/-- Settings that leave everything open pass the check. -/
theorem open_valid : ({} : Settings).Valid := validate_eq_ok.mp rfl

/-- What follows a check is reached if the check succeeds. -/
theorem validate_bind_eq_ok {α : Type} {result expected : α} :
    (do s.validate; return result : Except SettingsError α) = .ok expected ↔
      s.Valid ∧ expected = result := by
  rw [bind_eq_ok, ← validate_eq_ok]
  constructor
  · rintro ⟨_, hvalid, hresult⟩
    exact ⟨hvalid, (Except.ok.inj hresult).symm⟩
  · rintro ⟨hvalid, rfl⟩
    exact ⟨(), hvalid, rfl⟩

/-- A file is loaded if its layer passes the check. -/
theorem FileHolds.loadFile_eq_ok (h : FileHolds fs path layer) :
    loadFile fs path = .ok s ↔ layer.Valid ∧ s = layer := by
  obtain ⟨text, htext, hlayer⟩ := h
  have hload : loadFile fs path = (do layer.validate; return layer) := by
    rw [loadFile, htext]
    change parse path text = _
    rw [parse, hlayer]
  rw [hload, validate_bind_eq_ok]

/-- The settings of the user are loaded if they pass the check. -/
theorem UserHolds.loadUser_eq_ok (h : UserHolds fs path layer) :
    loadUser fs path = .ok s ↔ layer.Valid ∧ s = layer := by
  rw [loadUser]
  cases h with
  | missing hmissing =>
    rw [hmissing, if_neg Bool.false_ne_true, Except.ok.injEq, eq_comm]
    exact ⟨fun hopen => ⟨open_valid, hopen⟩, And.right⟩
  | file hexists hfile =>
    rw [hexists, if_pos rfl]
    exact hfile.loadFile_eq_ok

/-- The settings of the project are loaded if they pass the check. -/
theorem ProjectHolds.findProject_eq_ok {dir : String} {root : Option String}
    (h : ProjectHolds fs dir root layer) {found : Option String × Settings} :
    findProject fs dir = .ok found ↔ layer.Valid ∧ found = (root, layer) := by
  rw [findProject]
  cases h with
  | missing hmissing =>
    rw [List.find?_eq_none.mpr fun d hd => by rw [hmissing d hd]; exact Bool.false_ne_true]
    rw [Except.ok.injEq, eq_comm]
    exact ⟨fun hfound => ⟨open_valid, hfound⟩, And.right⟩
  | @file inner outer root _ hdirs hinner hexists hfile =>
    have hnearest : (dir :: Path.parents dir).find?
        (fun d => fs.exists? (Path.join d projectFile)) = some root := by
      rw [List.find?_eq_some_iff_append]
      exact ⟨hexists, inner, outer, hdirs, fun d hd => by rw [hinner d hd]; rfl⟩
    rw [hnearest]
    dsimp only
    rw [map_eq_ok]
    constructor
    · rintro ⟨loaded, hloaded, rfl⟩
      obtain ⟨hvalid, rfl⟩ := hfile.loadFile_eq_ok.mp hloaded
      exact ⟨hvalid, rfl⟩
    · rintro ⟨hvalid, rfl⟩
      exact ⟨layer, hfile.loadFile_eq_ok.mpr ⟨hvalid, rfl⟩, rfl⟩

/-! ## All layers -/

/-- The settings that the three layers make together. -/
def layered (base project overrides : Settings) : Settings := (base.merge project).merge overrides

/-- The layers pass every check: each file by itself, and all layers together. -/
structure Accepted (base project overrides : Settings) : Prop where
  user : base.Valid
  file : project.Valid
  whole : (layered base project overrides).Valid

/-- A project that was loaded is laid over the user's settings and under the environment, if the
former pass the check and so does the whole. -/
theorem combine_eq_ok (huser : UserHolds fs path base) (henv : ofEnvironment env = .ok overrides) :
    combine fs path env project = .ok s ↔
      base.Valid ∧ (layered base project overrides).Valid ∧ s = layered base project overrides := by
  have hrest : (do
      let settings ← applyEnvironment env (base.merge project)
      settings.validate
      return settings) = .ok s ↔
        (layered base project overrides).Valid ∧ s = layered base project overrides := by
    rw [applyEnvironment_eq, henv]
    exact validate_bind_eq_ok
  rw [combine, bind_eq_ok, ← hrest]
  constructor
  · rintro ⟨_, hloaded, hs⟩
    obtain ⟨hvalid, rfl⟩ := huser.loadUser_eq_ok.mp hloaded
    exact ⟨hvalid, hs⟩
  · rintro ⟨hvalid, hs⟩
    exact ⟨base, huser.loadUser_eq_ok.mpr ⟨hvalid, rfl⟩, hs⟩

/-- The layers are loaded for a project whose own layer has passed the check. -/
theorem load_project_eq_ok (huser : UserHolds fs path base)
    (henv : ofEnvironment env = .ok overrides) {root : Option String} {loaded : ProjectSettings} :
    (do
      let settings ← combine fs path env project
      return { settings, projectRoot := root }) = Except.ok (ε := SettingsError) loaded ∧
        project.Valid ↔
      Accepted base project overrides ∧ loaded = ⟨layered base project overrides, root⟩ := by
  rw [bind_eq_ok]
  constructor
  · rintro ⟨⟨_, hcombined, hloaded⟩, hproject⟩
    obtain ⟨hbase, hwhole, rfl⟩ := (combine_eq_ok huser henv).mp hcombined
    exact ⟨⟨hbase, hproject, hwhole⟩, (Except.ok.inj hloaded).symm⟩
  · rintro ⟨⟨hbase, hproject, hwhole⟩, rfl⟩
    exact ⟨⟨_, (combine_eq_ok huser henv).mpr ⟨hbase, hwhole, rfl⟩, rfl⟩, hproject⟩

/-- Settings are loaded, in a directory or for a given file, exactly if the layers pass every
check, and then they are what the layers make together. -/
theorem loads_iff_accepted (huser : UserHolds fs path base)
    (henv : ofEnvironment env = .ok overrides) (loaded : ProjectSettings) :
    (∀ dir root project, ProjectHolds fs dir root project →
      (loadFromDirectory fs path env dir = .ok loaded ↔
        Accepted base project overrides ∧ loaded = ⟨layered base project overrides, root⟩)) ∧
    ∀ file project, FileHolds fs file project →
      (loadFromFile fs path env file = .ok loaded ↔
        Accepted base project overrides ∧
          loaded = ⟨layered base project overrides, Path.parent? file⟩) := by
  constructor
  · intro dir root project hproject
    rw [loadFromDirectory, bind_eq_ok, ← load_project_eq_ok huser henv]
    constructor
    · rintro ⟨found, hfound, hloaded⟩
      obtain ⟨hvalid, rfl⟩ := hproject.findProject_eq_ok.mp hfound
      exact ⟨hloaded, hvalid⟩
    · rintro ⟨hloaded, hvalid⟩
      exact ⟨_, hproject.findProject_eq_ok.mpr ⟨hvalid, rfl⟩, hloaded⟩
  · intro file project hproject
    rw [loadFromFile, bind_eq_ok, ← load_project_eq_ok huser henv]
    constructor
    · rintro ⟨found, hfound, hloaded⟩
      obtain ⟨hvalid, rfl⟩ := hproject.loadFile_eq_ok.mp hfound
      exact ⟨hloaded, hvalid⟩
    · rintro ⟨hloaded, hvalid⟩
      exact ⟨_, hproject.loadFile_eq_ok.mpr ⟨hvalid, rfl⟩, hloaded⟩

/-- Room for many values. -/
def wide : Settings := { frames := some { multipleValuesLimit := some 128 } }

def wideText : String := "[frames]\nmultiple_values_limit = 128\n"

/-- A threshold that needs room for many values. -/
def large : Settings := { frames := some { smallCallThreshold := some 100 } }

def largeText : String := "[frames]\nsmall_call_threshold = 100\n"

/-- The user asks for room for many values, and a project for nothing in particular. -/
def nested : FileSystem where
  nodes :=
    [(["user.toml"], .file wideText.toUTF8.toList),
      (["work", "kiln.toml"], .file "[frames]\n".toUTF8.toList)]

/-- A threshold that needs room for many values is accepted from the environment, though it does not
pass the check by itself. The project is found in the directory above. -/
theorem nested_loads :
    ¬ large.Valid ∧
    loadFromDirectory nested "/user.toml" [("KILN_SMALL_CALL_THRESHOLD", " +100".toUTF8.toList)]
      "/work/deep" = .ok ⟨{ frames := some ⟨some 100, none, some 128⟩ }, some "/work"⟩ := by
  have huser : UserHolds nested "/user.toml" wide :=
    .file (by decide +kernel) ⟨wideText, by decide +kernel, by decide +kernel⟩
  have hdirs : "/work/deep" :: Path.parents "/work/deep" = ["/work/deep"] ++ "/work" :: ["/"] := by
    decide +kernel
  have hproject : ProjectHolds nested "/work/deep" (some "/work") { frames := some {} } :=
    .file hdirs (by decide +kernel) (by decide +kernel)
      ⟨"[frames]\n", by decide +kernel, by decide +kernel⟩
  have henv : ofEnvironment [("KILN_SMALL_CALL_THRESHOLD", " +100".toUTF8.toList)] = .ok large := by
    decide +kernel
  have haccepted : Accepted wide { frames := some {} } large :=
    ⟨validate_eq_ok.mp rfl, validate_eq_ok.mp rfl, validate_eq_ok.mp rfl⟩
  refine ⟨fun hvalid => absurd hvalid.threshold_le_values (by decide), ?_⟩
  exact ((loads_iff_accepted huser henv _).1 _ _ _ hproject).mpr ⟨haccepted, rfl⟩

/-- The user asks for room for many values, and the project for a threshold that needs it. -/
def spread : FileSystem where
  nodes :=
    [(["user.toml"], .file wideText.toUTF8.toList), (["kiln.toml"], .file largeText.toUTF8.toList)]

/-- Settings that fit each other are refused when they are spread over both files. -/
theorem spread_refused :
    UserHolds spread "/user.toml" wide ∧ ProjectHolds spread "/" (some "/") large ∧
    FileHolds spread "/kiln.toml" large ∧ ofEnvironment [] = .ok {} ∧
    (layered wide large {}).validate = .ok () ∧
    loadFromDirectory spread "/user.toml" [] "/" =
      .error (.invalidValue "frames.small_call_threshold"
        "threshold 100 exceeds multiple_values_limit 64") ∧
    loadFromFile spread "/user.toml" [] "/kiln.toml" =
      .error (.invalidValue "frames.small_call_threshold"
        "threshold 100 exceeds multiple_values_limit 64") := by
  have huser : FileHolds spread "/user.toml" wide :=
    ⟨wideText, by decide +kernel, by decide +kernel⟩
  have hfile : FileHolds spread "/kiln.toml" large :=
    ⟨largeText, by decide +kernel, by decide +kernel⟩
  have hdirs : "/" :: Path.parents "/" = [] ++ "/" :: [] := by decide +kernel
  have hproject : ProjectHolds spread "/" (some "/") large :=
    .file hdirs (by decide +kernel) (by decide +kernel) hfile
  exact ⟨.file (by decide +kernel) huser, hproject, hfile, rfl, rfl, by decide +kernel,
    by decide +kernel⟩

end CallEngine.Settings
