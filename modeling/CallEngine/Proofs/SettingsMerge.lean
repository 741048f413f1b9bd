import CallEngine.Proofs.SettingsLayers

/-!
# Merging layers of settings

Laying settings over each other is associative, so layers make the same settings together however
they are grouped. This has to be shown for sections that may be missing and for the list of
preloaded libraries, in which a name stands once even if a layer repeats it.

What the layers make together is said setting by setting: the later layer decides where it sets
something, library paths are put in front, and new names of libraries are added at the end. The
environment is a layer whose settings are read from its variables. So what is loaded is what the
user's layer, the project's layer and the environment make together.
-/

namespace CallEngine.Settings

variable {fs : FileSystem} {env : Environment} {path : String} {s layer project whole : Settings}

/-! ## Names that are added once -/

/-- The names that are there afterwards. -/
theorem mem_addMissing {name : String} (names more : List String) :
    name ∈ addMissing names more ↔ name ∈ names ∨ name ∈ more := by
  induction more generalizing names with
  | nil => simp [addMissing]
  | cons first rest ih =>
    rw [addMissing, ih]
    by_cases hthere : names.contains first
    · rw [if_pos hthere]
      have hfirst : first ∈ names := List.contains_iff_mem.mp hthere
      grind
    · rw [if_neg hthere]
      grind

/-- Names are added one list after the other. -/
theorem addMissing_append (names first second : List String) :
    addMissing names (first ++ second) = addMissing (addMissing names first) second := by
  induction first generalizing names with
  | nil => rfl
  | cons name rest ih => exact ih _

/-- Adding a name to what is added is adding it at last. -/
theorem addMissing_addMissing_singleton (names more : List String) (name : String) :
    addMissing names (addMissing more [name]) = addMissing (addMissing names more) [name] := by
  by_cases hthere : name ∈ more
  · have hkept : addMissing more [name] = more := by simp [addMissing, hthere]
    have hadded : name ∈ addMissing names more := (mem_addMissing _ _).mpr (.inr hthere)
    rw [hkept]
    simp [addMissing, hadded]
  · have hnew : addMissing more [name] = more ++ [name] := by simp [addMissing, hthere]
    rw [hnew, addMissing_append]

/-- It does not matter which of three lists are put together first. -/
theorem addMissing_assoc (a b c : List String) :
    addMissing (addMissing a b) c = addMissing a (addMissing b c) := by
  -- Each name of the last list goes to the end of the second one, which grows by it or not.
  induction c generalizing b with
  | nil => rfl
  | cons name rest ih =>
    have hsplit (names : List String) :
        addMissing names (name :: rest) = addMissing (addMissing names [name]) rest :=
      addMissing_append names [name] rest
    rw [hsplit, hsplit, ← ih, addMissing_addMissing_singleton]

/-- The names that were not there follow in their order, each of them once. -/
theorem addMissing_eq (names more : List String) :
    addMissing names more =
      names ++ (more.filter fun name => !names.contains name).eraseDups := by
  induction more generalizing names with
  | nil => simp [addMissing]
  | cons name rest ih =>
    rw [addMissing, ih]
    by_cases hthere : names.contains name
    · simp only [hthere, if_true, List.filter_cons, Bool.not_true, Bool.false_eq_true, if_false]
    · have hrest : (rest.filter fun other => !(names ++ [name]).contains other) =
          (rest.filter fun other => !names.contains other).filter fun other => !other == name := by
        rw [List.filter_filter]
        apply List.filter_congr
        intro other _
        rw [Bool.eq_iff_iff]
        simp [and_comm]
      rw [if_neg hthere, List.filter_cons, if_pos (by simpa using hthere), List.eraseDups_cons,
        hrest, List.append_assoc, List.singleton_append]

/-! ## Sections -/

section Sections

variable {α β : Type} {initial : α} {lay : α → α → α}

/-- Sections that may be missing are laid over each other like those that are there, if an empty
section adds nothing. -/
theorem mergeSection_assoc (hassoc : ∀ a b c, lay (lay a b) c = lay a (lay b c))
    (hinitial : ∀ a, lay a initial = a) (a b c : Option α) :
    mergeSection initial lay (mergeSection initial lay a b) c =
      mergeSection initial lay a (mergeSection initial lay b c) := by
  cases c with
  | none => rfl
  | some c =>
    cases b with
    | none =>
      -- On the right the last section is laid over an empty one first.
      have hempty : lay (a.getD initial) c = lay (a.getD initial) (lay initial c) := by
        rw [← hassoc, hinitial]
      exact congrArg some hempty
    | some b => exact congrArg some (hassoc (a.getD initial) b c)

/-- A setting of two sections is the later one's if it is set there. -/
theorem mergeSection_bind {field : α → Option β} (hempty : field initial = none)
    (hlay : ∀ a b, field (lay a b) = (field b).or (field a)) (a b : Option α) :
    (mergeSection initial lay a b).bind field = (b.bind field).or (a.bind field) := by
  cases b with
  | none => rfl
  | some b =>
    cases a with
    | none => simp [mergeSection, hlay, hempty]
    | some a => simp [mergeSection, hlay]

/-- A list of two sections joins their lists. A missing section has no names. -/
theorem mergeSection_getD {names : α → List β} (join : List β → List β → List β)
    (hempty : names initial = []) (hjoin : ∀ list, join list [] = list)
    (hlay : ∀ a b, names (lay a b) = join (names a) (names b)) (a b : Option α) :
    ((mergeSection initial lay a b).map names).getD [] =
      join ((a.map names).getD []) ((b.map names).getD []) := by
  cases b with
  | none => simp [mergeSection, hjoin]
  | some b =>
    cases a with
    | none => simp [mergeSection, hlay, hempty]
    | some a => simp [mergeSection, hlay]

end Sections

/-- It does not matter which of three layers are laid over each other first. -/
theorem merge_assoc (a b c : Settings) : (a.merge b).merge c = a.merge (b.merge c) := by
  unfold merge
  congr 1
  · apply mergeSection_assoc <;> simp [Option.or_assoc]
  · apply mergeSection_assoc <;> simp [Option.or_assoc]
  · apply mergeSection_assoc
    · simp [addMissing_assoc]
    · simp [addMissing]
  · apply mergeSection_assoc <;> simp [Option.or_assoc]

/-! ## Settings one by one -/

/-- The settings that are a number or a choice. -/
inductive Key : Type → Type
  | smallCallThreshold : Key Nat
  | callArgumentsLimit : Key Nat
  | multipleValuesLimit : Key Nat
  | operandStackSlots : Key Nat
  | guardSlots : Key Nat
  | guardPage : Key Bool
  | signalHandlers : Key Bool
  | deliverImmediately : Key Bool

/-- What a layer sets, if it does not leave it open. -/
def get? {α : Type} (s : Settings) : Key α → Option α
  | .smallCallThreshold => s.frames.bind (·.smallCallThreshold)
  | .callArgumentsLimit => s.frames.bind (·.callArgumentsLimit)
  | .multipleValuesLimit => s.frames.bind (·.multipleValuesLimit)
  | .operandStackSlots => s.stack.bind (·.operandStackSlots)
  | .guardSlots => s.stack.bind (·.guardSlots)
  | .guardPage => s.stack.bind (·.guardPage)
  | .signalHandlers => s.interrupts.bind (·.signalHandlers)
  | .deliverImmediately => s.interrupts.bind (·.deliverImmediately)

/-- The effective value of a setting. -/
def effective {α : Type} (s : Settings) : Key α → α
  | .smallCallThreshold => s.smallCallThreshold
  | .callArgumentsLimit => s.callArgumentsLimit
  | .multipleValuesLimit => s.multipleValuesLimit
  | .operandStackSlots => s.operandStackSlots
  | .guardSlots => s.guardSlots
  | .guardPage => s.guardPage
  | .signalHandlers => s.signalHandlers
  | .deliverImmediately => s.deliverImmediately

/-- What is left open has the effective value that it has if everything is left open. -/
theorem effective_eq {α : Type} (s : Settings) (key : Key α) :
    s.effective key = (s.get? key).getD (effective {} key) := by
  cases key <;> rfl

/-- A setting is the later layer's if it is set there. -/
theorem get?_merge {α : Type} (earlier later : Settings) (key : Key α) :
    (earlier.merge later).get? key = (later.get? key).or (earlier.get? key) := by
  cases key <;>
    · simp only [get?, merge]
      apply mergeSection_bind <;> simp

/-- What one layer laid over another makes, setting by setting. -/
structure Overlaid (earlier later whole : Settings) : Prop where
  get? {α : Type} (key : Key α) : whole.get? key = (later.get? key).or (earlier.get? key)
  effective {α : Type} (key : Key α) :
    whole.effective key = (later.get? key).getD (earlier.effective key)
  libraryPaths : whole.libraryPaths = later.libraryPaths ++ earlier.libraryPaths
  preload : whole.preload = earlier.preload ++
    (later.preload.filter fun name => !earlier.preload.contains name).eraseDups

/-- Laying a layer over another one makes this. -/
theorem overlaid_merge (earlier later : Settings) :
    Overlaid earlier later (earlier.merge later) := by
  constructor
  case get? => exact get?_merge earlier later
  case effective =>
    intro α key
    rw [effective_eq, get?_merge, effective_eq earlier, Option.getD_or]
  case libraryPaths =>
    simp only [Settings.libraryPaths, merge]
    apply mergeSection_getD fun a b => b ++ a
    case hempty => rfl
    case hjoin => exact List.nil_append
    case hlay => exact fun _ _ => rfl
  case preload =>
    rw [← addMissing_eq]
    simp only [Settings.preload, merge]
    apply mergeSection_getD addMissing
    case hempty => rfl
    case hjoin => exact fun _ => rfl
    case hlay => exact fun _ _ => rfl

/-! ## The environment as a layer -/

/-- What the environment says about a setting. There are settings that it never sets. -/
def Key.read {α : Type} (env : Environment) : Key α → Except SettingsError (Option α)
  | .smallCallThreshold => variableNumber? env "KILN_SMALL_CALL_THRESHOLD"
  | .callArgumentsLimit => variableNumber? env "KILN_CALL_ARGUMENTS_LIMIT"
  | .multipleValuesLimit => variableNumber? env "KILN_MULTIPLE_VALUES_LIMIT"
  | .operandStackSlots => variableNumber? env "KILN_OPERAND_STACK_SLOTS"
  | .guardSlots => variableNumber? env "KILN_GUARD_SLOTS"
  | .signalHandlers => .ok <| (variableText? env "KILN_SIGNAL_HANDLERS").map fun text =>
      ["true", "1", "yes"].contains text.toLower
  | .guardPage | .deliverImmediately => .ok none

/-- The layer whose settings are those of the environment. Of its sections only that for libraries
may be empty, when there is a list of paths and no path in it. -/
structure ReadFrom (env : Environment) (layer : Settings) : Prop where
  read {α : Type} (key : Key α) : key.read env = .ok (layer.get? key)
  libraryPaths : layer.libraryPaths = (env.lookup "KILN_LIBRARY_PATH").elim [] splitPaths
  preload : layer.preload = []
  frames : layer.frames ≠ some {}
  stack : layer.stack ≠ some {}
  ffi : layer.ffi.isSome = (env.lookup "KILN_LIBRARY_PATH").isSome
  interrupts : layer.interrupts ≠ some {}

/-- Limits of calls that are read one by one. -/
theorem framesOf_eq_iff {threshold arguments values : Option Nat} {frames : Option FrameSettings} :
    framesOf threshold arguments values = frames ↔
      threshold = frames.bind (·.smallCallThreshold) ∧
      arguments = frames.bind (·.callArgumentsLimit) ∧
      values = frames.bind (·.multipleValuesLimit) ∧ frames ≠ some {} := by
  constructor
  · rintro rfl
    cases threshold <;> cases arguments <;> cases values <;> simp [framesOf]
  · rintro ⟨rfl, rfl, rfl, hset⟩
    cases frames with
    | none => rfl
    | some frames =>
      obtain ⟨threshold, arguments, values⟩ := frames
      cases threshold <;> cases arguments <;> cases values <;> simp_all [framesOf]

/-- The size of operand stacks that is read part by part. -/
theorem stackOf_eq_iff {slots guardSlots : Option Nat} {stack : Option StackSettings} :
    stackOf slots guardSlots = stack ↔
      slots = stack.bind (·.operandStackSlots) ∧ guardSlots = stack.bind (·.guardSlots) ∧
      none = stack.bind (·.guardPage) ∧ stack ≠ some {} := by
  constructor
  · rintro rfl
    cases slots <;> cases guardSlots <;> simp [stackOf]
  · rintro ⟨rfl, rfl, hpage, hset⟩
    cases stack with
    | none => rfl
    | some stack =>
      obtain ⟨slots, guardSlots, page⟩ := stack
      cases slots <;> cases guardSlots <;> simp_all [stackOf]

/-- Library paths that are read from the environment. -/
theorem foreignOf_eq_iff {ffi : Option ForeignSettings} :
    foreignOf env = ffi ↔
      (ffi.map (·.libraryPaths)).getD [] = (env.lookup "KILN_LIBRARY_PATH").elim [] splitPaths ∧
      (ffi.map (·.preload)).getD [] = [] ∧
      ffi.isSome = (env.lookup "KILN_LIBRARY_PATH").isSome := by
  unfold foreignOf
  cases ffi with
  | none => cases env.lookup "KILN_LIBRARY_PATH" <;> simp
  | some ffi =>
    obtain ⟨libraryPaths, preload⟩ := ffi
    cases env.lookup "KILN_LIBRARY_PATH" <;> simp [eq_comm]

/-- The choice of signal handlers that is read from the environment. -/
theorem interruptsOf_eq_iff {interrupts : Option InterruptSettings} :
    interruptsOf env = interrupts ↔
      Key.signalHandlers.read env = .ok (interrupts.bind (·.signalHandlers)) ∧
      none = interrupts.bind (·.deliverImmediately) ∧ interrupts ≠ some {} := by
  unfold interruptsOf Key.read
  cases interrupts with
  | none => cases variableText? env "KILN_SIGNAL_HANDLERS" <;> simp
  | some interrupts =>
    obtain ⟨handlers, immediately⟩ := interrupts
    cases variableText? env "KILN_SIGNAL_HANDLERS" <;> cases handlers <;> cases immediately <;>
      simp

/-- The environment is read as one layer. -/
theorem ofEnvironment_eq_ok : ofEnvironment env = .ok layer ↔ ReadFrom env layer := by
  constructor
  · intro hread
    obtain ⟨threshold, hthreshold, hread⟩ := bind_eq_ok.mp hread
    obtain ⟨arguments, harguments, hread⟩ := bind_eq_ok.mp hread
    obtain ⟨values, hvalues, hread⟩ := bind_eq_ok.mp hread
    obtain ⟨slots, hslots, hread⟩ := bind_eq_ok.mp hread
    obtain ⟨guardSlots, hguardSlots, hread⟩ := bind_eq_ok.mp hread
    have hlayer := Except.ok.inj hread
    obtain ⟨rfl, rfl, rfl, hframes⟩ := framesOf_eq_iff.mp (congrArg Settings.frames hlayer)
    obtain ⟨rfl, rfl, hpage, hstack⟩ := stackOf_eq_iff.mp (congrArg Settings.stack hlayer)
    obtain ⟨hpaths, hpreload, hffi⟩ := foreignOf_eq_iff.mp (congrArg Settings.ffi hlayer)
    obtain ⟨hhandlers, himmediately, hinterrupts⟩ :=
      interruptsOf_eq_iff.mp (congrArg Settings.interrupts hlayer)
    refine ⟨?_, hpaths, hpreload, hframes, hstack, hffi, hinterrupts⟩
    intro α key
    cases key with
    | smallCallThreshold => exact hthreshold
    | callArgumentsLimit => exact harguments
    | multipleValuesLimit => exact hvalues
    | operandStackSlots => exact hslots
    | guardSlots => exact hguardSlots
    | guardPage => exact congrArg Except.ok hpage
    | signalHandlers => exact hhandlers
    | deliverImmediately => exact congrArg Except.ok himmediately
  · intro h
    have hframes : framesOf (layer.get? .smallCallThreshold) (layer.get? .callArgumentsLimit)
        (layer.get? .multipleValuesLimit) = layer.frames :=
      framesOf_eq_iff.mpr ⟨rfl, rfl, rfl, h.frames⟩
    have hstack : stackOf (layer.get? .operandStackSlots) (layer.get? .guardSlots) = layer.stack :=
      stackOf_eq_iff.mpr ⟨rfl, rfl, Except.ok.inj (h.read .guardPage), h.stack⟩
    have hffi : foreignOf env = layer.ffi :=
      foreignOf_eq_iff.mpr ⟨h.libraryPaths, h.preload, h.ffi⟩
    have hinterrupts : interruptsOf env = layer.interrupts :=
      interruptsOf_eq_iff.mpr
        ⟨h.read .signalHandlers, Except.ok.inj (h.read .deliverImmediately), h.interrupts⟩
    refine bind_eq_ok.mpr ⟨_, h.read .smallCallThreshold, ?_⟩
    refine bind_eq_ok.mpr ⟨_, h.read .callArgumentsLimit, ?_⟩
    refine bind_eq_ok.mpr ⟨_, h.read .multipleValuesLimit, ?_⟩
    refine bind_eq_ok.mpr ⟨_, h.read .operandStackSlots, ?_⟩
    refine bind_eq_ok.mpr ⟨_, h.read .guardSlots, ?_⟩
    rw [hframes, hstack, hffi, hinterrupts]
    rfl

/-! ## What is loaded -/

/-- A file that was loaded holds what was loaded. -/
theorem fileHolds_of_loadFile (h : loadFile fs path = .ok layer) : FileHolds fs path layer := by
  obtain ⟨text, htext, hparse⟩ := bind_eq_ok.mp h
  refine ⟨text, htext, ?_⟩
  unfold parse at hparse
  cases hlayer : ofToml? text with
  | none => simp [hlayer] at hparse
  | some read =>
    rw [hlayer] at hparse
    obtain ⟨_, rfl⟩ := validate_bind_eq_ok.mp hparse
    rfl

/-- The user's layer is what was loaded for the user. -/
theorem userHolds_of_loadUser (h : loadUser fs path = .ok layer) : UserHolds fs path layer := by
  unfold loadUser at h
  split at h
  · rename_i hexists
    exact .file hexists (fileHolds_of_loadFile h)
  · rename_i hmissing
    obtain rfl := Except.ok.inj h
    exact .missing (Bool.eq_false_iff.mpr hmissing)

/-- The project's layer is what was found in the nearest directory that has a file for it. -/
theorem projectHolds_of_findProject {dir : String} {root : Option String}
    (h : findProject fs dir = .ok (root, layer)) : ProjectHolds fs dir root layer := by
  unfold findProject at h
  split at h
  · rename_i found hfound
    obtain ⟨loaded, hloaded, hpair⟩ := map_eq_ok.mp h
    cases hpair
    obtain ⟨hexists, inner, outer, hdirs, hinner⟩ := List.find?_eq_some_iff_append.mp hfound
    exact .file hdirs (by simpa using hinner) hexists (fileHolds_of_loadFile hloaded)
  · rename_i hnone
    cases h
    exact .missing (by simpa using hnone)

/-- Settings that the layers of the user and the environment make with a project, however the three
are grouped. -/
def MadeWith (fs : FileSystem) (user : String) (env : Environment) (project whole : Settings) :
    Prop :=
  ∃ base overrides, UserHolds fs user base ∧ ReadFrom env overrides ∧
    whole = (base.merge project).merge overrides ∧ whole = base.merge (project.merge overrides)

/-- The environment is laid over settings like every other layer. -/
theorem applyEnvironment_eq_ok :
    applyEnvironment env s = .ok whole ↔
      ∃ overrides, ReadFrom env overrides ∧ whole = s.merge overrides := by
  rw [applyEnvironment_eq, map_eq_ok]
  exact exists_congr fun overrides => and_congr ofEnvironment_eq_ok eq_comm

/-- A project that was loaded is combined with the two other layers. -/
theorem madeWith_of_combine (h : combine fs path env project = .ok s) :
    MadeWith fs path env project s := by
  obtain ⟨base, hbase, h⟩ := bind_eq_ok.mp h
  obtain ⟨whole, hwhole, h⟩ := bind_eq_ok.mp h
  obtain ⟨_, rfl⟩ := validate_bind_eq_ok.mp h
  obtain ⟨overrides, hoverrides, rfl⟩ := applyEnvironment_eq_ok.mp hwhole
  exact ⟨base, overrides, userHolds_of_loadUser hbase, hoverrides, rfl, merge_assoc _ _ _⟩

/-- Layers are laid over each other in order, however they are grouped: the later one decides what
it sets, its library paths come first, and its new names of libraries are added. The environment is
one of the layers, and what is loaded is what the user's layer, the project's and the environment
make together. -/
theorem layers_merge_in_order :
    (∀ a b c : Settings, (a.merge b).merge c = a.merge (b.merge c)) ∧
    (∀ earlier later : Settings, Overlaid earlier later (earlier.merge later)) ∧
    (∀ env s whole, applyEnvironment env s = .ok whole ↔
      ∃ overrides, ReadFrom env overrides ∧ whole = s.merge overrides) ∧
    (∀ fs user env dir loaded, loadFromDirectory fs user env dir = .ok loaded →
      ∃ project, ProjectHolds fs dir loaded.projectRoot project ∧
        MadeWith fs user env project loaded.settings) ∧
    ∀ fs user env file loaded, loadFromFile fs user env file = .ok loaded →
      ∃ project, FileHolds fs file project ∧ MadeWith fs user env project loaded.settings := by
  refine ⟨merge_assoc, overlaid_merge, fun env s whole => applyEnvironment_eq_ok, ?_, ?_⟩
  · intro fs user env dir loaded hload
    obtain ⟨⟨root, project⟩, hproject, hload⟩ := bind_eq_ok.mp hload
    obtain ⟨settings, hcombine, hload⟩ := bind_eq_ok.mp hload
    obtain rfl := Except.ok.inj hload
    exact ⟨project, projectHolds_of_findProject hproject, madeWith_of_combine hcombine⟩
  · intro fs user env file loaded hload
    obtain ⟨project, hproject, hload⟩ := bind_eq_ok.mp hload
    obtain ⟨settings, hcombine, hload⟩ := bind_eq_ok.mp hload
    obtain rfl := Except.ok.inj hload
    exact ⟨project, fileHolds_of_loadFile hproject, madeWith_of_combine hcombine⟩

/-- Both files preload libraries, and the project's repeats one. -/
def preloading : FileSystem where
  nodes :=
    [(["user.toml"], .file "ffi.preload=[\"m\"]".toUTF8.toList),
      (["kiln.toml"], .file "ffi.preload=[\"m\",\"c\",\"c\"]".toUTF8.toList)]

/-- A name that is repeated is added once, and paths come from the environment. -/
theorem preloading_merges_in_order :
    let env : Environment := [("KILN_LIBRARY_PATH", ":/lib".toUTF8.toList)]
    let loaded : ProjectSettings := ⟨{ ffi := some ⟨[.ofText "/lib"], ["m", "c"]⟩ }, some "/"⟩
    loadFromDirectory preloading "/user.toml" env "/" = .ok loaded ∧
      ∃ project, ProjectHolds preloading "/" (some "/") project ∧
        MadeWith preloading "/user.toml" env project loaded.settings := by
  intro env loaded
  have hload : loadFromDirectory preloading "/user.toml" env "/" = .ok loaded := by decide +kernel
  exact ⟨hload, layers_merge_in_order.2.2.2.1 _ _ _ _ _ hload⟩

end CallEngine.Settings
