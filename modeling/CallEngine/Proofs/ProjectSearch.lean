import CallEngine.Proofs.PathParts
import CallEngine.Proofs.SettingsLayers

/-!
# Which project is found

The project in force is looked for in a directory and in all directories above its path. Without
`..` a path leads along its names, and the directories above are those that the first of the names
lead to. So what is found is the nearest directory that has a project, among those below the place
where the path starts. An absolute path starts at the root. A relative one starts at the working
directory, and the search does not go further up: a project above it is overlooked. So is that of a
directory whose file may not be asked for since the path to it is too long.
-/

namespace CallEngine

/-! ## A file in a directory -/

namespace Path

variable {path name : String}

/-- A name has no separator and is no part without a meaning. -/
structure Plain (name : String) : Prop where
  named : isName name = true
  whole : '/' ∉ name.toList

/-- A name is not empty. -/
theorem Plain.ne_empty (h : Plain name) : name ≠ "" := by
  rintro rfl
  exact absurd h.named (by decide)

/-- A name is a relative path. -/
theorem Plain.relative (h : Plain name) : isAbsolute name = false := by
  cases habsolute : isAbsolute name with
  | false => rfl
  | true =>
    obtain ⟨rest, rfl⟩ := isAbsolute_iff.mp habsolute
    exact absurd (by simp) h.whole

/-- A name is its only part. -/
theorem Plain.segments_eq (h : Plain name) : segments name = [name] := by
  have hparts := segments_intercalate (List.cons_ne_nil name []) (by simpa using h.whole)
  simpa using hparts

/-- A name is appended behind a separator, if there is anything before it. -/
theorem Plain.join_eq (h : Plain name) (path : String) :
    (path = "" ∧ join path name = name) ∨
      (∃ head, path = head ++ "/" ∧ join path name = head ++ "/" ++ name) ∨
      (path ≠ "" ∧ join path name = path ++ "/" ++ name) := by
  rw [join, h.relative, if_neg Bool.false_ne_true]
  split
  · rename_i hend
    rw [Bool.or_eq_true, String.isEmpty_iff, beq_iff_eq] at hend
    rcases hend with rfl | hlast
    · exact .inl ⟨rfl, String.empty_append⟩
    · obtain ⟨front, hfront⟩ := List.getLast?_eq_some_iff.mp hlast
      have hpath : path = String.ofList front ++ "/" := by
        apply String.toList_inj.mp
        rw [hfront, String.toList_append, String.toList_ofList]
        rfl
      exact .inr (.inl ⟨String.ofList front, hpath, by rw [← hpath]⟩)
  · rename_i hend
    refine .inr (.inr ⟨?_, rfl⟩)
    rintro rfl
    exact hend rfl

/-- The last part of a path with a name appended to it, and the names before it. -/
theorem Plain.segments_join (h : Plain name) (path : String) :
    ∃ front, segments (join path name) = front ++ [name] ∧ front.filter isName = names path := by
  rcases h.join_eq path with ⟨rfl, hjoin⟩ | ⟨head, rfl, hjoin⟩ | ⟨_, hjoin⟩
  · exact ⟨[], by rw [hjoin, h.segments_eq]; rfl, by decide⟩
  · refine ⟨segments head, by rw [hjoin, segments_append, h.segments_eq], ?_⟩
    rw [names_append_slash, names]
  · exact ⟨segments path, by rw [hjoin, segments_append, h.segments_eq], rfl⟩

/-- A path with a name appended to it is absolute if it was. -/
theorem Plain.isAbsolute_join (h : Plain name) (path : String) :
    isAbsolute (join path name) = isAbsolute path := by
  rcases h.join_eq path with ⟨rfl, hjoin⟩ | ⟨head, rfl, hjoin⟩ | ⟨hne, hjoin⟩
  · rw [hjoin, h.relative]
    rfl
  · rw [hjoin, isAbsolute_append (by simp)]
  · rw [hjoin, String.append_assoc, isAbsolute_append hne]

/-- What a path with a name appended to it holds of the path and of the name. -/
theorem Plain.mem_join (h : Plain name) {c : Char} (hc : c ≠ '/') :
    c ∈ (join path name).toList ↔ c ∈ path.toList ∨ c ∈ name.toList := by
  rcases h.join_eq path with ⟨rfl, hjoin⟩ | ⟨head, rfl, hjoin⟩ | ⟨_, hjoin⟩
  · simp [hjoin]
  · simp [hjoin, hc]
  · simp [hjoin, hc]

/-- A path with a name appended to it is as long as both, and may have a separator more. -/
theorem Plain.le_utf8ByteSize_join (h : Plain name) (path : String) :
    path.utf8ByteSize + name.utf8ByteSize ≤ (join path name).utf8ByteSize := by
  rcases h.join_eq path with ⟨rfl, hjoin⟩ | ⟨head, rfl, hjoin⟩ | ⟨_, hjoin⟩
  · rw [hjoin, ← String.utf8ByteSize_append, String.empty_append]
  · rw [hjoin, ← String.utf8ByteSize_append]
  · rw [hjoin, String.utf8ByteSize_append, String.utf8ByteSize_append]
    omega

/-- Appending a name to a longer text gives no shorter path. -/
theorem Plain.utf8ByteSize_join_le (h : Plain name) (up rest : String) :
    (join up name).utf8ByteSize ≤ (join (up ++ rest) name).utf8ByteSize := by
  by_cases hrest : rest = ""
  · rw [hrest, String.append_empty]
  · have hpos : 0 < rest.utf8ByteSize :=
      Nat.pos_of_ne_zero (mt String.utf8ByteSize_eq_zero_iff.mp hrest)
    have hslash : "/".utf8ByteSize = 1 := by decide
    have hup : (join up name).utf8ByteSize ≤ up.utf8ByteSize + 1 + name.utf8ByteSize := by
      rcases h.join_eq up with ⟨rfl, hjoin⟩ | ⟨head, rfl, hjoin⟩ | ⟨_, hjoin⟩
      · rw [hjoin]
        omega
      · rw [hjoin, String.utf8ByteSize_append]
        omega
      · rw [hjoin, String.utf8ByteSize_append, String.utf8ByteSize_append, hslash]
    have hlong := h.le_utf8ByteSize_join (up ++ rest)
    rw [String.utf8ByteSize_append] at hlong
    omega

end Path

namespace FileSystem

variable {fs : FileSystem} {here : List String} {node : FileNode} {path up rest name : String}

/-! ## Following paths -/

/-- A path that may be asked for: it is not too long and has no zero character. -/
structure Askable (path : String) : Prop where
  plain : '\x00' ∉ path.toList
  short : path.utf8ByteSize ≤ pathLimit

/-- What may be asked for in a directory may be asked for in one whose path is a first piece of the
text. -/
theorem Askable.shorter (hname : Path.Plain name) (h : Askable (Path.join (up ++ rest) name)) :
    Askable (Path.join up name) where
  plain hzero := by
    refine h.plain ((hname.mem_join (by decide)).mpr ?_)
    rcases (hname.mem_join (by decide)).mp hzero with hup | hlast
    · exact .inl (by simp [hup])
    · exact .inr hlast
  short := Nat.le_trans (hname.utf8ByteSize_join_le up rest) h.short

/-- Where relative paths start. -/
def origin (fs : FileSystem) (path : String) : List String :=
  if Path.isAbsolute path then [] else fs.workingDirectory

/-- The names from the root to where a path leads. Without `..` the first pieces of them are the
directories above. -/
def place (fs : FileSystem) (path : String) : List String := fs.origin path ++ Path.names path

/-- What a path leads to is found by its parts. -/
theorem lookup_eq_walk (hne : path ≠ "") (h : Askable path) :
    fs.lookup path = fs.walk (fs.origin path).reverse .directory (Path.segments path) := by
  have hempty : ¬ path.isEmpty = true := mt String.isEmpty_iff.mp hne
  have hzero : ¬ path.toList.contains '\x00' = true := by simpa using h.plain
  rw [lookup, if_neg hempty, if_neg hzero, if_neg (Nat.not_lt.mpr h.short)]
  rfl

/-- Nothing is found by a path that may not be asked for. -/
theorem exists?_unaskable (h : ¬ Askable path) : fs.exists? path = false := by
  rw [exists?, lookup]
  split
  · rfl
  · split
    · rfl
    · rename_i hzero
      split
      · rfl
      · rename_i hshort
        exact absurd ⟨by simpa using hzero, Nat.le_of_not_lt hshort⟩ h

/-- Only a directory is gone on from. -/
theorem walk_file (hnode : node ≠ .directory) {parts : List String} (hparts : parts ≠ []) :
    fs.walk here node parts = .error (.refused .notADirectory) := by
  obtain ⟨part, later, rfl⟩ := List.exists_cons_of_ne_nil hparts
  cases node with
  | directory => exact absurd rfl hnode
  | file content => rfl
  | library functions => rfl

/-- Parts that name nothing lead nowhere else. -/
theorem walk_filter (parts : List String) (last : String) :
    fs.walk here node (parts ++ [last]) =
      fs.walk here node (parts.filter Path.isName ++ [last]) := by
  induction parts generalizing here node with
  | nil => rfl
  | cons part later ih =>
    by_cases hnode : node = .directory
    · subst hnode
      cases hname : Path.isName part with
      | false =>
        have hidle : (part == "" || part == ".") = true := by
          rw [Path.isName, bne, bne, ← Bool.not_or, Bool.not_eq_false'] at hname
          exact hname
        rw [List.filter_cons_of_neg (by simp [hname]), List.cons_append, walk, if_pos hidle, ih]
      | true =>
        rw [List.filter_cons_of_pos hname]
        simp only [List.cons_append, walk, ih]
    · rw [walk_file hnode (by simp), walk_file hnode (by simp)]

/-- What lies beyond names that lead to a place is followed from there. -/
theorem walk_append {names later : List String} {node' : FileNode}
    (hnames : ∀ part ∈ names, Path.isName part = true ∧ part ≠ "..")
    (h : fs.walk here node names = .ok node') :
    fs.walk here node (names ++ later) = fs.walk (names.reverse ++ here) node' later := by
  induction names generalizing here node with
  | nil =>
    cases h
    rfl
  | cons part names ih =>
    obtain ⟨hname, hup⟩ := hnames part List.mem_cons_self
    have hrest := fun part hpart => hnames part (List.mem_cons_of_mem _ hpart)
    have hidle : ¬ (part == "" || part == ".") = true := by
      rw [Bool.not_eq_true, ← Bool.not_eq_true', Bool.not_or]
      exact hname
    have hnode : node = .directory := by
      by_contra hfile
      rw [walk_file hfile (List.cons_ne_nil _ _)] at h
      cases h
    subst hnode
    rw [walk, if_neg hidle, if_neg (by simpa using hup)] at h
    have hplace : (part :: names).reverse ++ here = names.reverse ++ part :: here := by simp
    rw [hplace, List.cons_append, walk, if_neg hidle, if_neg (by simpa using hup)]
    split at h
    · cases h
    · rename_i hshort
      rw [if_neg hshort]
      split at h
      · exact ih hrest h
      · cases h

/-- The working directory is a directory, and the names from the root to it are plain ones. -/
structure WorksInDirectory (fs : FileSystem) : Prop where
  names : ∀ part ∈ fs.workingDirectory, Path.isName part = true ∧ part ≠ ".."
  directory : fs.walk [] .directory fs.workingDirectory = .ok .directory

/-- What relative paths lead to is what lies beyond the working directory. -/
theorem walk_origin (hwork : fs.WorksInDirectory) (path : String) (parts : List String) :
    fs.walk (fs.origin path).reverse .directory parts =
      fs.walk [] .directory (fs.origin path ++ parts) := by
  rw [origin]
  split
  · rfl
  · rw [walk_append hwork.names hwork.directory, List.append_nil]

/-- A file in a directory is found by the names from the root to it. -/
theorem lookup_join (hwork : fs.WorksInDirectory) (hname : Path.Plain name)
    (hask : Askable (Path.join path name)) :
    fs.lookup (Path.join path name) = fs.walk [] .directory (fs.place path ++ [name]) := by
  obtain ⟨front, hsegments, hnames⟩ := hname.segments_join path
  have hne : Path.join path name ≠ "" := by
    intro hempty
    have hsingle : Path.segments (Path.join path name) = [""] := by
      rw [hempty]
      decide
    have hlast := congrArg List.getLast? (hsegments.symm.trans hsingle)
    rw [List.getLast?_concat] at hlast
    exact hname.ne_empty (Option.some.inj hlast)
  have horigin : fs.origin (Path.join path name) = fs.origin path := by
    rw [origin, origin, hname.isAbsolute_join]
  rw [lookup_eq_walk hne hask, horigin, hsegments, walk_filter, hnames, walk_origin hwork,
    ← List.append_assoc]
  rfl

end FileSystem

namespace Settings

variable {fs : FileSystem} {user dir root : String} {env : Environment} {p q : List String}

/-! ## Directories with a project -/

/-- The directory to which names lead from the root has a project file. -/
def HasProject (fs : FileSystem) (p : List String) : Prop :=
  ∃ node, fs.walk [] .directory (p ++ [projectFile]) = .ok node

/-- The nearest directory with a project: among a directory and all those above it, the others that
have one are above it. -/
structure Nearest (fs : FileSystem) (start p : List String) : Prop where
  up : p <+: start
  has : HasProject fs p
  first {q : List String} (hup : q <+: start) (hhas : HasProject fs q) : q <+: p

/-- There is only one nearest directory. -/
theorem Nearest.unique {start : List String} (h : Nearest fs start p) (h' : Nearest fs start q) :
    p = q :=
  (h'.first h.up h.has).eq_of_length_le (h.first h'.up h'.has).length_le

/-- If there is a project in a directory or above it, there is a nearest one. -/
theorem exists_nearest (fs : FileSystem) (start : List String) :
    (∃ p, Nearest fs start p) ∨ ∀ p, p <+: start → ¬ HasProject fs p := by
  induction start using List.reverseRecOn with
  | nil =>
    by_cases hhas : HasProject fs []
    · exact .inl ⟨[], List.prefix_rfl, hhas, fun hup _ => hup⟩
    · refine .inr fun p hp => ?_
      rw [List.prefix_nil.mp hp]
      exact hhas
  | append_singleton front part ih =>
    by_cases hhas : HasProject fs (front ++ [part])
    · exact .inl ⟨front ++ [part], List.prefix_rfl, hhas, fun hup _ => hup⟩
    · have hbelow {q : List String} (hq : q <+: front ++ [part]) (hproject : HasProject fs q) :
          q <+: front := by
        rcases List.prefix_concat_iff.mp hq with rfl | hfront
        · exact absurd hproject hhas
        · exact hfront
      rcases ih with ⟨p, hp⟩ | hnone
      · exact .inl ⟨p, hp.up.trans (List.prefix_append front [part]), hp.has,
          fun hup hproject => hp.first (hbelow hup hproject) hproject⟩
      · exact .inr fun q hq hproject => hnone q (hbelow hq hproject) hproject

/-! ## The search -/

/-- The name of a project file is a plain one. -/
theorem plain_projectFile : Path.Plain projectFile where
  named := by decide
  whole := by decide

/-- All directories of a search start where the first one does. -/
theorem origin_of_mem (fs : FileSystem) (h : root ∈ dir :: Path.parents dir) :
    fs.origin root = fs.origin dir := by
  rcases List.mem_cons.mp h with rfl | hup
  · rfl
  · rw [FileSystem.origin, FileSystem.origin, Path.isAbsolute_of_mem_parents hup]

/-- Where a directory of a search is, seen from the place where the first one starts. -/
theorem place_of_mem (fs : FileSystem) (h : root ∈ dir :: Path.parents dir) :
    fs.place root = fs.origin dir ++ Path.names root := by
  rw [FileSystem.place, origin_of_mem fs h]

/-- If a project file may be asked for in a directory, it may be in those above. -/
theorem askable_of_mem (hask : FileSystem.Askable (Path.join dir projectFile))
    (h : root ∈ dir :: Path.parents dir) :
    FileSystem.Askable (Path.join root projectFile) := by
  rcases List.mem_cons.mp h with rfl | hup
  · exact hask
  · obtain ⟨rest, rfl⟩ := Path.append_of_mem_parents hup
    exact hask.shorter plain_projectFile

/-- A directory of a search is asked for the project file that it has. -/
theorem lookup_project (hwork : fs.WorksInDirectory)
    (hask : FileSystem.Askable (Path.join dir projectFile)) (h : root ∈ dir :: Path.parents dir) :
    fs.lookup (Path.join root projectFile) =
      fs.walk [] .directory (fs.place root ++ [projectFile]) :=
  FileSystem.lookup_join hwork plain_projectFile (askable_of_mem hask h)

/-- The project file of a directory is there if the directory has a project. -/
theorem exists?_project (hwork : fs.WorksInDirectory)
    (hask : FileSystem.Askable (Path.join dir projectFile)) (h : root ∈ dir :: Path.parents dir) :
    fs.exists? (Path.join root projectFile) = true ↔ HasProject fs (fs.place root) := by
  rw [FileSystem.exists?, lookup_project hwork hask h, HasProject]
  cases fs.walk [] .directory (fs.place root ++ [projectFile]) with
  | error e => simp [Except.isOk, Except.toBool]
  | ok node => simp [Except.isOk, Except.toBool]

/-- The directories above, as far as the search goes, are all in it. -/
theorem exists_searched (fs : FileSystem) (horigin : fs.origin dir <+: q)
    (hup : q <+: fs.place dir) : ∃ root ∈ dir :: Path.parents dir, fs.place root = q := by
  obtain ⟨ns, rfl⟩ := horigin
  have hnames : ns <+: Path.names dir := (List.prefix_append_right_inj _).mp hup
  obtain ⟨root, hroot, rfl⟩ := (Path.exists_parents_iff dir ns).mpr hnames
  exact ⟨root, hroot, place_of_mem fs hroot⟩

/-- The directory that a search finds. -/
def found? (fs : FileSystem) (dir : String) : Option String :=
  (dir :: Path.parents dir).find? fun d => fs.exists? (Path.join d projectFile)

/-- What is found is the nearest directory with a project. -/
theorem nearest_of_found? (hwork : fs.WorksInDirectory)
    (hask : FileSystem.Askable (Path.join dir projectFile)) (h : found? fs dir = some root) :
    root ∈ dir :: Path.parents dir ∧ Nearest fs (fs.place dir) (fs.place root) := by
  have hroot := List.mem_of_find?_eq_some h
  have hplace := place_of_mem fs hroot
  have hnames : Path.names root <+: Path.names dir :=
    (Path.exists_parents_iff dir _).mp ⟨root, hroot, rfl⟩
  obtain ⟨hexists, inner, outer, hdirs, hinner⟩ := List.find?_eq_some_iff_append.mp h
  have hpairs := Path.pairwise_parents dir
  rw [hdirs] at hpairs
  refine ⟨hroot, hplace ▸ (List.prefix_append_right_inj _).mpr hnames,
    (exists?_project hwork hask hroot).mp hexists, fun {q} hup hhas => ?_⟩
  rcases List.prefix_or_prefix_of_prefix hup (List.prefix_append (fs.origin dir) _) with
    habove | hreached
  · exact hplace ▸ habove.trans (List.prefix_append _ _)
  · obtain ⟨d, hd, rfl⟩ := exists_searched fs hreached hup
    have hfound := (exists?_project hwork hask hd).mpr hhas
    -- It was not passed over, so it comes no sooner than what was found.
    rcases List.mem_append.mp (hdirs ▸ hd) with hnear | hfar
    · have hnone := hinner d hnear
      rw [hfound] at hnone
      cases hnone
    · rcases List.mem_cons.mp hfar with rfl | houter
      · exact List.prefix_rfl
      · have hrest := List.pairwise_cons.mp (List.pairwise_append.mp hpairs).2.1
        rw [hplace, place_of_mem fs hd]
        exact (List.prefix_append_right_inj _).mpr (hrest.1 d houter)

/-- If nothing is found, there is no project as far as the search goes. -/
theorem not_hasProject_of_found? (hwork : fs.WorksInDirectory)
    (hask : FileSystem.Askable (Path.join dir projectFile)) (h : found? fs dir = none)
    (horigin : fs.origin dir <+: q) (hup : q <+: fs.place dir) : ¬ HasProject fs q := by
  obtain ⟨d, hd, rfl⟩ := exists_searched fs horigin hup
  intro hhas
  exact List.find?_eq_none.mp h d hd ((exists?_project hwork hask hd).mpr hhas)

/-- Nothing is found exactly if the search does not go as far as to the nearest project. -/
theorem found?_eq_none_iff (hwork : fs.WorksInDirectory)
    (hask : FileSystem.Askable (Path.join dir projectFile)) :
    found? fs dir = none ↔ ¬ ∃ p, Nearest fs (fs.place dir) p ∧ fs.origin dir <+: p := by
  constructor
  · rintro hnone ⟨p, hp, hreached⟩
    exact not_hasProject_of_found? hwork hask hnone hreached hp.up hp.has
  · intro hall
    apply Option.eq_none_iff_forall_not_mem.mpr
    intro root hfound
    obtain ⟨hroot, hnearest⟩ := nearest_of_found? hwork hask hfound
    exact hall ⟨_, hnearest, place_of_mem fs hroot ▸ List.prefix_append _ _⟩

/-- The search looks into a directory, and if there is no project it goes on with the parent. -/
theorem findProject_eq (fs : FileSystem) (dir : String) :
    findProject fs dir =
      if fs.exists? (Path.join dir projectFile) then
        (loadFile fs (Path.join dir projectFile)).map fun s => (some dir, s)
      else
        match Path.parent? dir with
        | some up => findProject fs up
        | none => .ok (none, {}) := by
  rw [findProject, List.find?_cons]
  cases fs.exists? (Path.join dir projectFile) with
  | true => rfl
  | false =>
    rw [if_neg Bool.false_ne_true]
    dsimp only
    rw [Path.parents_eq]
    cases Path.parent? dir with
    | none => rfl
    | some up => rfl

/-- The parent has fewer directories above it. -/
theorem parents_length_lt {up : String} (h : Path.parent? dir = some up) :
    (Path.parents up).length < (Path.parents dir).length := by
  rw [Path.parents_eq dir, h]
  exact Nat.lt_succ_self _

/-! ## What is loaded -/

/-- What is loaded with the project of this directory. -/
def loadWith (fs : FileSystem) (user : String) (env : Environment) (root : String) :
    Except SettingsError ProjectSettings := do
  let project ← loadFile fs (Path.join root projectFile)
  return { settings := ← combine fs user env project, projectRoot := some root }

/-- What is loaded without a project. -/
def loadWithout (fs : FileSystem) (user : String) (env : Environment) :
    Except SettingsError ProjectSettings := do
  return { settings := ← combine fs user env {}, projectRoot := none }

/-- The directory that is found decides on what is loaded. -/
theorem loadFromDirectory_eq (fs : FileSystem) (user : String) (env : Environment) (dir : String) :
    loadFromDirectory fs user env dir =
      match found? fs dir with
      | some root => loadWith fs user env root
      | none => loadWithout fs user env := by
  rw [loadFromDirectory, findProject, ← found?]
  cases found? fs dir with
  | none => rfl
  | some root =>
    dsimp only [loadWith]
    cases loadFile fs (Path.join root projectFile) with
    | error e => rfl
    | ok project => rfl

/-- A directory whose file may not be asked for is passed over. -/
theorem loadFromDirectory_unasked (user : String) (env : Environment)
    (h : ¬ FileSystem.Askable (Path.join dir projectFile)) :
    loadFromDirectory fs user env dir =
      match Path.parent? dir with
      | some up => loadFromDirectory fs user env up
      | none => loadWithout fs user env := by
  rw [loadFromDirectory, findProject_eq, FileSystem.exists?_unaskable h, if_neg Bool.false_ne_true]
  cases Path.parent? dir with
  | none => rfl
  | some up => rfl

/-- A project that was loaded has a directory; without one there is none. -/
theorem projectRoot_eq_none_iff {loaded : ProjectSettings}
    (h : loadFromDirectory fs user env dir = .ok loaded) :
    loaded.projectRoot = none ↔ found? fs dir = none := by
  rw [loadFromDirectory_eq] at h
  cases hfind : found? fs dir with
  | none =>
    rw [hfind] at h
    obtain ⟨settings, _, hloaded⟩ := bind_eq_ok.mp h
    cases hloaded
    exact ⟨fun _ => rfl, fun _ => rfl⟩
  | some root =>
    rw [hfind] at h
    obtain ⟨project, _, hproject⟩ := bind_eq_ok.mp h
    obtain ⟨settings, _, hloaded⟩ := bind_eq_ok.mp hproject
    cases hloaded
    exact ⟨nofun, nofun⟩

/-- How a search from a directory ends, by the nearest directory with a project. -/
structure Searched (fs : FileSystem) (user : String) (env : Environment) (dir : String) :
    Prop where
  /-- The search looks into one directory and goes on with the parent. -/
  step : findProject fs dir =
    if fs.exists? (Path.join dir projectFile) then
      (loadFile fs (Path.join dir projectFile)).map fun s => (some dir, s)
    else
      match Path.parent? dir with
      | some up => findProject fs up
      | none => .ok (none, {})
  /-- It comes to an end. -/
  ends {up : String} (h : Path.parent? dir = some up) :
    (Path.parents up).length < (Path.parents dir).length
  /-- There may be a nearest directory with a project, and else there is none at all. -/
  nearest : (∃ p, Nearest fs (fs.place dir) p) ∨ ∀ p, p <+: fs.place dir → ¬ HasProject fs p
  /-- If the nearest one is not above the place where the path starts, its project is used, and
  this directory is named. -/
  used (hask : FileSystem.Askable (Path.join dir projectFile)) {p : List String}
    (h : Nearest fs (fs.place dir) p) (hreached : fs.origin dir <+: p) :
    ∃ root ∈ dir :: Path.parents dir, fs.place root = p ∧
      fs.lookup (Path.join root projectFile) = fs.walk [] .directory (p ++ [projectFile]) ∧
      loadFromDirectory fs user env dir = loadWith fs user env root
  /-- A project above the working directory is overlooked if the path is relative. -/
  overlooked (hask : FileSystem.Askable (Path.join dir projectFile)) {p : List String}
    (h : Nearest fs (fs.place dir) p) (hreached : ¬ fs.origin dir <+: p) :
    loadFromDirectory fs user env dir = loadWithout fs user env
  /-- Without a project the other layers are loaded. -/
  missing (hask : FileSystem.Askable (Path.join dir projectFile))
    (h : ∀ p, p <+: fs.place dir → ¬ HasProject fs p) :
    loadFromDirectory fs user env dir = loadWithout fs user env
  /-- No directory is named exactly if there is no project as far as the search goes. -/
  root_iff (hask : FileSystem.Askable (Path.join dir projectFile)) {loaded : ProjectSettings}
    (h : loadFromDirectory fs user env dir = .ok loaded) :
    loaded.projectRoot = none ↔ ¬ ∃ p, Nearest fs (fs.place dir) p ∧ fs.origin dir <+: p
  /-- A directory whose file may not be asked for is passed over. -/
  unasked (h : ¬ FileSystem.Askable (Path.join dir projectFile)) :
    loadFromDirectory fs user env dir =
      match Path.parent? dir with
      | some up => loadFromDirectory fs user env up
      | none => loadWithout fs user env

/-- The project of the nearest directory is used if the search goes as far as to it: up to the root
for an absolute path, up to the working directory for a relative one. -/
theorem nearest_project_used (hwork : fs.WorksInDirectory) (user : String) (env : Environment)
    (dir : String) : Searched fs user env dir := by
  constructor
  case step => exact findProject_eq fs dir
  case ends => exact parents_length_lt
  case nearest => exact exists_nearest fs (fs.place dir)
  case used =>
    intro hask p h hreached
    have hsome : found? fs dir ≠ none := fun hnone =>
      (found?_eq_none_iff hwork hask).mp hnone ⟨p, h, hreached⟩
    obtain ⟨root, hfound⟩ := Option.ne_none_iff_exists'.mp hsome
    obtain ⟨hroot, hnearest⟩ := nearest_of_found? hwork hask hfound
    obtain rfl := hnearest.unique h
    refine ⟨root, hroot, rfl, lookup_project hwork hask hroot, ?_⟩
    rw [loadFromDirectory_eq, hfound]
  case overlooked =>
    intro hask p h hreached
    have hnone : found? fs dir = none := by
      rw [found?_eq_none_iff hwork hask]
      rintro ⟨q, hq, hq'⟩
      exact hreached (hq.unique h ▸ hq')
    rw [loadFromDirectory_eq, hnone]
  case missing =>
    intro hask h
    have hnone : found? fs dir = none := by
      rw [found?_eq_none_iff hwork hask]
      rintro ⟨p, hp, _⟩
      exact h p hp.up hp.has
    rw [loadFromDirectory_eq, hnone]
  case root_iff =>
    intro hask loaded h
    rw [projectRoot_eq_none_iff h, found?_eq_none_iff hwork hask]
  case unasked => exact loadFromDirectory_unasked user env

/-- A project one directory above the working directory. -/
def checkout : FileSystem where
  nodes := [(["work", "kiln.toml"], .file wideText.toUTF8.toList)]
  workingDirectory := ["work", "src"]

theorem checkout_worksInDirectory : checkout.WorksInDirectory where
  names := by decide
  directory := by decide

theorem checkout_hasProject : HasProject checkout ["work"] :=
  ⟨.file wideText.toUTF8.toList, by decide +kernel⟩

/-- The project of the checkout is the nearest one for the directory of it and for the working
directory. -/
theorem checkout_nearest {start : List String} (h : start = ["work"] ∨ start = ["work", "src"]) :
    Nearest checkout start ["work"] where
  up := by rcases h with rfl | rfl <;> decide
  has := checkout_hasProject
  first {q} hup hhas := by
    rcases h with rfl | rfl
    · exact hup
    · rcases List.prefix_concat_iff.mp (show q <+: ["work"] ++ ["src"] from hup) with rfl | hwork
      · obtain ⟨node, hnode⟩ := hhas
        cases hnode
      · exact hwork

/-- By its absolute path the working directory gets the project above it, however that path is
written. -/
theorem checkout_used :
    ∃ root ∈ ["/work//src/.", "/work", "/"], checkout.place root = ["work"] ∧
      checkout.lookup (Path.join root projectFile) =
        checkout.walk [] .directory ["work", "kiln.toml"] ∧
      loadFromDirectory checkout "/user.toml" [] "/work//src/." =
        loadWith checkout "/user.toml" [] root := by
  have hsearched := nearest_project_used checkout_worksInDirectory "/user.toml" [] "/work//src/."
  have hplace : checkout.place "/work//src/." = ["work", "src"] := by decide +kernel
  have hdirs : "/work//src/." :: Path.parents "/work//src/." = ["/work//src/.", "/work", "/"] := by
    decide +kernel
  rw [← hdirs]
  exact hsearched.used ⟨by decide +kernel, by decide +kernel⟩
    (checkout_nearest (.inr hplace)) List.nil_prefix

/-- The directory of the checkout with so many separators at the end of its path. -/
def padded : Nat → String
  | 0 => "/work"
  | n + 1 => padded n ++ "/"

/-- The separators add bytes, but the path has the same name and the same directory above it. -/
theorem padded_spec (n : Nat) :
    padded n ≠ "" ∧ (padded n).utf8ByteSize = 5 + n ∧ Path.isAbsolute (padded n) = true ∧
      Path.names (padded n) = ["work"] ∧ Path.parents (padded n) = ["/"] := by
  induction n with
  | zero => decide +kernel
  | succ n ih =>
    obtain ⟨hne, hsize, habsolute, hnames, hparents⟩ := ih
    have hslash : "/".utf8ByteSize = 1 := by decide
    refine ⟨by simp [padded], ?_, ?_, ?_, ?_⟩
    · rw [padded, String.utf8ByteSize_append, hsize, hslash, Nat.add_assoc]
    · rw [padded, Path.isAbsolute_append hne, habsolute]
    · rw [padded, Path.names_append_slash, hnames]
    · rw [padded, Path.parents_append_slash hne, hparents]

/-- If the path to the file has more bytes than a path may have, the directory itself is overlooked,
though it is the nearest one. -/
theorem padded_overlooked {n : Nat} (h : 4082 ≤ n) :
    Nearest checkout (checkout.place (padded n)) ["work"] ∧
    loadFromDirectory checkout "/user.toml" [] (padded n) = .ok ⟨{}, none⟩ := by
  obtain ⟨_, hsize, habsolute, hnames, hparents⟩ := padded_spec n
  have hplace : checkout.place (padded n) = ["work"] := by
    rw [FileSystem.place, FileSystem.origin, if_pos habsolute, hnames, List.nil_append]
  have hfile : projectFile.utf8ByteSize = 9 := by decide
  have hlong : ¬ FileSystem.Askable (Path.join (padded n) projectFile) := by
    intro hask
    have hbytes := Nat.le_trans (plain_projectFile.le_utf8ByteSize_join _) hask.short
    rw [hsize, hfile, FileSystem.pathLimit] at hbytes
    omega
  have hparent : Path.parent? (padded n) = some "/" := by
    rw [Path.parent?, hparents]
    rfl
  refine ⟨checkout_nearest (.inl hplace), ?_⟩
  rw [loadFromDirectory_unasked "/user.toml" [] hlong, hparent]
  decide +kernel

/-- A project above the working directory is overlooked if the search starts from `.`, though it is
found from the same directory by its absolute path. The project of a directory itself is overlooked
behind 4082 separators. -/
theorem checkout_overlooked :
    Nearest checkout (checkout.place ".") ["work"] ∧
    loadFromDirectory checkout "/user.toml" [] "." = .ok ⟨{}, none⟩ ∧
    loadFromDirectory checkout "/user.toml" [] "/work/src" = .ok ⟨wide, some "/work"⟩ ∧
    Nearest checkout (checkout.place (padded 4082)) ["work"] ∧
    loadFromDirectory checkout "/user.toml" [] (padded 4082) = .ok ⟨{}, none⟩ := by
  have hhere : checkout.place "." = ["work", "src"] := by decide +kernel
  exact ⟨checkout_nearest (.inr hhere), by decide +kernel, by decide +kernel,
    padded_overlooked (Nat.le_refl _)⟩

end Settings

end CallEngine
