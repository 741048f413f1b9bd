import CallEngine.FileSystem
import CallEngine.Foreign.ProcessSymbols

/-!
# Libraries and symbols

Native entry points by name: symbols registered by hand, and libraries that are searched for along
a list of directories and loaded once each.
-/

namespace CallEngine

/-- Why a library or a symbol could not be had. -/
inductive LoadError where
  | libraryNotFound (name : String)
  | symbolNotFound (name : String)
  | loadFailed (path : String)
  | nullEntry (name : String)
deriving Repr, DecidableEq

/-- The name of the kind of error. -/
def LoadError.kind : LoadError → String
  | libraryNotFound _ => "LibraryNotFound"
  | symbolNotFound _ => "SymbolNotFound"
  | loadFailed _ => "LoadFailed"
  | nullEntry _ => "NullEntry"

def LoadError.message : LoadError → String
  | libraryNotFound name => s!"Library not found: {name}"
  | symbolNotFound name => s!"Foreign symbol not found: {name}"
  | loadFailed path => s!"Failed to load library {path}"
  | nullEntry name => s!"Cannot register null entry point for {name}"

/-- The address of a native function. -/
abbrev EntryPoint := UInt64

/-- How an entry point is written. -/
def EntryPoint.text (entry : EntryPoint) : String :=
  s!"#<entry 0x{Text.hexadecimal entry.toNat}>"

/-- Entry points by name. -/
structure SymbolTable where
  entries : List (String × EntryPoint) := []
deriving Repr

namespace SymbolTable

def get? (t : SymbolTable) (name : String) : Option EntryPoint := t.entries.lookup name

def size (t : SymbolTable) : Nat := t.entries.length

/-- Drop a name. -/
def erase (t : SymbolTable) (name : String) : SymbolTable :=
  ⟨t.entries.filter (·.1 != name)⟩

/-- Give a name an entry point, which must not be null; the result is the one it replaces. -/
def register (t : SymbolTable) (name : String) (entry : EntryPoint) :
    Except LoadError (Option EntryPoint × SymbolTable) :=
  if entry = 0 then .error (.nullEntry name)
  else .ok (t.get? name, ⟨(name, entry) :: (t.erase name).entries⟩)

/-- Drop a name; the result is the entry point it had. -/
def remove (t : SymbolTable) (name : String) : Option EntryPoint × SymbolTable :=
  (t.get? name, t.erase name)

end SymbolTable

/-- A symbol that was found: a function of a loaded library, or one of the process itself. -/
inductive Found where
  | exported (function : Export)
  | process (name : String)
deriving Repr, DecidableEq

/-- The loaded libraries in load order, and the directories searched for more. -/
structure LibraryLoader where
  loaded : List (String × List Export) := []
  searchPaths : List RawPath
deriving Repr

namespace LibraryLoader

/-- The system's library directories. -/
def systemPaths : List String := ["/usr/lib", "/usr/local/lib", "/lib", "/usr/lib64", "/lib64"]

/-- A loader that searches `paths`, then the working directory, then the system's directories. -/
def create (fs : FileSystem) (paths : List RawPath) : LibraryLoader where
  searchPaths := paths ++
    (Path.ofReversed true fs.workingDirectory.reverse :: systemPaths).map .ofText

/-- Search one more directory before all others. -/
def addSearchPath (l : LibraryLoader) (path : RawPath) : LibraryLoader :=
  { l with searchPaths := path :: l.searchPaths }

/-- The file names a library's short name stands for, in the order in which they are tried. -/
def fileNames (name : String) : List String := [name, s!"lib{name}.so", s!"{name}.so"]

/-- The path of a library: a path is taken as it is, a short name is searched for. All names of a
file system are texts, so nothing stands in a directory whose path is none. -/
def resolvePath? (l : LibraryLoader) (fs : FileSystem) (name : String) : Option String :=
  if Path.isAbsolute name || 1 < (Path.components name).length then
    if fs.exists? name then some name else none
  else
    ((l.searchPaths.filterMap RawPath.text?).flatMap fun dir =>
      (fileNames name).map (Path.join dir)).find? fs.isFile

/-- Load a library; the result is its path. A library is loaded once. -/
def load (l : LibraryLoader) (fs : FileSystem) (name : String) :
    Except LoadError (String × LibraryLoader) :=
  match l.resolvePath? fs name with
  | none => .error (.libraryNotFound name)
  | some path =>
    if l.loaded.any fun (loaded, _) => Path.same loaded path then .ok (path, l)
    else
      match fs.lookup path with
      | .ok (.library functions) => .ok (path, { l with loaded := l.loaded ++ [(path, functions)] })
      | _ => .error (.loadFailed path)

/-- The name that is looked up: one zero at the end is no part of it. -/
def symbolName (name : String) : String :=
  match name.toList.reverse with
  | '\x00' :: rest => String.ofList rest.reverse
  | _ => name

/-- Find a symbol in the loaded libraries in load order, then in the process. -/
def find? (l : LibraryLoader) (name : String) : Option Found :=
  let name := symbolName name
  match (l.loaded.flatMap (·.2)).find? (·.name == name) with
  | some function => some (.exported function)
  | none => if processSymbols.contains name then some (.process name) else none

end LibraryLoader

end CallEngine
