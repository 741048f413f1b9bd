import CallEngine.Machine
import CallEngine.Path
import CallEngine.Text.Bytes

/-!
# Files

A file system is a finite set of absolute paths with what stands there. A path also names a
directory if something stands below it. There are no links.
-/

namespace CallEngine

/-- A function that a loadable library offers: it takes nothing and returns a fixed number. -/
structure Export where
  name : String
  result : Int
deriving Repr, DecidableEq

/-- What stands at a path. -/
inductive FileNode where
  | directory
  | file (content : List UInt8)
  | library (functions : List Export)
deriving Repr, DecidableEq

/-- The known paths, by their components from the root, and the working directory. -/
structure FileSystem where
  nodes : List (List String × FileNode) := []
  workingDirectory : List String := []
deriving Repr

/-- Why a path leads nowhere. -/
inductive Missing where
  | notFound
  | refused (error : IoError)
deriving Repr, DecidableEq

namespace FileSystem

/-- What stands at the end of components from the root. -/
def node? (fs : FileSystem) (path : List String) : Option FileNode :=
  match fs.nodes.find? (·.1 == path) with
  | some (_, node) => some node
  | none =>
    if path.isEmpty || path.isPrefixOf fs.workingDirectory ||
        fs.nodes.any (fun (other, _) => path.isPrefixOf other) then some .directory
    else none

/-- The most bytes of a name in a directory. -/
def nameLimit : Nat := 255

/-- The most bytes of a path. -/
def pathLimit : Nat := 4095

/-- Follow the parts of a path from a place that exists; `place` is given backwards. -/
def walk (fs : FileSystem) (place : List String) (node : FileNode) :
    List String → Except Missing FileNode
  | [] => .ok node
  | part :: rest =>
    match node with
    | .directory =>
      if part == "" || part == "." then fs.walk place node rest
      else if part == ".." then fs.walk (place.drop 1) .directory rest
      else if nameLimit < part.utf8ByteSize then .error (.refused .invalidFilename)
      else
        match fs.node? (part :: place).reverse with
        | some node => fs.walk (part :: place) node rest
        | none => .error .notFound
    | _ => .error (.refused .notADirectory)

/-- What a path names. A path with a zero character in it cannot be asked for. -/
def lookup (fs : FileSystem) (path : String) : Except Missing FileNode :=
  if path.isEmpty then .error .notFound
  else if path.toList.contains '\x00' then .error (.refused .invalidInput)
  else if pathLimit < path.utf8ByteSize then .error (.refused .invalidFilename)
  else
    let start := if Path.isAbsolute path then [] else fs.workingDirectory
    fs.walk start.reverse .directory (Path.segments path)

def exists? (fs : FileSystem) (path : String) : Bool := (fs.lookup path).isOk

/-- Whether a path names a file, of any kind. -/
def isFile (fs : FileSystem) (path : String) : Bool :=
  match fs.lookup path with
  | .ok .directory => false
  | .ok _ => true
  | .error _ => false

end FileSystem

end CallEngine
