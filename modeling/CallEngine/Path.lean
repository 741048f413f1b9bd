import CallEngine.Text.Lossy

/-!
# Paths

Path texts in the form `/a/b`. Repeated separators, separators at the end and `.` components have
no meaning of their own, except for a `.` that starts a relative path. The system itself takes
any bytes for a path.
-/

namespace CallEngine.Path

/-- The parts between separators, empty ones included. -/
def segments (path : String) : List String := (path.toList.splitOn '/').map String.ofList

def isAbsolute (path : String) : Bool := path.toList.head? == some '/'

/-- Whether a part has no meaning, the parts before it being `before`. -/
def isIdle (absolute : Bool) (part : String) (before : List String) : Bool :=
  part == "" || (part == "." && (absolute || !before.isEmpty))

/-- Drop what has no meaning from the end of a path, of which the parts are given backwards. -/
def trimEnd (absolute : Bool) : List String → List String
  | [] => []
  | part :: before =>
    if isIdle absolute part before then trimEnd absolute before else part :: before

/-- The parts behind the root, backwards. -/
def reversedParts (path : String) : List String :=
  let parts := segments path
  (if isAbsolute path then parts.drop 1 else parts).reverse

/-- The path of parts that are given backwards. -/
def ofReversed (absolute : Bool) (parts : List String) : String :=
  (if absolute then "/" else "") ++ String.intercalate "/" parts.reverse

/-- The paths above one of which the parts are given backwards, the nearest first. -/
def above (absolute : Bool) : List String → List String
  | [] => []
  | part :: before =>
    if isIdle absolute part before then above absolute before
    else ofReversed absolute (trimEnd absolute before) :: above absolute before

/-- The paths that remain when the last component is taken off, again and again. There is none
above the root and above the empty path. -/
def parents (path : String) : List String := above (isAbsolute path) (reversedParts path)

/-- The path without its last component. -/
def parent? (path : String) : Option String := (parents path).head?

/-- Append a path; an absolute one replaces what is there. -/
def join (path other : String) : String :=
  if isAbsolute other then other
  else if path.isEmpty || path.toList.getLast? == some '/' then path ++ other
  else path ++ "/" ++ other

/-- The meaningful parts of a path behind the root, in order. -/
def components (path : String) : List String :=
  let parts := segments path
  if isAbsolute path then parts.filter fun part => part != "" && part != "."
  else
    match parts with
    | "." :: rest => "." :: rest.filter fun part => part != "" && part != "."
    | _ => parts.filter fun part => part != "" && part != "."

/-- Whether two texts are the same path. -/
def same (a b : String) : Bool :=
  isAbsolute a == isAbsolute b && components a == components b

end CallEngine.Path

namespace CallEngine

/-- A path as the system takes it: any bytes. -/
structure RawPath where
  bytes : List UInt8
deriving Repr, DecidableEq

namespace RawPath

/-- The path that a text names. -/
def ofText (path : String) : RawPath := ⟨Text.utf8 path⟩

/-- The text of a path, if its bytes are UTF-8. -/
def text? (path : RawPath) : Option String := Text.ofUtf8? path.bytes

/-- How a path is shown, whatever its bytes are. -/
def shown (path : RawPath) : String := Text.ofBytes path.bytes

end RawPath

end CallEngine
