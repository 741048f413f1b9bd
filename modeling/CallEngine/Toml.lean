import CallEngine.Toml.Scalar
import CallEngine.Toml.Token

/-!
# Settings files

The statements of a settings file are section headers and assignments; they are put together to a
document of named sections. A name may have several parts, each of which names a table inside the
one before. Settings lie two names deep, so a section inside a section or one of a list of
sections is refused: none of them could hold a setting.
-/

namespace CallEngine.Toml

/-! ## Tables -/

/-- What a name in a table stands for. -/
inductive Entry where
  /-- A value, to which nothing can be added. -/
  | value (v : Json)
  /-- A table made by names of several parts, more of which may follow. -/
  | dotted (members : List (String × Entry))

/-- The names of a table in order, with what they stand for. -/
abbrev Table : Type := List (String × Entry)

namespace Table

def find? (table : Table) (name : String) : Option Entry :=
  (List.find? (·.1 == name) table).map (·.2)

/-- Add a name, or replace what it stands for. -/
def put (table : Table) (name : String) (entry : Entry) : Table :=
  if table.any (·.1 == name) then
    table.map fun e => if e.1 == name then (name, entry) else e
  else table ++ [(name, entry)]

/-- Assign a value to a name of several parts. The name must be new, and each of its parts before
the last must be new or have been made by such a name. -/
def assign? (table : Table) (path : List String) (v : Json) : Option Table :=
  match path with
  | [] => none
  | [name] =>
    match table.find? name with
    | none => some (table.put name (.value v))
    | some _ => none
  | name :: rest =>
    match table.find? name with
    | none => (assign? [] rest v).map fun members => table.put name (.dotted members)
    | some (.dotted members) =>
      (assign? members rest v).map fun members => table.put name (.dotted members)
    | some (.value _) => none

end Table

mutual

/-- The document a name stands for. -/
def Entry.toJson : Entry → Json
  | .value v => v
  | .dotted members => .object (membersJson members)

/-- The members of a table as documents. -/
def membersJson : List (String × Entry) → List (String × Json)
  | [] => []
  | (name, entry) :: rest => (name, entry.toJson) :: membersJson rest

end

/-- A table as a document. -/
def Table.toJson (table : Table) : Json := .object (membersJson table)

/-! ## Statements -/

/-- The part of a name a token denotes. -/
def namePart? : Token → Option String
  | .word text => some text
  | .string text false => some text
  | _ => none

/-- A statement of a settings file. -/
inductive Statement where
  | header (path : List String)
  | assign (path : List String) (value : Json)

/-- A value that is still open, with what it holds so far. -/
inductive Open where
  /-- An array, its items backwards. -/
  | array (items : List Json)
  /-- An inline table in which the value of a name is due. -/
  | member (members : Table) (path : List String)

/-- Whose name is read. -/
inductive Subject where
  | header
  | assignment
  /-- A member of an inline table. -/
  | member (members : Table)

/-- What may come next; the parts of a name are kept backwards. -/
inductive Expect where
  | line
  /-- A part of a name. -/
  | part (subject : Subject) (path : List String)
  /-- After a part of a name. -/
  | partEnd (subject : Subject) (path : List String)
  | value
  /-- A value or the end of an array. -/
  | item
  /-- A name or the end of an inline table just opened. -/
  | memberOrEnd
  /-- After a value inside an array or an inline table. -/
  | separator (last : Json)
  | lineEnd

/-- What a word would be. -/
def Expect.place : Expect → Place
  | value | item => .value
  | _ => .name

/-- The most arrays and inline tables that may be open at once, and the most parts of a name. -/
def nestingLimit : Nat := 79

/-- The statements read so far, backwards, the name and the values still open, and what may come
next. -/
structure Reader where
  statements : List Statement := []
  path : List String := []
  stack : List Open := []
  expect : Expect := .line

namespace Reader

/-- A value is complete. -/
def complete (r : Reader) (stack : List Open) (value : Json) : Reader :=
  match stack with
  | [] =>
    { r with
      statements := .assign r.path value :: r.statements
      path := []
      stack
      expect := .lineEnd }
  | _ => { r with stack, expect := .separator value }

/-- Read the first token of a value. -/
def beginValue (r : Reader) : Token → Option Reader
  | .word text => (wordValue? text).map (r.complete r.stack)
  | .string text _ => some (r.complete r.stack (.string text))
  | .mark '[' =>
    if r.stack.length < nestingLimit then
      some { r with stack := .array [] :: r.stack, expect := .item }
    else none
  | .mark '\x7b' =>
    if r.stack.length < nestingLimit then some { r with expect := .memberOrEnd } else none
  | _ => none

/-- Read a part of a name. -/
def namePart (r : Reader) (subject : Subject) (path : List String) (token : Token) :
    Option Reader :=
  (namePart? token).map fun part => { r with expect := .partEnd subject (part :: path) }

/-- Read the mark after a name, whose parts are given in order. -/
def nameEnd (r : Reader) (path : List String) : Subject → Token → Option Reader
  | .header, .mark ']' =>
    some { r with statements := .header path :: r.statements, expect := .lineEnd }
  | .assignment, .mark '=' => some { r with path, expect := .value }
  | .member members, .mark '=' =>
    some { r with stack := .member members path :: r.stack, expect := .value }
  | _, _ => none

/-- Read the token after the value `last` inside an array or an inline table. -/
def afterValue (r : Reader) (last : Json) (token : Token) : Option Reader :=
  match r.stack, token with
  | .array _ :: _, .lineEnd => some r
  | .array items :: stack, .mark ',' =>
    some { r with stack := .array (last :: items) :: stack, expect := .item }
  | .array items :: stack, .mark ']' => some (r.complete stack (.array (last :: items).reverse))
  | .member members path :: stack, .mark ',' =>
    (members.assign? path last).map fun members =>
      { r with stack, expect := .part (.member members) [] }
  | .member members path :: stack, .mark '\x7d' =>
    (members.assign? path last).map fun members => r.complete stack members.toJson
  | _, _ => none

/-- Read one token. -/
def step (r : Reader) (token : Token) : Option Reader :=
  match r.expect, token with
  | .line, .lineEnd => some r
  | .line, .mark '[' => some { r with expect := .part .header [] }
  | .line, token => r.namePart .assignment [] token
  | .part subject path, token => r.namePart subject path token
  | .partEnd subject path, .mark '.' =>
    if path.length < nestingLimit then some { r with expect := .part subject path } else none
  | .partEnd subject path, token => r.nameEnd path.reverse subject token
  | .value, token => r.beginValue token
  | .item, .lineEnd => some r
  | .item, .mark ']' =>
    match r.stack with
    | .array items :: stack => some (r.complete stack (.array items.reverse))
    | _ => none
  | .item, token => r.beginValue token
  | .memberOrEnd, .mark '\x7d' => some (r.complete r.stack (.object []))
  | .memberOrEnd, token => r.namePart (.member []) [] token
  | .separator last, token => r.afterValue last token
  | .lineEnd, .lineEnd => some { r with expect := .line }
  | .lineEnd, _ => none

/-- Read one character in a mode of the tokens. -/
def feed (r : Reader) (mode : Mode) (c : Char) : Option (Reader × Mode) := do
  match ← advance r.expect.place mode c with
  | .more mode => return (r, mode)
  | .last token => return (← r.step token, .idle)
  | .after token =>
    let r ← r.step token
    match ← beginToken r.expect.place c with
    | .more mode => return (r, mode)
    | .last token | .after token => return (← r.step token, .idle)

/-- Read the remaining characters; the last line need not be ended. -/
def run (r : Reader) (mode : Mode) : List Char → Option (List Statement)
  | [] => do
    let r ←
      match ← finish mode with
      | none => some r
      | some token => r.step token
    match r.expect with
    | .line | .lineEnd => some r.statements.reverse
    | _ => none
  | c :: rest => do
    let (r, mode) ← r.feed mode c
    run r mode rest

end Reader

/-- The statements of a text; a byte order mark at its start is dropped. -/
def statements? (text : List Char) : Option (List Statement) :=
  match text with
  | '\uFEFF' :: rest => Reader.run {} .idle rest
  | _ => Reader.run {} .idle text

/-! ## Documents -/

/-- What stands before the first header, the sections so far in order, and the section that
assignments go to. -/
structure Builder where
  top : Table := []
  sections : List (String × Table) := []
  current : Option String := none

namespace Builder

/-- Follow one statement. -/
def step (b : Builder) : Statement → Option Builder
  | .header [name] =>
    if b.top.any (·.1 == name) || b.sections.any (·.1 == name) then none
    else some { b with sections := b.sections ++ [(name, [])], current := some name }
  | .header _ => none
  | .assign path value =>
    match b.current with
    | none => (b.top.assign? path value).map fun top => { b with top }
    | some name => do
      let sections ← b.sections.mapM fun (title, table) =>
        if title == name then (table.assign? path value).map (title, ·) else some (title, table)
      return { b with sections }

/-- The document of all tables. -/
def toJson (b : Builder) : Json :=
  .object (membersJson b.top ++ b.sections.map fun (name, table) => (name, table.toJson))

end Builder

/-- Read a settings file. -/
def parse? (text : String) : Option Json := do
  let b ← (← statements? text.toList).foldlM Builder.step {}
  return b.toJson

end CallEngine.Toml
