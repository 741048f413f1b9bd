import CallEngine.Json.Token

/-!
# JSON documents

A document is built from its tokens by a machine that keeps the containers still open, the
innermost first, so that reading follows the token list. The members of an object stay in the
order in which they are written, repeated names included. A reader may skip the values of some
members of the outermost object: of these only the form is checked, so that they may be nested
without a limit and hold strings that have no text.
-/

namespace CallEngine

/-- A JSON document. -/
inductive Json where
  | null
  | bool (b : Bool)
  | integer (n : Int)
  /-- A number with a fraction, an exponent or a negative zero. -/
  | fractional (text : String)
  | string (s : String)
  | array (items : List Json)
  | object (members : List (String × Json))
deriving Repr, Inhabited

namespace Json

/-- A container that is still open, with what it holds so far, backwards. -/
inductive Open where
  | array (items : List Json)
  /-- An object in which the value of `name` is due. -/
  | member (members : List (String × Json)) (name : String)

/-- What may come next. -/
inductive Expect where
  /-- A document. -/
  | document
  /-- A document or the end of an array just opened. -/
  | documentOrEnd
  /-- A member's name. -/
  | name (members : List (String × Json))
  /-- A member's name or the end of an object just opened. -/
  | nameOrEnd
  | colon (members : List (String × Json)) (name : String)
  /-- A comma or an end, after a document inside a container. -/
  | separator (last : Json)

/-- The most containers that may be open at once. -/
def depthLimit : Nat := 127

/-- The state of the machine: the open containers and what may come next. -/
structure Reader where
  stack : List Open := []
  expect : Expect := .document
  /-- Which members of the outermost object are skipped. -/
  skips : String → Bool := fun _ => false
  /-- Whether the last member of the outermost object is skipped. -/
  skipping : Bool := false

namespace Reader

/-- A document is complete. -/
def complete (r : Reader) (stack : List Open) (document : Json) : Reader :=
  { r with stack, expect := .separator document }

/-- Whether one more container may be opened. -/
def mayOpen (r : Reader) : Bool := r.skipping || r.stack.length < depthLimit

/-- Read the first token of a document. A string without a text counts as null where it is
skipped. -/
def begin (r : Reader) : Token → Option Reader
  | .null => some (r.complete r.stack .null)
  | .bool b => some (r.complete r.stack (.bool b))
  | .integer n => some (r.complete r.stack (.integer n))
  | .fractional text => some (r.complete r.stack (.fractional text))
  | .string s => some (r.complete r.stack (.string s))
  | .halfString => if r.skipping then some (r.complete r.stack .null) else none
  | .openBracket =>
    if r.mayOpen then some { r with stack := .array [] :: r.stack, expect := .documentOrEnd }
    else none
  | .openBrace => if r.mayOpen then some { r with expect := .nameOrEnd } else none
  | _ => none

/-- Read a member's name. One without a text counts as empty where it is skipped. -/
def beginMember (r : Reader) (members : List (String × Json)) : Token → Option Reader
  | .string name => some { r with expect := .colon members name }
  | .halfString =>
    if r.skipping && !r.stack.isEmpty then some { r with expect := .colon members "" } else none
  | _ => none

/-- Read the token after the document `last` inside a container. -/
def afterDocument (r : Reader) (last : Json) (token : Token) : Option Reader :=
  match r.stack, token with
  | .array items :: stack, .comma =>
    some { r with stack := .array (last :: items) :: stack, expect := .document }
  | .array items :: stack, .closeBracket =>
    some (r.complete stack (.array (last :: items).reverse))
  | .member members name :: stack, .comma =>
    some { r with stack, expect := .name ((name, last) :: members) }
  | .member members name :: stack, .closeBrace =>
    some (r.complete stack (.object ((name, last) :: members).reverse))
  | _, _ => none

/-- Read one token. -/
def step (r : Reader) (token : Token) : Option Reader :=
  match r.expect, token with
  | .document, token => r.begin token
  | .documentOrEnd, .closeBracket => some (r.complete (r.stack.drop 1) (.array []))
  | .documentOrEnd, token => r.begin token
  | .nameOrEnd, .closeBrace => some (r.complete r.stack (.object []))
  | .nameOrEnd, token => r.beginMember [] token
  | .name members, token => r.beginMember members token
  | .colon members name, .colon =>
    some { r with
      stack := .member members name :: r.stack
      expect := .document
      skipping := if r.stack.isEmpty then r.skips name else r.skipping }
  | .colon _ _, _ => none
  | .separator last, token => r.afterDocument last token

/-- Read the remaining tokens; the document has to end with them. -/
def run (r : Reader) : List Token → Option Json
  | [] =>
    match r.stack, r.expect with
    | [], .separator document => some document
    | _, _ => none
  | token :: rest =>
    match r.step token with
    | none => none
    | some r => r.run rest

end Reader

/-- Read a text that is one document. -/
def parse? (text : String) : Option Json := do Reader.run {} (← tokenize text.toList)

/-- Read a text that is one document, in which the values of the members that `skips` names do not
matter. -/
def parseSkipping? (skips : String → Bool) (text : String) : Option Json := do
  Reader.run { skips } (← tokenize text.toList)

/-- The last member of that name. -/
def get? (name : String) : Json → Option Json
  | object members => (members.reverse.find? (·.1 == name)).map (·.2)
  | _ => none

end Json

end CallEngine
