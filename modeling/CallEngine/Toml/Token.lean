import CallEngine.Json.Token

/-!
# Tokens of a settings file

A settings file is TOML. Its text is cut into marks, words, strings and line ends, one character
at a time. Blanks and comments separate tokens and are dropped. Words end at different characters
in names and in values: a point divides two names, but belongs to a number.
-/

namespace CallEngine.Toml

/-- A lexical unit. -/
inductive Token where
  | mark (c : Char)
  /-- A bare name, or a value that is not in quotes. -/
  | word (text : String)
  /-- A string; one over several lines cannot be a key. -/
  | string (text : String) (multiline : Bool)
  | lineEnd
deriving Repr, DecidableEq

/-- What a word would be where it begins. -/
inductive Place where
  | name
  | value
deriving Repr, DecidableEq

/-- How a string is delimited. -/
structure Style where
  /-- Between double quotes, where a backslash starts an escape. -/
  basic : Bool
  multiline : Bool
deriving Repr, DecidableEq

/-- The quote that delimits a string. -/
def Style.quote (s : Style) : Char := if s.basic then '\x22' else '\x27'

/-- What the characters before have begun; texts are kept backwards. -/
inductive Mode where
  | idle
  /-- After a carriage return, which needs a line feed. -/
  | carriage
  | comment
  | word (place : Place) (text : List Char)
  /-- After a date and a blank, where a time of day may follow. -/
  | dateBlank (text : List Char)
  /-- One or two opening quotes were read. -/
  | opening (basic : Bool) (twice : Bool)
  /-- Right after the opening of a string over several lines, where a line end is dropped. -/
  | first (basic : Bool) (afterReturn : Bool)
  | body (style : Style) (text : List Char)
  /-- A run of quotes inside a string over several lines. -/
  | quotes (basic : Bool) (text : List Char) (count : Nat)
  /-- A carriage return inside a string over several lines. -/
  | bodyReturn (basic : Bool) (text : List Char)
  | escape (style : Style) (text : List Char)
  /-- Digits of a numeric escape that are still due. -/
  | code (style : Style) (text : List Char) (value due : Nat)
  /-- A backslash at the end of a line; `ended` once the line has ended. -/
  | joining (text : List Char) (ended afterReturn : Bool)
deriving Repr

/-- Whether a character may stand in comments and strings. -/
def isPrintable (c : Char) : Bool := c == '\t' || (0x20 ≤ c.toNat && c.toNat != 0x7f)

/-- Whether a character belongs to a word. No character of a word can follow a value. -/
def isWordChar : Place → Char → Bool
  | .name, c => c.isAlphanum || c == '_' || c == '-'
  | .value, c => c.isAlphanum || ['_', '-', '+', '.', ':'].contains c

/-- Whether a word has the shape of a date without a time of day. -/
def isDateShape (cs : List Char) : Bool :=
  cs.map (fun c => if c.isDigit then '0' else c) = "0000-00-00".toList

/-- What one character does: it goes on with a token, is the last one of a token, or stands after
the end of a token. -/
inductive Progress where
  | more (mode : Mode)
  | last (token : Token)
  | after (token : Token)
deriving Repr

/-- What one character between tokens begins. -/
def beginToken (place : Place) (c : Char) : Option Progress :=
  if c == ' ' || c == '\t' then some (.more .idle)
  else if c == '\n' then some (.last .lineEnd)
  else if c == '\r' then some (.more .carriage)
  else if c == '#' then some (.more .comment)
  else if c == '\x22' then some (.more (.opening true false))
  else if c == '\x27' then some (.more (.opening false false))
  else if isWordChar place c then some (.more (.word place [c]))
  else if ['[', ']', '\x7b', '\x7d', '=', ',', '.'].contains c then some (.last (.mark c))
  else none

/-- The token of a word kept backwards. -/
def wordToken (text : List Char) : Token := .word (String.ofList text.reverse)

/-- The token of a string kept backwards. -/
def stringToken (text : List Char) (multiline : Bool) : Token :=
  .string (String.ofList text.reverse) multiline

/-- Read one character inside a string. -/
def advanceBody (style : Style) (text : List Char) (c : Char) : Option Progress :=
  if c == style.quote then
    if style.multiline then some (.more (.quotes style.basic text 1))
    else some (.last (stringToken text false))
  else if c == '\x5c' && style.basic then some (.more (.escape style text))
  else if c == '\n' && style.multiline then some (.more (.body style ('\n' :: text)))
  else if c == '\r' && style.multiline then some (.more (.bodyReturn style.basic text))
  else if isPrintable c then some (.more (.body style (c :: text)))
  else none

/-- The character of a one-letter escape. -/
def escaped? : Char → Option Char
  | 'b' => some '\x08'
  | 't' => some '\t'
  | 'n' => some '\n'
  | 'f' => some '\x0c'
  | 'r' => some '\r'
  | '\x22' => some '\x22'
  | '\x5c' => some '\x5c'
  | _ => none

/-- Read one character after a backslash. -/
def advanceEscape (style : Style) (text : List Char) (c : Char) : Option Mode :=
  if c == 'u' then some (.code style text 0 4)
  else if c == 'U' then some (.code style text 0 8)
  else if style.multiline && (c == ' ' || c == '\t') then some (.joining text false false)
  else if style.multiline && c == '\n' then some (.joining text true false)
  else if style.multiline && c == '\r' then some (.joining text false true)
  else (escaped? c).map fun c => .body style (c :: text)

/-- Read one digit of a numeric escape. -/
def advanceCode (style : Style) (text : List Char) (value due : Nat) (c : Char) : Option Mode := do
  let value := 16 * value + (← Json.hexValue? c)
  if 1 < due then some (.code style text value (due - 1))
  else if value.isValidChar then some (.body style (Char.ofNat value :: text))
  else none

/-- Read one character; `place` tells what a word that begins with it would be. -/
def advance (place : Place) (mode : Mode) (c : Char) : Option Progress :=
  match mode with
  | .idle => beginToken place c
  | .carriage => if c == '\n' then some (.last .lineEnd) else none
  | .comment =>
    if c == '\n' then some (.last .lineEnd)
    else if c == '\r' then some (.more .carriage)
    else if isPrintable c then some (.more .comment)
    else none
  | .word kind text =>
    if isWordChar kind c then some (.more (.word kind (c :: text)))
    else if c == ' ' && kind == .value && isDateShape text.reverse then
      some (.more (.dateBlank text))
    else some (.after (wordToken text))
  | .dateBlank text =>
    if c.isDigit then some (.more (.word .value (c :: ' ' :: text)))
    else some (.after (wordToken text))
  | .opening basic false =>
    if c == Style.quote ⟨basic, false⟩ then some (.more (.opening basic true))
    else advanceBody ⟨basic, false⟩ [] c
  | .opening basic true =>
    if c == Style.quote ⟨basic, false⟩ then some (.more (.first basic false))
    else some (.after (stringToken [] false))
  | .first basic true => if c == '\n' then some (.more (.body ⟨basic, true⟩ [])) else none
  | .first basic false =>
    if c == '\n' then some (.more (.body ⟨basic, true⟩ []))
    else if c == '\r' then some (.more (.first basic true))
    else advanceBody ⟨basic, true⟩ [] c
  | .body style text => advanceBody style text c
  | .quotes basic text count =>
    let quote := Style.quote ⟨basic, true⟩
    if c == quote then
      if count < 5 then some (.more (.quotes basic text (count + 1))) else none
    else if count < 3 then
      advanceBody ⟨basic, true⟩ (List.replicate count quote ++ text) c
    else some (.after (stringToken (List.replicate (count - 3) quote ++ text) true))
  | .bodyReturn basic text =>
    if c == '\n' then some (.more (.body ⟨basic, true⟩ ('\n' :: text))) else none
  | .escape style text => (advanceEscape style text c).map .more
  | .code style text value due => (advanceCode style text value due c).map .more
  | .joining text _ true =>
    if c == '\n' then some (.more (.joining text true false)) else none
  | .joining text ended false =>
    if c == ' ' || c == '\t' then some (.more (.joining text ended false))
    else if c == '\n' then some (.more (.joining text true false))
    else if c == '\r' then some (.more (.joining text ended true))
    else if ended then advanceBody ⟨true, true⟩ text c
    else none

/-- The token still due when the text ends. -/
def finish : Mode → Option (Option Token)
  | .idle | .comment => some none
  | .word _ text | .dateBlank text => some (some (wordToken text))
  | .opening _ true => some (some (stringToken [] false))
  | .quotes basic text count =>
    if count < 3 then none
    else
      let quote := Style.quote ⟨basic, true⟩
      some (some (stringToken (List.replicate (count - 3) quote ++ text) true))
  | _ => none

end CallEngine.Toml
