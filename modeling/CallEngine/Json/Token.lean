/-!
# JSON tokens

A text is cut into tokens one character at a time: a mode tells what the characters read so far
have begun, and each character either extends that or ends it. Between tokens only spaces, tabs
and line ends may stand.
-/

namespace CallEngine.Json

/-- A lexical unit of JSON. A number is an integer, or the text of one that has a fraction, an
exponent or a negative zero. -/
inductive Token where
  | openBrace
  | closeBrace
  | openBracket
  | closeBracket
  | comma
  | colon
  | null
  | bool (b : Bool)
  | string (s : String)
  /-- A string in which half of a character stands alone, so that it has no text. -/
  | halfString
  | integer (n : Int)
  | fractional (text : String)
deriving Repr, DecidableEq

/-- The text of a string so far, kept backwards; `none` once half of a character stands alone. -/
abbrev Partial : Type := Option (List Char)

/-- What the characters before have begun; texts are kept backwards. -/
inductive Mode where
  | idle
  | word (letters : List Char)
  | number (text : List Char)
  | string (text : Partial)
  | escape (text : Partial)
  /-- After the mark of a numeric escape: the high half read before it, if any, the digits read
  so far and their number. -/
  | code (text : Partial) (high : Option Nat) (value count : Nat)
  /-- A high half wants a low half: whether the backslash of its mark was seen. -/
  | low (text : Partial) (high : Nat) (seen : Bool)

/-- The value of a hexadecimal digit. -/
def hexValue? (c : Char) : Option Nat :=
  if '0' ≤ c && c ≤ '9' then some (c.toNat - '0'.toNat)
  else if 'a' ≤ c && c ≤ 'f' then some (c.toNat - 'a'.toNat + 10)
  else if 'A' ≤ c && c ≤ 'F' then some (c.toNat - 'A'.toNat + 10)
  else none

/-- The number that decimal digits denote. -/
def decimalValue (digits : List Char) : Nat :=
  digits.foldl (fun n c => 10 * n + (c.toNat - '0'.toNat)) 0

/-- At least one digit, and nothing else. -/
def isDigits (cs : List Char) : Bool := !cs.isEmpty && cs.all (·.isDigit)

/-- A whole part: digits without a leading zero, or one zero. -/
def isWhole : List Char → Bool
  | ['0'] => true
  | '0' :: _ => false
  | cs => isDigits cs

/-- An exponent: an optional sign, then digits. -/
def isExponent : List Char → Bool
  | '+' :: cs => isDigits cs
  | '-' :: cs => isDigits cs
  | cs => isDigits cs

/-- Whether an unsigned number with a fraction or an exponent is well formed. -/
def isFractional (cs : List Char) : Bool :=
  let mark := fun c => c == 'e' || c == 'E'
  let mantissa := cs.takeWhile (!mark ·)
  let exponent := cs.dropWhile (!mark ·)
  let whole := mantissa.takeWhile (· != '.')
  let fraction := mantissa.dropWhile (· != '.')
  isWhole whole && (fraction.isEmpty || isDigits (fraction.drop 1)) &&
    (exponent.isEmpty || isExponent (exponent.drop 1))

/-- The token of a number's text. -/
def numberToken? (cs : List Char) : Option Token :=
  let (negative, magnitude) :=
    match cs with
    | '-' :: rest => (true, rest)
    | _ => (false, cs)
  if isWhole magnitude then
    let n := decimalValue magnitude
    if negative && n == 0 then some (.fractional "-0")
    else some (.integer (if negative then -n else n))
  else if isFractional magnitude then some (.fractional (String.ofList cs))
  else none

/-- The token of a bare word. -/
def wordToken? (letters : List Char) : Option Token :=
  match String.ofList letters with
  | "null" => some .null
  | "true" => some (.bool true)
  | "false" => some (.bool false)
  | _ => none

/-- What one character between tokens yields or begins. -/
def beginToken (c : Char) : Option (List Token × Mode) :=
  match c with
  | ' ' | '\t' | '\n' | '\r' => some ([], .idle)
  | '\x7b' => some ([.openBrace], .idle)
  | '\x7d' => some ([.closeBrace], .idle)
  | '[' => some ([.openBracket], .idle)
  | ']' => some ([.closeBracket], .idle)
  | ',' => some ([.comma], .idle)
  | ':' => some ([.colon], .idle)
  | '\x22' => some ([], .string (some []))
  | c =>
    if c.isDigit || c == '-' then some ([], .number [c])
    else if c.isAlpha then some ([], .word [c])
    else none

/-- Take a complete token, then begin anew with `c`. -/
def endToken (token? : Option Token) (c : Char) : Option (List Token × Mode) := do
  let token ← token?
  let (tokens, mode) ← beginToken c
  return (token :: tokens, mode)

/-- The character of a one-letter escape. -/
def escaped? : Char → Option Char
  | '\x22' => some '\x22'
  | '\x5c' => some '\x5c'
  | '/' => some '/'
  | 'b' => some '\x08'
  | 'f' => some '\x0c'
  | 'n' => some '\n'
  | 'r' => some '\r'
  | 't' => some '\t'
  | _ => none

/-- What four digits of a numeric escape amount to: a character, or half of one. -/
def codeUnit (text : Partial) (high : Option Nat) (unit : Nat) : Mode :=
  match high with
  | some high =>
    if 0xdc00 ≤ unit && unit < 0xe000 then
      let c := Char.ofNat (0x10000 + (high - 0xd800) * 0x400 + (unit - 0xdc00))
      .string (text.map (c :: ·))
    else .string none
  | none =>
    if 0xd800 ≤ unit && unit < 0xdc00 then .low text unit false
    else if 0xdc00 ≤ unit && unit < 0xe000 then .string none
    else .string (text.map (Char.ofNat unit :: ·))

/-- The token of a complete string. -/
def stringToken : Partial → Token
  | some text => .string (String.ofList text.reverse)
  | none => .halfString

/-- Read one character inside a string. -/
def advanceString (text : Partial) (c : Char) : Option (List Token × Mode) :=
  if c == '\x22' then some ([stringToken text], .idle)
  else if c == '\x5c' then some ([], .escape text)
  else if c.toNat < 0x20 then none
  else some ([], .string (text.map (c :: ·)))

/-- Read one character after a backslash. -/
def advanceEscape (text : Partial) (c : Char) : Option (List Token × Mode) :=
  if c == 'u' then some ([], .code text none 0 0)
  else (escaped? c).map fun c => ([], .string (text.map (c :: ·)))

/-- Read one character. -/
def advance (mode : Mode) (c : Char) : Option (List Token × Mode) :=
  match mode with
  | .idle => beginToken c
  | .word letters =>
    if c.isAlpha then some ([], .word (c :: letters))
    else endToken (wordToken? letters.reverse) c
  | .number text =>
    if c.isDigit || c == '.' || c == 'e' || c == 'E' || c == '+' || c == '-' then
      some ([], .number (c :: text))
    else endToken (numberToken? text.reverse) c
  | .string text => advanceString text c
  | .escape text => advanceEscape text c
  | .code text high value count => do
    let value := 16 * value + (← hexValue? c)
    if count = 3 then return ([], codeUnit text high value)
    else return ([], .code text high value (count + 1))
  | .low text high false =>
    if c == '\x5c' then some ([], .low text high true) else advanceString none c
  | .low text high true =>
    if c == 'u' then some ([], .code text (some high) 0 0) else advanceEscape none c

/-- The tokens still due when the text ends. -/
def finish : Mode → Option (List Token)
  | .idle => some []
  | .word letters => (wordToken? letters.reverse).map ([·])
  | .number text => (numberToken? text.reverse).map ([·])
  | _ => none

/-- Read the remaining characters after the tokens `done`, which are kept backwards. -/
def tokenizeFrom (mode : Mode) (done : List Token) : List Char → Option (List Token)
  | [] => (finish mode).map (done.reverse ++ ·)
  | c :: rest =>
    match advance mode c with
    | none => none
    | some (tokens, mode) => tokenizeFrom mode (tokens.reverse ++ done) rest

/-- The tokens of a text. -/
def tokenize (text : List Char) : Option (List Token) := tokenizeFrom .idle [] text

end CallEngine.Json
