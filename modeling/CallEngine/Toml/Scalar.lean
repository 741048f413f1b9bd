import CallEngine.Binary.Power
import CallEngine.Json

/-!
# Words as values

A value that is not in quotes is a truth value, a number or a moment. No setting takes a number
with a fraction or a moment, so of these only the form is checked and the text is kept.
-/

namespace CallEngine.Toml

/-! ## Integers -/

/-- The digits of a number in which single underscores may stand between digits. -/
def plainDigits? (isDigit : Char → Bool) : List Char → Option (List Char)
  | [] => none
  | [c] => if isDigit c then some [c] else none
  | c :: '_' :: rest => if isDigit c then (plainDigits? isDigit rest).map (c :: ·) else none
  | c :: rest => if isDigit c then (plainDigits? isDigit rest).map (c :: ·) else none

/-- The number that digits of a base denote. -/
def numberOf (base : Nat) (digits : List Char) : Nat :=
  digits.foldl (fun n c => base * n + (Json.hexValue? c).getD 0) 0

/-- An unsigned decimal number: no zero may lead another digit. -/
def decimal? (cs : List Char) : Option Nat := do
  let digits ← plainDigits? Char.isDigit cs
  if digits.length > 1 && digits.head? = some '0' then none else some (numberOf 10 digits)

/-- The integer a word denotes, within 64 bits with a sign. -/
def integer? (word : String) : Option Int := do
  let n : Int ←
    match word.toList with
    | '0' :: 'x' :: cs =>
      (plainDigits? (fun c => (Json.hexValue? c).isSome) cs).map fun ds => (numberOf 16 ds : Int)
    | '0' :: 'o' :: cs =>
      (plainDigits? (fun c => '0' ≤ c && c ≤ '7') cs).map fun ds => (numberOf 8 ds : Int)
    | '0' :: 'b' :: cs =>
      (plainDigits? (fun c => c == '0' || c == '1') cs).map fun ds => (numberOf 2 ds : Int)
    | '+' :: cs => (decimal? cs).map fun n => (n : Int)
    | '-' :: cs => (decimal? cs).map fun n => -(n : Int)
    | cs => (decimal? cs).map fun n => (n : Int)
  if -(twoPow 63 : Int) ≤ n && n < twoPow 63 then some n else none

/-! ## Numbers with a fraction or an exponent -/

/-- Whether a number starts with a minus, and the rest after its sign. -/
def splitSign : List Char → Bool × List Char
  | '+' :: cs => (false, cs)
  | '-' :: cs => (true, cs)
  | cs => (false, cs)

/-- Whether `digits * 10 ^ exponent` is too large for a double. The least such number lies half a
place above the largest double. -/
def isBeyondDouble (digits : Nat) (exponent : Int) : Bool :=
  let size := (Nat.toDigits 10 digits).length + exponent
  if digits = 0 || size < 300 then false
  else if 320 < size then true
  else
    (twoPow 1024 - twoPow 970) * Nat.pow 10 (-exponent).toNat ≤
      digits * Nat.pow 10 exponent.toNat

/-- An exponent: digits after an optional sign, which zeros may lead. -/
def exponent? (cs : List Char) : Option Int := do
  let (negative, magnitude) := splitSign cs
  let n := numberOf 10 (← plainDigits? Char.isDigit magnitude)
  return if negative then -n else n

/-- The digits and the exponent of an unsigned number that has a fraction or an exponent. -/
def scientific? (cs : List Char) : Option (Nat × Int) := do
  let mark := fun c => c == 'e' || c == 'E'
  let mantissa := cs.takeWhile (!mark ·)
  let exponent := cs.dropWhile (!mark ·)
  let whole := mantissa.takeWhile (· != '.')
  let fraction := mantissa.dropWhile (· != '.')
  guard (!fraction.isEmpty || !exponent.isEmpty)
  let whole ← decimal? whole
  let places ← if fraction.isEmpty then some [] else plainDigits? Char.isDigit (fraction.drop 1)
  let exponent ← if exponent.isEmpty then some 0 else exponent? (exponent.drop 1)
  return (whole * Nat.pow 10 places.length + numberOf 10 places, exponent - places.length)

/-- Whether a word is a number with a fraction or an exponent, an infinity or not a number. A
positive number must not be too large for a double. -/
def isFloat (cs : List Char) : Bool :=
  let (negative, magnitude) := splitSign cs
  magnitude = "inf".toList || magnitude = "nan".toList ||
    match scientific? magnitude with
    | some (digits, exponent) => negative || !isBeyondDouble digits exponent
    | none => false

/-! ## Moments -/

/-- Two digits for a number from `low` to `high`, and what follows. -/
def twoDigits? (low high : Nat) : List Char → Option (Nat × List Char)
  | a :: b :: rest =>
    let n := numberOf 10 [a, b]
    if a.isDigit && b.isDigit && low ≤ n && n ≤ high then some (n, rest) else none
  | _ => none

/-- What follows one given character. -/
def after? (c : Char) : List Char → Option (List Char)
  | d :: rest => if d = c then some rest else none
  | [] => none

/-- The number of days of a month. -/
def daysIn (year month : Nat) : Nat :=
  if month = 2 then
    if year % 4 = 0 && (year % 100 != 0 || year % 400 = 0) then 29 else 28
  else if [4, 6, 9, 11].contains month then 30
  else 31

/-- What follows a date of the calendar, year first. -/
def afterDate? : List Char → Option (List Char)
  | a :: b :: c :: d :: rest => do
    guard ([a, b, c, d].all Char.isDigit)
    let (month, rest) ← twoDigits? 1 12 (← after? '-' rest)
    let (_, rest) ← twoDigits? 1 (daysIn (numberOf 10 [a, b, c, d]) month) (← after? '-' rest)
    return rest
  | _ => none

/-- What follows a time of day; a minute may have a leap second. -/
def afterTime? (cs : List Char) : Option (List Char) := do
  let (_, rest) ← twoDigits? 0 23 cs
  let (_, rest) ← twoDigits? 0 59 (← after? ':' rest)
  let (_, rest) ← twoDigits? 0 60 (← after? ':' rest)
  match rest with
  | '.' :: places =>
    guard ((places.head?.map Char.isDigit).getD false)
    return places.dropWhile Char.isDigit
  | _ => return rest

/-- Whether the rest of a moment is nothing or its distance from universal time. -/
def isOffset : List Char → Bool
  | [] => true
  | ['Z'] | ['z'] => true
  | sign :: cs =>
    let rest := do
      let (_, rest) ← twoDigits? 0 23 cs
      let (_, rest) ← twoDigits? 0 59 (← after? ':' rest)
      return rest
    (sign == '+' || sign == '-') && rest == some []

/-- Whether a word is a date, a time of day, or a date and a time of day. -/
def isMoment (cs : List Char) : Bool :=
  match afterDate? cs with
  | none => afterTime? cs == some []
  | some [] => true
  | some (delimiter :: rest) =>
    ['T', 't', ' '].contains delimiter && ((afterTime? rest).map isOffset).getD false

/-- The value a bare word denotes. -/
def wordValue? (word : String) : Option Json :=
  match word with
  | "true" => some (.bool true)
  | "false" => some (.bool false)
  | _ =>
    if isFloat word.toList || isMoment word.toList then some (.fractional word)
    else (integer? word).map .integer

end CallEngine.Toml
