import CallEngine.Binary.Power
import CallEngine.Foreign.Memory
import CallEngine.Foreign.Scalar

/-!
# Functions of the process

What functions of the standard C library return that depend on their arguments only: absolute
values, decimal numbers, classes of characters, byte order, and searching and comparing strings.
Arguments arrive as register words. They are here so that programs that look up such functions can be
run.
-/

namespace CallEngine.Process

/-! ## Characters -/

def isUpper (c : Int) : Bool := 65 ≤ c && c ≤ 90

def isLower (c : Int) : Bool := 97 ≤ c && c ≤ 122

def isDigit (c : Int) : Bool := 48 ≤ c && c ≤ 57

def isHexDigit (c : Int) : Bool := isDigit c || (65 ≤ c && c ≤ 70) || (97 ≤ c && c ≤ 102)

def isSpace (c : Int) : Bool := c == 32 || (9 ≤ c && c ≤ 13)

def isGraph (c : Int) : Bool := 33 ≤ c && c ≤ 126

def isLetter (c : Int) : Bool := isUpper c || isLower c

def toLower (c : Int) : Int := if isUpper c then c + 32 else c

def toUpper (c : Int) : Int := if isLower c then c - 32 else c

/-- The classes of characters: the function, the bit that it returns for a member, and which
characters are members. -/
def classes : List (String × Int × (Int → Bool)) := [
  ("isupper", 256, isUpper),
  ("islower", 512, isLower),
  ("isalpha", 1024, isLetter),
  ("isdigit", 2048, isDigit),
  ("isxdigit", 4096, isHexDigit),
  ("isspace", 8192, isSpace),
  ("isprint", 16384, fun c => c == 32 || isGraph c),
  ("isgraph", 32768, isGraph),
  ("isblank", 1, fun c => c == 32 || c == 9),
  ("iscntrl", 2, fun c => (0 ≤ c && c < 32) || c == 127),
  ("ispunct", 4, fun c => isGraph c && !isLetter c && !isDigit c),
  ("isalnum", 8, fun c => isLetter c || isDigit c),
  ("isascii", 1, fun c => 0 ≤ c && c < 128)]

/-! ## Numbers -/

/-- The decimal number at the start of a string, after blanks and a sign, within 64 bits. -/
def decimal (bytes : List UInt8) : Int :=
  let code := fun (b : UInt8) => (b.toNat : Int)
  let (negative, rest) :=
    match bytes.dropWhile (isSpace ∘ code) with
    | 43 :: rest => (false, rest)
    | 45 :: rest => (true, rest)
    | rest => (false, rest)
  let n := (rest.takeWhile (isDigit ∘ code)).foldl (fun n b => 10 * n + (code b - 48)) 0
  if negative then max (-n) (-(twoPow 63 : Int)) else min n ((twoPow 63 : Int) - 1)

/-- The position of the lowest one among `width` bits, counted from one; zero if there is none. -/
def lowestOne (width n : Nat) : Nat :=
  ((List.range width).find? fun k => n / twoPow k % 2 == 1).elim 0 (· + 1)

/-- The lowest `count` bytes of a number in the opposite order. -/
def swapped (count n : Nat) : Nat := Binary.ofOctets (Binary.octets count n).reverse

/-! ## Strings -/

/-- The difference of the first bytes in which two strings differ, an ended one going on with a
zero. -/
def difference : List UInt8 → List UInt8 → Int
  | [], [] => 0
  | a :: _, [] => a.toNat
  | [], b :: _ => -(b.toNat : Int)
  | a :: as, b :: bs => if a = b then difference as bs else (a.toNat : Int) - b.toNat

/-- A string without capitals. -/
def lowered (bytes : List UInt8) : List UInt8 :=
  bytes.map fun b => .ofNat (toLower b.toNat).toNat

/-- Where a string occurs in another one first. -/
def occurrence? (part : List UInt8) : List UInt8 → Option Nat
  | [] => if part.isEmpty then some 0 else none
  | b :: rest =>
    if part.isPrefixOf (b :: rest) then some 0 else (occurrence? part rest).map (· + 1)

/-! ## Functions -/

/-- What a function returns; zero for one that does more than compute. -/
def result (memory : Memory) (name : String) (args : List Scalar) : Scalar :=
  let word := fun index => (args[index]?.map Scalar.toWord).getD 0
  let small := fun index => (Scalar.ofWord .i32 (word index)).number
  let large := fun index => (Scalar.ofWord .i64 (word index)).number
  let size := fun index => (word index).toNat
  let text := fun index => memory.read (word index)
  let within := fun (place : Option Nat) => match place with
    | some index => Scalar.pointer (word 0 + .ofNat index)
    | none => .pointer 0
  let letter : UInt8 := .ofNat (size 1)
  match name with
  | "abs" => .wrapInteger .i32 (small 0).natAbs
  | "labs" | "llabs" | "imaxabs" => .wrapInteger .i64 (large 0).natAbs
  | "atoi" | "atol" | "atoll" => .wrapInteger .i64 (decimal (text 0))
  | "ffs" => .ofBits .i32 (lowestOne 32 (size 0))
  | "ffsl" | "ffsll" => .ofBits .i32 (lowestOne 64 (size 0))
  | "htons" | "ntohs" => .ofBits .u16 (swapped 2 (size 0))
  | "htonl" | "ntohl" => .ofBits .u32 (swapped 4 (size 0))
  | "toascii" => .ofBits .i32 (size 0 % 128)
  | "tolower" => .wrapInteger .i32 (toLower (small 0))
  | "toupper" => .wrapInteger .i32 (toUpper (small 0))
  | "strlen" => .ofBits .u64 (text 0).length
  | "strnlen" => .ofBits .u64 (min (text 0).length (size 1))
  | "strcmp" | "strcoll" => .wrapInteger .i32 (difference (text 0) (text 1))
  | "strncmp" =>
    .wrapInteger .i32 (difference ((text 0).take (size 2)) ((text 1).take (size 2)))
  | "strcasecmp" => .wrapInteger .i32 (difference (lowered (text 0)) (lowered (text 1)))
  | "strncasecmp" =>
    .wrapInteger .i32
      (difference (lowered ((text 0).take (size 2))) (lowered ((text 1).take (size 2))))
  | "strchr" | "index" =>
    within ((text 0 ++ [0]).findIdx? (· == letter))
  | "strrchr" | "rindex" =>
    within (((text 0 ++ [0]).reverse.findIdx? (· == letter)).map ((text 0).length - ·))
  | "strchrnul" =>
    within (some (((text 0).findIdx? (· == letter)).getD (text 0).length))
  | "strstr" => within (occurrence? (text 1) (text 0))
  | "strspn" => .ofBits .u64 ((text 0).takeWhile (text 1).contains).length
  | "strcspn" => .ofBits .u64 ((text 0).takeWhile (!(text 1).contains ·)).length
  | "strpbrk" => within ((text 0).findIdx? (text 1).contains)
  | _ =>
    match classes.find? (·.1 == name) with
    | some (_, bit, isMember) => .wrapInteger .i32 (if isMember (small 0) then bit else 0)
    | none => .ofBits .u64 0

end CallEngine.Process
