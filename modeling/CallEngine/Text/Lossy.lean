import CallEngine.Text.Bytes

/-!
# Bytes as text, whatever they are

Bytes that are not UTF-8 are read with a replacement character for each longest start of a
sequence that cannot be completed, and for each byte that starts none.
-/

namespace CallEngine.Text

/-- The character that stands for bytes without a meaning. -/
def replacement : Char := '\uFFFD'

/-- A sequence that is not complete: the bits read so far, and the range that each byte still due
has to lie in. -/
structure Sequence where
  bits : Nat
  due : List (Nat × Nat)

/-- What the first byte of a sequence of several bytes begins. -/
def sequence? (first : Nat) : Option Sequence :=
  let any := (0x80, 0xbf)
  if 0xc2 ≤ first && first ≤ 0xdf then some ⟨first - 0xc0, [any]⟩
  else if first == 0xe0 then some ⟨0, [(0xa0, 0xbf), any]⟩
  else if first == 0xed then some ⟨0xd, [(0x80, 0x9f), any]⟩
  else if 0xe1 ≤ first && first ≤ 0xef then some ⟨first - 0xe0, [any, any]⟩
  else if first == 0xf0 then some ⟨0, [(0x90, 0xbf), any, any]⟩
  else if first == 0xf4 then some ⟨4, [(0x80, 0x8f), any, any]⟩
  else if 0xf1 ≤ first && first ≤ 0xf3 then some ⟨first - 0xf0, [any, any, any]⟩
  else none

/-- Read a byte that begins something: what it yields and what it leaves open. -/
def beginSequence (byte : Nat) : List Char × Option Sequence :=
  if byte < 0x80 then ([Char.ofNat byte], none)
  else
    match sequence? byte with
    | some s => ([], some s)
    | none => ([replacement], none)

/-- Read a byte after what is open. -/
def advanceSequence (pending : Option Sequence) (byte : Nat) : List Char × Option Sequence :=
  match pending with
  | none | some ⟨_, []⟩ => beginSequence byte
  | some ⟨bits, (low, high) :: due⟩ =>
    let bits := 64 * bits + byte % 64
    if low ≤ byte && byte ≤ high then
      if due.isEmpty then ([Char.ofNat bits], none) else ([], some ⟨bits, due⟩)
    else
      let (chars, pending) := beginSequence byte
      (replacement :: chars, pending)

/-- Read the remaining bytes after what is open. -/
def lossyChars (pending : Option Sequence) : List UInt8 → List Char
  | [] => if pending.isSome then [replacement] else []
  | byte :: rest =>
    let (chars, pending) := advanceSequence pending byte.toNat
    chars ++ lossyChars pending rest

/-- The text of any bytes. -/
def ofBytes (bytes : List UInt8) : String := String.ofList (lossyChars none bytes)

end CallEngine.Text
