import CallEngine.Binary.Power

/-!
# Binary interchange formats

Bit patterns of the single and double formats, read as exact dyadic numbers and produced from
them by rounding to the nearest pattern, an exact half going to the even one. Everything is
integer arithmetic on the patterns.
-/

namespace CallEngine.Binary

/-- A sign bit, an exponent field and a fraction field. -/
structure Format where
  exponentBits : Nat
  fractionBits : Nat

/-- The 32-bit format. -/
def single : Format := ⟨8, 23⟩

/-- The 64-bit format. -/
def double : Format := ⟨11, 52⟩

/-- What a bit pattern stands for; a finite one is `significand * 2 ^ exponent` with its sign. -/
inductive Datum where
  | nan (negative : Bool) (fraction : Nat)
  | infinite (negative : Bool)
  | finite (negative : Bool) (significand : Nat) (exponent : Int)
deriving Repr, DecidableEq

namespace Format

variable (f : Format)

/-- The exponent field of infinities and of what is no number. -/
def topField : Nat := twoPow f.exponentBits - 1

/-- The exponent of the last place of the numbers nearest to zero. -/
def leastExponent : Int := 2 - (twoPow (f.exponentBits - 1) : Int) - f.fractionBits

/-- The pattern of the sign. -/
def signBit (negative : Bool) : Nat :=
  if negative then twoPow (f.exponentBits + f.fractionBits) else 0

/-- Read a bit pattern. -/
def decode (bits : Nat) : Datum :=
  let fraction := bits % twoPow f.fractionBits
  let field := bits / twoPow f.fractionBits % twoPow f.exponentBits
  let negative := bits / twoPow (f.exponentBits + f.fractionBits) % 2 == 1
  if field = f.topField then
    if fraction = 0 then .infinite negative else .nan negative fraction
  else if field = 0 then .finite negative fraction f.leastExponent
  else .finite negative (twoPow f.fractionBits + fraction) (f.leastExponent + field - 1)

/-- Divide by `2 ^ shift`, to the nearest, an exact half to the even neighbour. -/
def shiftNearest (n shift : Nat) : Nat :=
  let q := n / twoPow shift
  let twice := 2 * (n % twoPow shift)
  if twoPow shift < twice ∨ (twice = twoPow shift ∧ q % 2 = 1) then q + 1 else q

/-- The pattern nearest to `significand * 2 ^ exponent`; too large a number is infinite. -/
def round (negative : Bool) (significand : Nat) (exponent : Int) : Nat :=
  if significand = 0 then f.signBit negative
  else
    let last := max f.leastExponent (exponent + significand.log2 - f.fractionBits)
    let places :=
      if last ≤ exponent then significand * twoPow (exponent - last).toNat
      else shiftNearest significand (last - exponent).toNat
    let magnitude := (last - f.leastExponent).toNat * twoPow f.fractionBits + places
    f.signBit negative + min magnitude (f.topField * twoPow f.fractionBits)

/-- The pattern nearest to an integer. -/
def ofInt (n : Int) : Nat := f.round (n < 0) n.natAbs 0

/-- The same number in another format, rounded where it has to be. What is no number keeps the
leading part of its fraction and becomes quiet. -/
def convert (target : Format) (bits : Nat) : Nat :=
  match f.decode bits with
  | .finite negative significand exponent => target.round negative significand exponent
  | .infinite negative => target.signBit negative + target.topField * twoPow target.fractionBits
  | .nan negative fraction =>
    let quiet := twoPow (target.fractionBits - 1)
    let kept := fraction * twoPow target.fractionBits / twoPow f.fractionBits % quiet
    target.signBit negative + target.topField * twoPow target.fractionBits + quiet + kept

end Format

/-- The double nearest to a single, which is always exact. -/
def widen (bits : UInt32) : UInt64 := .ofNat (single.convert double bits.toNat)

/-- The single nearest to a double. -/
def narrow (bits : UInt64) : UInt32 := .ofNat (double.convert single bits.toNat)

/-- The double nearest to an integer. -/
def doubleOfInt (n : Int) : UInt64 := .ofNat (double.ofInt n)

end CallEngine.Binary
