import CallEngine.Binary.Format

/-!
# Shortest decimals

The text of a finite number has the fewest decimal digits that still read back as the same bit
pattern; of two such decimals of one length the nearer one is taken, the larger if both are
equally near. It is written positionally, never with an exponent.
-/

namespace CallEngine.Binary

/-- The decimal `digits * 10 ^ exponent`. -/
structure Decimal where
  digits : Nat
  exponent : Int
deriving Repr, DecidableEq

/-- The numbers that round to one pattern, in units of `2 ^ unit`: those from `low` to `high`
around `value`, the ends included exactly if `closed`. -/
structure Neighbourhood where
  low : Nat
  value : Nat
  high : Nat
  unit : Int
  closed : Bool

namespace Neighbourhood

/-- Around `significand * 2 ^ exponent` in the format `f`. The gap below a power of two is half
the gap above it. -/
def of (f : Format) (significand : Nat) (exponent : Int) : Neighbourhood where
  low :=
    if significand = twoPow f.fractionBits ∧ f.leastExponent < exponent then 4 * significand - 1
    else 4 * significand - 2
  value := 4 * significand
  high := 4 * significand + 2
  unit := exponent - 2
  closed := significand % 2 == 0

variable (n : Neighbourhood)

/-- The factors that bring units of `2 ^ unit` and of `10 ^ exponent` to one common unit. -/
def scales (exponent : Int) : Nat × Nat :=
  (twoPow n.unit.toNat * Nat.pow 10 (-exponent).toNat,
    twoPow (-n.unit).toNat * Nat.pow 10 exponent.toNat)

/-- Whether `digits * 10 ^ exponent` rounds to the pattern. -/
def holds (digits : Nat) (exponent : Int) : Bool :=
  let (binary, decimal) := n.scales exponent
  let point := digits * decimal
  if n.closed then n.low * binary ≤ point && point ≤ n.high * binary
  else n.low * binary < point && point < n.high * binary

/-- The decimal with last place `10 ^ exponent` that rounds to the pattern, if there is one. -/
def onGrid? (exponent : Int) : Option Nat :=
  let (binary, decimal) := n.scales exponent
  let point := n.value * binary
  let below := point / decimal
  match n.holds below exponent, n.holds (below + 1) exponent with
  | true, true => some (if 2 * (point - below * decimal) < decimal then below else below + 1)
  | true, false => some below
  | false, true => some (below + 1)
  | false, false => none

/-- The first hit on ever finer grids, of which at most `grids` are tried. -/
def search : (grids : Nat) → (exponent : Int) → Decimal
  | 0, exponent => ⟨n.value * (n.scales exponent).1 / (n.scales exponent).2, exponent⟩
  | grids + 1, exponent =>
    match n.onGrid? exponent with
    | some digits => ⟨digits, exponent⟩
    | none => search grids (exponent - 1)

/-- The shortest decimal that rounds to the pattern. The first grid is coarser than the number;
25 grids reach beyond 17 digits, at which every double is told apart. -/
def shortest : Decimal :=
  n.search 25 (((n.value.log2 : Int) + n.unit) * 30103 / 100000 + 2)

end Neighbourhood

namespace Decimal

/-- Positional text. -/
def positional (d : Decimal) : String :=
  let digits := toString d.digits
  if 0 ≤ d.exponent then digits ++ String.ofList (List.replicate d.exponent.toNat '0')
  else
    let places := (-d.exponent).toNat
    let padded := List.replicate (places + 1 - digits.length) '0' ++ digits.toList
    String.ofList (padded.take (padded.length - places)) ++ "." ++
      String.ofList (padded.drop (padded.length - places))

end Decimal

/-- The text of a bit pattern in the format `f`. -/
def Format.text (f : Format) (bits : Nat) : String :=
  match f.decode bits with
  | .nan _ _ => "NaN"
  | .infinite negative => if negative then "-inf" else "inf"
  | .finite negative significand exponent =>
    let magnitude :=
      if significand = 0 then "0"
      else (Neighbourhood.of f significand exponent).shortest.positional
    if negative then "-" ++ magnitude else magnitude

end CallEngine.Binary
