/-!
# Little-endian octets

A number as a fixed count of bytes, the lowest first, and back.
-/

namespace CallEngine.Binary

/-- The lowest `count` bytes of a number, the lowest first. -/
def octets : (count : Nat) → Nat → List UInt8
  | 0, _ => []
  | count + 1, n => .ofNat (n % 256) :: octets count (n / 256)

/-- The number that bytes denote, the lowest first. -/
def ofOctets : List UInt8 → Nat
  | [] => 0
  | b :: rest => b.toNat + 256 * ofOctets rest

@[simp] theorem length_octets (count n : Nat) : (octets count n).length = count := by
  induction count generalizing n with
  | zero => rfl
  | succ count ih => simp [octets, ih]

end CallEngine.Binary
