/-!
# Powers of two

The sizes of machine words are powers of two.
-/

namespace CallEngine

/-- The power of two with a given exponent: the number of patterns of that many bits. -/
def twoPow (bits : Nat) : Nat := Nat.pow 2 bits

end CallEngine
