import CallEngine.Foreign.Type
import Mathlib

/-!
# The forms of a scalar

A scalar travels in two forms: as bytes in a call image and as a word in a register. Both are wide
enough for every kind, so a scalar that is read back by its own kind is the scalar that was written.
-/

namespace CallEngine

namespace Binary

/-- A number that is written in bytes is read back up to what the bytes can hold. -/
theorem ofOctets_octets (count n : Nat) : ofOctets (octets count n) = n % 256 ^ count := by
  induction count generalizing n with
  | zero => simp [octets, ofOctets, Nat.mod_one]
  | succ count ih =>
    have hlow : (UInt8.ofNat (n % 256)).toNat = n % 256 := by simp
    rw [octets, ofOctets, hlow, ih, Nat.pow_succ', Nat.mod_mul]

/-- The first bytes of a number are the bytes of the same number in a shorter form. -/
theorem take_octets {k count : Nat} (h : k ≤ count) (n : Nat) :
    (octets count n).take k = octets k n := by
  induction k generalizing count n with
  | zero => rfl
  | succ k ih =>
    cases count with
    | zero => omega
    | succ count => rw [octets, List.take_succ_cons, ih (Nat.le_of_succ_le_succ h), octets]

end Binary

/-- No kind has more than eight bytes. -/
theorem ScalarKind.size_le (k : ScalarKind) : k.size ≤ 8 := by
  cases k <;> decide

namespace Scalar

/-- The bits of a scalar fit the width of its kind. -/
theorem raw_lt (s : Scalar) : s.raw < 256 ^ s.kind.size := by
  have hbits : s.raw < 2 ^ (8 * s.kind.size) := s.bits.isLt
  rw [Nat.pow_mul] at hbits
  exact hbits

/-- A scalar is made of its bits. -/
theorem ofBits_raw (s : Scalar) : ofBits s.kind s.raw = s := by
  rw [ofBits, raw, BitVec.ofNat_toNat, BitVec.setWidth_eq]

/-- A scalar that was written as bytes is read back by its kind, whatever comes behind it. -/
theorem ofBytes?_toBytes (s : Scalar) (rest : List UInt8) :
    ofBytes? s.kind (s.toBytes.take s.kind.size ++ rest) = some s := by
  have hbytes : s.toBytes.take s.kind.size = Binary.octets s.kind.size s.raw :=
    Binary.take_octets s.kind.size_le s.raw
  have hlength : (Binary.octets s.kind.size s.raw).length = s.kind.size :=
    Binary.length_octets _ _
  have htake : (Binary.octets s.kind.size s.raw ++ rest).take s.kind.size =
      Binary.octets s.kind.size s.raw := by
    rw [List.take_append_of_le_length (Nat.le_of_eq hlength.symm), List.take_of_length_le
      (Nat.le_of_eq hlength)]
  have hroom : s.kind.size ≤ (Binary.octets s.kind.size s.raw ++ rest).length := by
    rw [List.length_append, hlength]
    exact Nat.le_add_right _ _
  rw [hbytes, ofBytes?, if_pos hroom, htake, Binary.ofOctets_octets, Nat.mod_eq_of_lt s.raw_lt,
    ofBits_raw]

/-- Sign extension to a word only adds bits above those of a shorter number. -/
theorem setWidth_signExtend {width : Nat} (bits : BitVec width) (hwidth : width ≤ 64) :
    (bits.signExtend 64).setWidth width = bits := by
  apply BitVec.eq_of_getLsbD_eq
  intro i hi
  have hsmall : i < 64 := Nat.lt_of_lt_of_le hi hwidth
  rw [BitVec.getLsbD_setWidth, BitVec.getLsbD_signExtend]
  simp [hi, hsmall]

/-- A scalar that was put into a register is read back by its kind. -/
theorem ofWord_toWord (s : Scalar) : ofWord s.kind s.toWord = s := by
  have hwidth : s.kind.width ≤ 64 := by
    cases s.kind <;> decide
  obtain ⟨kind, bits⟩ := s
  have hbits : BitVec.ofNat kind.width (toWord ⟨kind, bits⟩).toNat = bits := by
    unfold toWord
    split
    · exact (BitVec.ofNat_toNat _ _).trans (setWidth_signExtend bits hwidth)
    · refine (BitVec.ofNat_toNat _ _).trans ?_
      rw [BitVec.setWidth_setWidth_of_le _ hwidth, BitVec.setWidth_eq]
  exact congrArg (Scalar.mk kind) hbits

end Scalar

end CallEngine
