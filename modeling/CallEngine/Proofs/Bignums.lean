import CallEngine.Bignum
import CallEngine.Proofs.ScalarForms

/-!
# Bignums and the integers they denote

The limbs of a bignum are the digits of its magnitude in base `2 ^ 64`, the lowest first. In normal
form the highest limb is not zero and zero is not negative, so every integer is denoted by exactly
one bignum in normal form. Only such bignums are ever built, from an integer, from any sign and any
limbs, or from a stored form; and a stored form is read if its length is right, whatever its bytes
are.
-/

namespace CallEngine

/-- Bytes denote less than the power of 256 that has as many digits. -/
theorem Binary.ofOctets_lt (bytes : List UInt8) : ofOctets bytes < 256 ^ bytes.length := by
  induction bytes with
  | nil => simp [ofOctets]
  | cons byte rest ih =>
    have hbyte : byte.toNat < 256 := byte.toNat_lt
    rw [ofOctets, List.length_cons, Nat.pow_succ']
    omega

namespace Bignum

variable {b b' : Bignum} {limbs : List UInt64} {bytes : List UInt8} {n : Int}

/-! ## Limbs as digits -/

/-- The magnitude is the number with these digits. -/
theorem magnitude_eq_ofDigits (limbs : List UInt64) :
    magnitude limbs = Nat.ofDigits (2 ^ 64) (limbs.map UInt64.toNat) := by
  induction limbs with
  | nil => rfl
  | cons limb rest ih =>
    rw [magnitude, ih, List.map_cons, Nat.ofDigits_cons]
    rfl

/-- The limbs of a number are its digits. -/
theorem map_limbsOf (n : Nat) : (limbsOf n).map UInt64.toNat = Nat.digits (2 ^ 64) n := by
  fun_induction limbsOf n with
  | case1 => simp
  | case2 n ih =>
    have hlimb : (UInt64.ofNat ((n + 1) % twoPow 64)).toNat = (n + 1) % 2 ^ 64 :=
      UInt64.toNat_ofNat_of_lt' (Nat.mod_lt _ (by decide))
    rw [Nat.digits_def' (by decide) (Nat.succ_pos n), List.map_cons, ih, hlimb]
    rfl

/-- Limb `i` counts for `2 ^ (64 * i)`. -/
theorem magnitude_eq_sum (limbs : List UInt64) :
    magnitude limbs = ∑ i ∈ Finset.range limbs.length, (limbs.getD i 0).toNat * 2 ^ (64 * i) := by
  induction limbs with
  | nil => rfl
  | cons limb rest ih =>
    have hstep (i : Nat) : ((limb :: rest).getD (i + 1) 0).toNat * 2 ^ (64 * (i + 1)) =
        twoPow 64 * ((rest.getD i 0).toNat * 2 ^ (64 * i)) := by
      rw [List.getD_cons_succ, Nat.mul_succ, Nat.pow_add, ← Nat.mul_assoc, Nat.mul_comm]
      rfl
    rw [magnitude, ih, List.length_cons, Finset.sum_range_succ', Finset.mul_sum,
      Finset.sum_congr rfl fun i _ => hstep i, List.getD_cons_zero, Nat.mul_zero, Nat.pow_zero,
      Nat.mul_one, Nat.add_comm]

/-- A number is the magnitude of its limbs. -/
theorem magnitude_limbsOf (n : Nat) : magnitude (limbsOf n) = n := by
  rw [magnitude_eq_ofDigits, map_limbsOf, Nat.ofDigits_digits]

/-- Limbs without a zero at the high end are those of their magnitude. -/
theorem limbsOf_magnitude (h : ∀ hne : limbs ≠ [], limbs.getLast hne ≠ 0) :
    limbsOf (magnitude limbs) = limbs := by
  have hinjective : Function.Injective UInt64.toNat := fun _ _ => UInt64.toNat_inj.mp
  apply hinjective.list_map
  rw [map_limbsOf, magnitude_eq_ofDigits]
  apply Nat.digits_ofDigits _ (by decide)
  · intro digit hdigit
    obtain ⟨limb, _, rfl⟩ := List.mem_map.mp hdigit
    exact limb.toNat_lt
  · intro hne hzero
    rw [List.getLast_map] at hzero
    exact h (fun hnil => hne (congrArg _ hnil)) (hinjective hzero)

/-- The limbs of a number have no zero at the high end. -/
theorem getLast_limbsOf (n : Nat) (hne : limbsOf n ≠ []) : (limbsOf n).getLast hne ≠ 0 := by
  intro hzero
  have hdigits : Nat.digits (2 ^ 64) n ≠ [] := by
    rw [← map_limbsOf]
    simpa using hne
  have hlast := Nat.getLast_digit_ne_zero (2 ^ 64) (Nat.digits_ne_nil_iff_ne_zero.mp hdigits)
  simp only [← map_limbsOf, List.getLast_map, hzero] at hlast
  exact hlast rfl

/-- Zero limbs at the high end count for nothing. -/
theorem magnitude_trimLimbs (limbs : List UInt64) :
    magnitude (trimLimbs limbs) = magnitude limbs := by
  change magnitude (limbs.rdropWhile (· == 0)) = _
  induction limbs using List.reverseRecOn with
  | nil => rfl
  | append_singleton lower limb ih =>
    rw [List.rdropWhile_concat]
    split
    · rename_i hzero
      rw [ih, magnitude_eq_ofDigits, magnitude_eq_ofDigits, List.map_append, Nat.ofDigits_append,
        beq_iff_eq.mp hzero]
      simp
    · rfl

/-- A number of so many limbs is less than that power of their base. -/
theorem length_limbsOf_le_iff (n count : Nat) :
    (limbsOf n).length ≤ count ↔ n < (2 ^ 64) ^ count := by
  rw [← Nat.digits_length_le_iff (by decide), ← map_limbsOf, List.length_map]

/-! ## Normal forms -/

/-- The integer of a sign and of limbs, the lowest limb first. -/
def denoted (negative : Bool) (limbs : List UInt64) : Int :=
  let magnitude : Nat := ∑ i ∈ Finset.range limbs.length, (limbs.getD i 0).toNat * 2 ^ (64 * i)
  if negative then -magnitude else magnitude

/-- A bignum denotes the integer of its sign and its limbs. -/
theorem toInt_eq_denoted (b : Bignum) : b.toInt = denoted b.negative b.limbs := by
  rw [toInt, denoted, magnitude_eq_sum]

/-- The highest limb is not zero, and zero is not negative. -/
structure Normal (b : Bignum) : Prop where
  high (h : b.limbs ≠ []) : b.limbs.getLast h ≠ 0
  zero (h : b.limbs = []) : b.negative = false

/-- The bignum of an integer is in normal form. -/
theorem normal_ofInt (n : Int) : (ofInt n).Normal where
  high := getLast_limbsOf n.natAbs
  zero h := by
    have hzero : n.natAbs = 0 := by
      rw [← magnitude_limbsOf n.natAbs]
      exact congrArg magnitude h
    simp [ofInt, Int.natAbs_eq_zero.mp hzero]

/-- The bignum of an integer denotes it. -/
theorem toInt_ofInt (n : Int) : (ofInt n).toInt = n := by
  simp only [toInt, ofInt, magnitude_limbsOf, decide_eq_true_eq]
  split <;> omega

/-- A bignum in normal form is the bignum of the integer that it denotes. -/
theorem Normal.ofInt_toInt (h : b.Normal) : ofInt b.toInt = b := by
  obtain ⟨negative, limbs⟩ := b
  have hlimbs : limbsOf (magnitude limbs) = limbs := limbsOf_magnitude h.high
  have hmagnitude : (toInt ⟨negative, limbs⟩).natAbs = magnitude limbs := by
    cases negative <;> simp [toInt]
  have hsign : decide (toInt ⟨negative, limbs⟩ < 0) = negative := by
    cases negative with
    | false => simp [toInt]
    | true =>
      have hne : magnitude limbs ≠ 0 := by
        intro hzero
        rw [hzero] at hlimbs
        have hfalse := h.zero (hlimbs.symm.trans (by rw [limbsOf]))
        cases hfalse
      simp only [toInt, if_true, decide_eq_true_eq]
      omega
  rw [ofInt, hmagnitude, hlimbs, hsign]

/-- An integer has one normal form. -/
theorem Normal.eq_of_toInt (h : b.Normal) (h' : b'.Normal) (heq : b.toInt = b'.toInt) : b = b' := by
  rw [← h.ofInt_toInt, ← h'.ofInt_toInt, heq]

/-- Any sign and any limbs are brought into normal form. -/
theorem normal_ofParts (negative : Bool) (limbs : List UInt64) :
    (ofParts negative limbs).Normal where
  high h := by
    intro hzero
    apply List.rdropWhile_last_not (· == 0) limbs h
    exact beq_iff_eq.mpr hzero
  zero h := by
    have hempty : trimLimbs limbs = [] := h
    simp [ofParts, hempty]

/-- The normal form of a sign and of limbs denotes the same integer. -/
theorem toInt_ofParts (negative : Bool) (limbs : List UInt64) :
    (ofParts negative limbs).toInt = denoted negative limbs := by
  have hsame : magnitude (ofParts negative limbs).limbs = magnitude limbs :=
    magnitude_trimLimbs limbs
  rw [denoted, ← magnitude_eq_sum, toInt, hsame]
  cases negative with
  | false => rfl
  | true =>
    by_cases hempty : trimLimbs limbs = []
    · have hzero : magnitude limbs = 0 := by
        rw [← magnitude_trimLimbs, hempty]
        rfl
      simp [hzero]
    · simp [ofParts, hempty]

/-- What is in normal form is not changed. -/
theorem Normal.ofParts_eq (h : b.Normal) : ofParts b.negative b.limbs = b := by
  apply (normal_ofParts _ _).eq_of_toInt h
  rw [toInt_ofParts, toInt_eq_denoted]

/-! ## 128 bits -/

/-- A limb that is laid above a smaller number adds to it. -/
theorem toNat_or_shift {word : BitVec 128} {limb : UInt64} (hword : word.toNat < 2 ^ 64) :
    (word ||| BitVec.ofNat 128 limb.toNat <<< 64).toNat = word.toNat + 2 ^ 64 * limb.toNat := by
  have hlimb : limb.toNat < 2 ^ 64 := limb.toNat_lt
  have hshift : limb.toNat <<< 64 % 2 ^ 128 = limb.toNat <<< 64 := by
    apply Nat.mod_eq_of_lt
    rw [Nat.shiftLeft_eq]
    omega
  have hsmall : limb.toNat % 2 ^ 128 = limb.toNat := Nat.mod_eq_of_lt (by omega)
  rw [BitVec.toNat_or, BitVec.toNat_shiftLeft, BitVec.toNat_ofNat, hsmall, hshift, Nat.or_comm,
    ← Nat.shiftLeft_add_eq_or_of_lt hword, Nat.shiftLeft_eq]
  omega

/-- Two limbs that are laid over an empty word are their magnitude. -/
theorem toNat_assemble {limbs : List UInt64} (h : limbs.length ≤ 2) :
    (assemble 0 0 limbs).toNat = magnitude limbs := by
  have hone (limb : UInt64) :
      ((0 : BitVec 128) ||| BitVec.ofNat 128 limb.toNat <<< 0).toNat = limb.toNat := by
    have hlimb : limb.toNat < 2 ^ 64 := limb.toNat_lt
    have hsmall : limb.toNat % 2 ^ 128 = limb.toNat := Nat.mod_eq_of_lt (by omega)
    rw [BitVec.toNat_or, BitVec.shiftLeft_zero, BitVec.toNat_ofNat, hsmall]
    exact Nat.zero_or _
  match limbs, h with
  | [], _ => rfl
  | [low], _ =>
    rw [assemble, assemble, hone, magnitude, magnitude]
    rfl
  | [low, high], _ =>
    rw [assemble, assemble, assemble, toNat_or_shift (by rw [hone]; exact low.toNat_lt), hone]
    rfl

/-- What is read off two limbs is the integer, if it is in the range of 128 bits with a sign. -/
theorem toWide?_of_length_le (h : b.limbs.length ≤ 2) :
    b.toWide? = some n ↔ b.toInt = n ∧ -2 ^ 127 ≤ n ∧ n < 2 ^ 127 := by
  have hpow : twoPow 127 = 2 ^ 127 := rfl
  rw [toWide?, if_neg (by omega)]
  simp only [toNat_assemble h, toInt, hpow]
  cases b.negative <;> simp only [Bool.false_and, Bool.true_and, beq_iff_eq, if_true, if_false,
    Bool.false_eq_true] <;> grind

/-- In normal form, what fits 128 bits has at most two limbs. -/
theorem Normal.toWide?_eq_some (h : b.Normal) :
    b.toWide? = some n ↔ b.toInt = n ∧ -2 ^ 127 ≤ n ∧ n < 2 ^ 127 := by
  by_cases hlength : b.limbs.length ≤ 2
  · exact toWide?_of_length_le hlength
  · constructor
    · intro hsome
      rw [toWide?, if_pos (by omega)] at hsome
      cases hsome
    · rintro ⟨rfl, hrange⟩
      refine absurd ?_ hlength
      rw [← h.ofInt_toInt]
      apply (length_limbsOf_le_iff _ 2).mpr
      omega

/-! ## Stored forms -/

/-- The number in the eight bytes of limb `i`. -/
def limbAt (body : List UInt8) (i : Nat) : Nat := Binary.ofOctets ((body.drop (8 * i)).take 8)

/-- The first `count` limbs in these bytes. -/
def limbsIn (body : List UInt8) (count : Nat) : List UInt64 :=
  (List.range count).map fun i => .ofNat (limbAt body i)

/-- The integer of a stored form: the first byte is the sign, and limbs of eight bytes follow. -/
def storedInteger (bytes : List UInt8) : Int :=
  let magnitude : Nat := ∑ i ∈ Finset.range (bytes.length / 8), limbAt bytes.tail i * 2 ^ (64 * i)
  if bytes.headD 0 = 0 then magnitude else -magnitude

/-- The number in eight bytes is a limb. -/
theorem limbAt_lt (body : List UInt8) (i : Nat) : limbAt body i < 2 ^ 64 := by
  apply Nat.lt_of_lt_of_le (Binary.ofOctets_lt _)
  exact Nat.pow_le_pow_right (by decide) (List.length_take_le 8 _)

/-- Limbs are read from eight bytes each. -/
theorem limbsOfBytes?_of_length {body : List UInt8} {count : Nat} (h : body.length = 8 * count) :
    limbsOfBytes? body = some (limbsIn body count) := by
  induction count generalizing body with
  | zero =>
    obtain rfl := List.eq_nil_of_length_eq_zero h
    rfl
  | succ count ih =>
    match body, h with
    | a₀ :: a₁ :: a₂ :: a₃ :: a₄ :: a₅ :: a₆ :: a₇ :: rest, h =>
      have hrest : rest.length = 8 * count := by
        simp only [List.length_cons] at h
        omega
      have hlater (i : Nat) : limbAt (a₀ :: a₁ :: a₂ :: a₃ :: a₄ :: a₅ :: a₆ :: a₇ :: rest)
          (i + 1) = limbAt rest i := by
        rw [limbAt, Nat.mul_succ, Nat.add_comm, ← List.drop_drop]
        rfl
      rw [limbsOfBytes?, ih hrest, limbsIn, limbsIn, List.range_succ_eq_map, List.map_cons,
        List.map_map, Option.map_some]
      simp only [Function.comp_def, Nat.succ_eq_add_one, hlater]
      rfl

/-- Bytes are read as limbs only if none are left over. -/
theorem length_of_limbsOfBytes? {body : List UInt8} (h : limbsOfBytes? body = some limbs) :
    body.length % 8 = 0 := by
  fun_induction limbsOfBytes? body generalizing limbs with
  | case1 => rfl
  | case2 a₀ a₁ a₂ a₃ a₄ a₅ a₆ a₇ rest ih =>
    obtain ⟨lower, hlower, _⟩ := Option.map_eq_some_iff.mp h
    have hrest := ih hlower
    simp only [List.length_cons]
    omega
  | case3 => cases h

/-- The limbs that are read denote the integer of the stored form. -/
theorem denoted_limbAt {sign : UInt8} {body : List UInt8} {count : Nat}
    (h : body.length = 8 * count) :
    denoted (sign != 0) (limbsIn body count) = storedInteger (sign :: body) := by
  have hcount : (sign :: body).length / 8 = count := by
    rw [List.length_cons, h]
    omega
  have hlength : (limbsIn body count).length = count := by simp [limbsIn]
  have hsum : ∑ i ∈ Finset.range count, ((limbsIn body count).getD i 0).toNat * 2 ^ (64 * i) =
      ∑ i ∈ Finset.range count, limbAt body i * 2 ^ (64 * i) := by
    apply Finset.sum_congr rfl
    intro i hi
    have hlt : i < count := Finset.mem_range.mp hi
    simp [limbsIn, List.getD, hlt, UInt64.toNat_ofNat_of_lt' (limbAt_lt body i)]
  simp only [denoted, storedInteger, hcount, hlength, hsum, List.headD_cons, List.tail_cons]
  by_cases hsign : sign = 0 <;> simp [hsign]

/-- A stored form of the right length is read as the normal form of its integer. -/
theorem exists_ofPayload? (h : bytes.length % 8 = 1) :
    ∃ b, ofPayload? bytes = some b ∧ b.Normal ∧ b.toInt = storedInteger bytes := by
  cases bytes with
  | nil => cases h
  | cons sign body =>
    have hlength : body.length = 8 * (body.length / 8) := by
      rw [List.length_cons] at h
      omega
    refine ⟨ofParts (sign != 0) (limbsIn body (body.length / 8)), ?_, normal_ofParts _ _, ?_⟩
    · rw [ofPayload?, limbsOfBytes?_of_length hlength, Option.map_some]
    · rw [toInt_ofParts, denoted_limbAt hlength]

/-- A stored form is read exactly if there are a sign and whole limbs, and what is read is the
normal form of its integer. -/
theorem ofPayload?_eq_some :
    ofPayload? bytes = some b ↔
      bytes.length % 8 = 1 ∧ b.Normal ∧ b.toInt = storedInteger bytes := by
  constructor
  · intro h
    have hlength : bytes.length % 8 = 1 := by
      cases bytes with
      | nil => cases h
      | cons sign body =>
        obtain ⟨limbs, hlimbs, _⟩ := Option.map_eq_some_iff.mp h
        have hwhole := length_of_limbsOfBytes? hlimbs
        rw [List.length_cons]
        omega
    obtain ⟨read, hread, hnormal, hint⟩ := exists_ofPayload? hlength
    obtain rfl : read = b := Option.some.inj (hread.symm.trans h)
    exact ⟨hlength, hnormal, hint⟩
  · rintro ⟨hlength, hnormal, hint⟩
    obtain ⟨read, hread, hnormal', hint'⟩ := exists_ofPayload? hlength
    rw [hread, hnormal'.eq_of_toInt hnormal (hint'.trans hint.symm)]

/-- Limbs are read back from their bytes. -/
theorem limbsOfBytes?_flatMap (limbs : List UInt64) :
    limbsOfBytes? (limbs.flatMap fun limb => Binary.octets 8 limb.toNat) = some limbs := by
  induction limbs with
  | nil => rfl
  | cons limb rest ih =>
    have hoctets : Binary.ofOctets (Binary.octets 8 limb.toNat) = limb.toNat := by
      rw [Binary.ofOctets_octets]
      exact Nat.mod_eq_of_lt limb.toNat_lt
    rw [List.flatMap_cons]
    change (limbsOfBytes? (rest.flatMap fun limb => Binary.octets 8 limb.toNat)).map
      (UInt64.ofNat (Binary.ofOctets (Binary.octets 8 limb.toNat)) :: ·) = _
    rw [ih, hoctets, UInt64.ofNat_toNat]
    rfl

/-- A bignum in normal form is read back from its stored form. -/
theorem Normal.ofPayload?_payload (h : b.Normal) : ofPayload? b.payload = some b := by
  have hsign : ((if b.negative then 1 else 0 : UInt8) != 0) = b.negative := by
    cases b.negative <;> rfl
  rw [payload, ofPayload?, limbsOfBytes?_flatMap, Option.map_some, hsign, h.ofParts_eq]

end Bignum

end CallEngine
