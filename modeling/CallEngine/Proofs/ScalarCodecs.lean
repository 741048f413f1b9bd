import CallEngine.Proofs.TaggedWords

/-!
# Bytes, words and integers of scalars

A scalar is written as bytes where it is an argument and as a word where it is a result, and each
of the two is read back by the kind of the scalar. Here it is shown that nothing is lost in either
form, that both hold the same low bits, and which bytes, words and integers there is a scalar for.
The same is shown of the tagged words of hosted values: a word from which a value is read is the word
of that value.
-/

namespace CallEngine

/-! ## Octets of numbers -/

namespace Binary

/-- Bytes are written again as they were read. -/
theorem octets_ofOctets (bytes : List UInt8) : octets bytes.length (ofOctets bytes) = bytes := by
  induction bytes with
  | nil => rfl
  | cons byte rest ih =>
    have hbyte : byte.toNat < 256 := byte.toNat_lt
    have hlow : (byte.toNat + 256 * ofOctets rest) % 256 = byte.toNat := by omega
    have hhigh : (byte.toNat + 256 * ofOctets rest) / 256 = ofOctets rest := by omega
    rw [ofOctets, List.length_cons, octets, hlow, hhigh, ih, UInt8.ofNat_toNat]

/-- Only the low part of a number is written. -/
theorem octets_mod (count n : Nat) : octets count (n % 256 ^ count) = octets count n := by
  have hback := octets_ofOctets (octets count n)
  rwa [length_octets, ofOctets_octets] at hback

/-- All bytes of zero are zero. -/
theorem octets_zero (count : Nat) : octets count 0 = List.replicate count 0 := by
  induction count with
  | zero => rfl
  | succ count ih =>
    rw [octets, Nat.zero_div, ih, List.replicate_succ]
    rfl

/-- The bytes behind the first ones are those of the high part. -/
theorem drop_octets {k count : Nat} (h : k ≤ count) (n : Nat) :
    (octets count n).drop k = octets (count - k) (n / 256 ^ k) := by
  induction k generalizing count n with
  | zero => rw [List.drop_zero, Nat.sub_zero, Nat.pow_zero, Nat.div_one]
  | succ k ih =>
    cases count with
    | zero => omega
    | succ count =>
      rw [octets, List.drop_succ_cons, ih (Nat.le_of_succ_le_succ h), Nat.add_sub_add_right,
        Nat.div_div_eq_div_mul, ← Nat.pow_succ']

end Binary

namespace ScalarKind

variable {k : ScalarKind} {n : Int}

/-- As many patterns of bits as of bytes. -/
theorem two_pow_width (k : ScalarKind) : 2 ^ k.width = 256 ^ k.size := Nat.pow_mul 2 8 k.size

/-- No kind is wider than a word. -/
theorem width_le (k : ScalarKind) : k.width ≤ 64 := Nat.mul_le_mul_left 8 k.size_le

/-- The integers of each kind. There are none of floats, and none of nothing. -/
def Spans : ScalarKind → Int → Prop
  | i8, n => -128 ≤ n ∧ n ≤ 127
  | u8, n => 0 ≤ n ∧ n ≤ 255
  | i16, n => -32768 ≤ n ∧ n ≤ 32767
  | u16, n => 0 ≤ n ∧ n ≤ 65535
  | i32, n => -2147483648 ≤ n ∧ n ≤ 2147483647
  | u32, n => 0 ≤ n ∧ n ≤ 4294967295
  | i64, n => -9223372036854775808 ≤ n ∧ n ≤ 9223372036854775807
  | u64, n | pointer, n => 0 ≤ n ∧ n ≤ 18446744073709551615
  | f32, _ | f64, _ | void, _ => False

/-- The integers of a kind are those of its range. -/
theorem spans_iff : k.Spans n ↔ k.isIntegral = true ∧ k.range.1 ≤ n ∧ n ≤ k.range.2 := by
  cases k with
  | f32 => exact iff_of_false id nofun
  | f64 => exact iff_of_false id nofun
  | void => exact iff_of_false id nofun
  | _ => exact (and_iff_right rfl).symm

instance (k : ScalarKind) (n : Int) : Decidable (k.Spans n) := decidable_of_iff _ spans_iff.symm

end ScalarKind

namespace Scalar

variable {s : Scalar} {k : ScalarKind} {n : Int} {bytes : List UInt8}

/-! ## Bytes and words -/

/-- Of a number, the bits that a kind has. -/
theorem raw_ofBits_mod (k : ScalarKind) (n : Nat) : (ofBits k n).raw = n % 256 ^ k.size := by
  rw [ofBits, raw, BitVec.toNat_ofNat, k.two_pow_width]

/-- Bits above those of a kind make no difference. -/
theorem ofBits_mod (k : ScalarKind) (n : Nat) : ofBits k (n % 256 ^ k.size) = ofBits k n := by
  rw [← raw_ofBits_mod]
  exact ofBits_raw (ofBits k n)

/-- The low part of the word of a scalar are its bits. -/
theorem toWord_mod (s : Scalar) : s.toWord.toNat % 256 ^ s.kind.size = s.raw := by
  rw [← raw_ofBits_mod]
  exact congrArg raw s.ofWord_toWord

/-- The bytes that a scalar takes are those of its bits. -/
theorem take_toBytes (s : Scalar) :
    s.toBytes.take s.kind.size = Binary.octets s.kind.size s.raw :=
  Binary.take_octets s.kind.size_le s.raw

/-- The bytes and the word of a scalar begin with the same bytes. -/
theorem take_toWord (s : Scalar) :
    s.toBytes.take s.kind.size = (Binary.octets 8 s.toWord.toNat).take s.kind.size := by
  rw [take_toBytes, Binary.take_octets s.kind.size_le, ← Binary.octets_mod _ s.toWord.toNat,
    toWord_mod]

/-- The bytes that a scalar does not take are zero. -/
theorem drop_toBytes (s : Scalar) :
    s.toBytes.drop s.kind.size = List.replicate (8 - s.kind.size) 0 := by
  rw [toBytes, Binary.drop_octets s.kind.size_le, Nat.div_eq_of_lt s.raw_lt, Binary.octets_zero]

/-- A scalar is read back from all of its bytes. -/
theorem ofBytes?_all (s : Scalar) : ofBytes? s.kind s.toBytes = some s := by
  have hback := s.ofBytes?_toBytes (s.toBytes.drop s.kind.size)
  rwa [List.take_append_drop] at hback

/-- A scalar is read from as many bytes as its kind has. -/
theorem exists_ofBytes? : (∃ s, ofBytes? k bytes = some s) ↔ k.size ≤ bytes.length := by
  simp [ofBytes?]

/-- A scalar that is read from bytes is written as these bytes. -/
theorem toBytes_of_ofBytes? (h : ofBytes? k bytes = some s) :
    s.kind = k ∧ s.toBytes.take k.size = bytes.take k.size := by
  have hroom := exists_ofBytes?.mp ⟨s, h⟩
  rw [ofBytes?, if_pos hroom] at h
  obtain rfl := Option.some.inj h
  refine ⟨rfl, ?_⟩
  have hlength : (bytes.take k.size).length = k.size := by
    rw [List.length_take, Nat.min_eq_left hroom]
  have hwritten : Binary.octets k.size (Binary.ofOctets (bytes.take k.size)) = bytes.take k.size := by
    have hback := Binary.octets_ofOctets (bytes.take k.size)
    rwa [hlength] at hback
  calc (ofBits k (Binary.ofOctets (bytes.take k.size))).toBytes.take k.size
      = Binary.octets k.size (ofBits k (Binary.ofOctets (bytes.take k.size))).raw :=
        take_toBytes (ofBits k (Binary.ofOctets (bytes.take k.size)))
    _ = Binary.octets k.size (Binary.ofOctets (bytes.take k.size)) := by
      rw [raw_ofBits_mod, Binary.octets_mod]
    _ = bytes.take k.size := hwritten

/-- From the bytes of a word the same scalar is read as from the word. -/
theorem ofBytes?_octets (k : ScalarKind) (word : UInt64) :
    ofBytes? k (Binary.octets 8 word.toNat) = some (ofWord k word) := by
  rw [ofBytes?, if_pos (by rw [Binary.length_octets]; exact k.size_le),
    Binary.take_octets k.size_le, Binary.ofOctets_octets, ofBits_mod, ofWord]

/-! ## Integers -/

/-- The number of a scalar is in the range of its kind. -/
theorem number_mem_range (s : Scalar) :
    s.kind.range.1 ≤ s.number ∧ s.number ≤ s.kind.range.2 := by
  have hcast (width : Nat) : (twoPow width : Int) = 2 ^ width := Int.natCast_pow 2 width
  unfold number ScalarKind.range
  by_cases hsigned : s.kind.isSigned = true
  · rw [if_pos hsigned, if_pos hsigned, hcast]
    exact ⟨BitVec.le_toInt s.bits, Int.le_sub_one_of_lt (BitVec.toInt_lt)⟩
  · rw [if_neg hsigned, if_neg hsigned, hcast]
    have hlt : (s.bits.toNat : Int) < 2 ^ s.kind.width := by exact_mod_cast s.bits.isLt
    exact ⟨Int.natCast_nonneg _, Int.le_sub_one_of_lt hlt⟩

/-- A kind has a scalar for each of its integers. -/
theorem exists_ofInteger?_iff_spans : (∃ s, ofInteger? k n = some s) ↔ k.Spans n := by
  rw [ScalarKind.spans_iff]
  simp [ofInteger?, and_assoc]

/-- The number of a scalar has the bits of the scalar. -/
theorem ofInt_number (s : Scalar) : BitVec.ofInt s.kind.width s.number = s.bits := by
  unfold number
  split
  · exact BitVec.ofInt_toInt
  · rw [BitVec.ofInt_natCast, BitVec.ofNat_toNat, BitVec.setWidth_eq]

/-- The scalar of an integer is the one of its kind that denotes it. -/
theorem ofInteger?_eq_some_iff : ofInteger? k n = some s ↔ s.kind = k ∧ s.asInteger = some n := by
  constructor
  · intro h
    obtain ⟨hkind, hinteger, _⟩ := ofInteger?_eq_some h
    exact ⟨hkind, hinteger⟩
  · rintro ⟨rfl, hinteger⟩
    unfold asInteger at hinteger
    split at hinteger
    · rename_i hintegral
      obtain rfl := Option.some.inj hinteger
      obtain ⟨hle, hge⟩ := s.number_mem_range
      rw [ofInteger?, if_pos (by simp [hintegral, hle, hge]), ofInt_number]
    · cases hinteger

/-- A word denotes the same integer as its scalar, with a sign or without one. -/
theorem toWord_number (s : Scalar) :
    (if s.kind.isSigned then s.toWord.toBitVec.toInt else s.toWord.toNat) = s.number := by
  by_cases hsigned : s.kind.isSigned = true
  · rw [if_pos hsigned, toWord, if_pos hsigned, number, if_pos hsigned]
    exact BitVec.toInt_signExtend_of_le s.kind.width_le
  · rw [if_neg hsigned, toWord, if_neg hsigned, number, if_neg hsigned]
    exact congrArg Nat.cast (BitVec.toNat_setWidth_of_le s.kind.width_le)

end Scalar

/-! ## Tagged words -/

namespace Value

/-- A value that is read from a word has that word. -/
theorem toWord_of_ofWord? {value : Value} {word : UInt64} (h : ofWord? word = some value) :
    value.toWord = some word := by
  have hword : word.toNat < 2 ^ 64 := word.toNat_lt
  have hpow : twoPow 62 = 4611686018427387904 := rfl
  have hsame {n : Nat} (hn : n = word.toNat) : some (UInt64.ofNat n) = some word := by
    rw [hn, UInt64.ofNat_toNat]
  unfold ofWord? at h
  dsimp only at h
  split at h
  case h_1 hnil =>
    split at h
    · cases h
      exact hsame (n := 0) (by omega)
    · cases h
  case h_2 hfixnum =>
    cases h
    have hpayload : ((word.toNat / 4 : Nat) : Int) % (twoPow 62 : Int) = (word.toNat / 4 : Nat) :=
      Int.emod_eq_of_lt (Int.natCast_nonneg _) (by omega)
    have hlow : ((word.toNat / 4 : Nat) : Int).bmod (twoPow 62) % (twoPow 62 : Int) =
        (word.toNat / 4 : Nat) := Int.bmod_emod.trans hpayload
    have hint : (Int64.ofInt (((word.toNat / 4 : Nat) : Int).bmod (twoPow 62))).toInt =
        ((word.toNat / 4 : Nat) : Int).bmod (twoPow 62) := toInt_ofInt (isFixnum_bmod _)
    rw [toWord, hint, hlow]
    exact hsame (by omega)
  case h_3 hcharacter =>
    split at h
    · rename_i hvalid
      cases h
      rw [toWord, Char.toNat_ofNat, if_pos hvalid]
      exact hsame (by omega)
    · cases h
  case h_4 hnil hfixnum hcharacter =>
    have hobject : word.toNat % 4 = 3 := by
      have hnil' : word.toNat % 4 ≠ 0 := hnil
      have hfixnum' : word.toNat % 4 ≠ 1 := hfixnum
      have hcharacter' : word.toNat % 4 ≠ 2 := hcharacter
      omega
    cases h
    have hpayload : (UInt64.ofNat (word.toNat / 4)).toNat = word.toNat / 4 :=
      UInt64.toNat_ofNat_of_lt' (show _ < 2 ^ 64 by omega)
    rw [toWord, hpayload, if_pos (by omega)]
    exact hsame (by omega)

end Value

/-! ## All scalars and all words -/

namespace Scalar

/-- What the bytes and the word of a scalar hold. -/
structure Kept (s : Scalar) : Prop where
  /-- The scalar is read back from its bytes, -/
  bytes : ofBytes? s.kind s.toBytes = some s
  /-- and from its word. -/
  word : ofWord s.kind s.toWord = s
  /-- Both begin with the same bytes, as many as the kind has. -/
  same : s.toBytes.take s.kind.size = (Binary.octets 8 s.toWord.toNat).take s.kind.size
  /-- Behind them the bytes are filled up with zeros, -/
  zeros : s.toBytes.drop s.kind.size = List.replicate (8 - s.kind.size) 0
  /-- and the word is filled up so that it denotes the same number. -/
  number : (if s.kind.isSigned then s.toWord.toBitVec.toInt else s.toWord.toNat) = s.number

/-- What there are scalars of a kind for. -/
structure Read (k : ScalarKind) : Prop where
  /-- Bytes are enough if there are as many as the kind has. -/
  bytes_iff (bytes : List UInt8) : (∃ s, ofBytes? k bytes = some s) ↔ k.size ≤ bytes.length
  /-- The scalar is written as these bytes. -/
  bytes {bytes : List UInt8} {s : Scalar} (h : ofBytes? k bytes = some s) :
    s.kind = k ∧ s.toBytes.take k.size = bytes.take k.size
  /-- A word is read as its bytes are. -/
  word (word : UInt64) : ofBytes? k (Binary.octets 8 word.toNat) = some (ofWord k word)
  /-- There is a scalar for each integer in the range of the kind. -/
  integer_iff (n : Int) : (∃ s, ofInteger? k n = some s) ↔ k.Spans n
  /-- It is the scalar of the kind that denotes the integer. -/
  integer (n : Int) (s : Scalar) : ofInteger? k n = some s ↔ s.kind = k ∧ s.asInteger = some n

/-- Scalars are kept by their bytes and by their words, and what is read as a scalar of a kind is
what such a scalar is written as. A word that is read as a hosted value is the word of that value. -/
theorem codecs_agree : (∀ s : Scalar, s.Kept) ∧ (∀ k : ScalarKind, Read k) ∧
    ∀ (word : UInt64) (value : Value), Value.ofWord? word = some value →
      value.toWord = some word := by
  refine ⟨fun s => ?_, fun k => ?_, fun word value => Value.toWord_of_ofWord?⟩
  · constructor
    case bytes => exact s.ofBytes?_all
    case word => exact s.ofWord_toWord
    case same => exact s.take_toWord
    case zeros => exact s.drop_toBytes
    case number => exact s.toWord_number
  · constructor
    case bytes_iff => exact fun bytes => exists_ofBytes?
    case bytes => exact toBytes_of_ofBytes?
    case word => exact ofBytes?_octets k
    case integer_iff => exact fun n => exists_ofInteger?_iff_spans
    case integer => exact fun n s => ofInteger?_eq_some_iff

/-- The short integer `-10`. -/
def minusTen : Scalar := ofBits .i16 0xFFF6

/-- The short integer is read from its two bytes and whatever follows, and from a word of which the
upper part is arbitrary. It is the scalar of `-10`, and a byte has none for 128. The word 41 is that
of the fixnum 10. -/
theorem minusTen_kept :
    ofBytes? .i16 [0xF6, 0xFF, 7] = some minusTen ∧
    minusTen.toBytes.take 2 = [0xF6, 0xFF] ∧ minusTen.toBytes.drop 2 = List.replicate 6 0 ∧
    minusTen.toWord = 0xFFFFFFFFFFFFFFF6 ∧ ofWord .i16 0x1234FFF6 = minusTen ∧
    ofInteger? .i16 (-10) = some minusTen ∧ (¬ ∃ s, ofInteger? .i8 128 = some s) ∧
    (¬ ∃ s, ofBytes? .i16 [0xF6] = some s) ∧ (Value.fixnum 10).toWord = some 41 := by
  obtain ⟨hkept, hread, hvalues⟩ := codecs_agree
  have hbytes : ofBytes? .i16 [0xF6, 0xFF, 7] = some minusTen := by decide
  have hword : some (ofWord .i16 0x1234FFF6) = some minusTen :=
    ((hread .i16).word 0x1234FFF6).symm.trans (by decide)
  refine ⟨hbytes, ((hread .i16).bytes hbytes).2, (hkept minusTen).zeros, by decide,
    Option.some.inj hword, ((hread .i16).integer (-10) minusTen).mpr ⟨rfl, by decide⟩, ?_, ?_,
    hvalues 41 (.fixnum 10) (by decide +kernel)⟩
  · rw [(hread .i8).integer_iff]
    decide
  · rw [(hread .i16).bytes_iff]
    decide

end Scalar

end CallEngine
