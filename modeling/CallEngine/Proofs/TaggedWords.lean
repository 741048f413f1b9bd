import CallEngine.Proofs.PassedValues

/-!
# What a tagged word keeps of a value

A tagged word has 62 bits for what it carries. A handle that does not fit them is refused, and every
character fits. A fixnum is never refused: the word keeps its low 62 bits. So a value is read back
from its word, unless it is a fixnum beyond the range of 62 bits; then another integer is read,
which is the one that has the word by right. The fixnums that are made for integers are all in
range, and so are those that are read from words.
-/

namespace CallEngine

namespace Value

variable {value other : Value} {word : UInt64} {n : Int}

/-! ## The low bits of a fixnum -/

/-- A fixnum is in the range of the 62 bits that a word has for it. -/
def FitsWord : Value → Prop
  | fixnum k => -2 ^ 61 ≤ k.toInt ∧ k.toInt < 2 ^ 61
  | _ => True

/-- What a word keeps of a value: of a fixnum, the integer that its low 62 bits denote. -/
def kept : Value → Value
  | fixnum k => fixnum (.ofInt (k.toInt.bmod (2 ^ 62)))
  | value => value

/-- The low 62 bits of an integer denote a fixnum in range. -/
theorem isFixnum_bmod (n : Int) : isFixnum (n.bmod (2 ^ 62)) = true := by
  have hle := Int.le_bmod (x := n) (m := 2 ^ 62) (by decide)
  have hlt := Int.bmod_lt (x := n) (m := 2 ^ 62) (by decide)
  exact isFixnum_iff.mpr ⟨by omega, by omega⟩

/-- A fixnum fits a word if it is in the range of fixnums. -/
theorem fitsWord_iff : value.FitsWord ↔ ∀ k, value = .fixnum k → isFixnum k.toInt = true := by
  cases value with
  | fixnum k =>
    rw [FitsWord, ← isFixnum_iff]
    constructor
    · intro hfits j hj
      rw [← fixnum.inj hj]
      exact hfits
    · intro hfixnum
      exact hfixnum k rfl
  | _ => exact ⟨fun _ => nofun, fun _ => trivial⟩

/-- What is kept fits. -/
theorem fitsWord_kept (value : Value) : value.kept.FitsWord := by
  cases value with
  | fixnum k =>
    have hrange := isFixnum_bmod k.toInt
    rw [← toInt_ofInt hrange] at hrange
    exact isFixnum_iff.mp hrange
  | _ => trivial

/-- All of a value is kept exactly if it fits. -/
theorem kept_eq_self_iff : value.kept = value ↔ value.FitsWord := by
  constructor
  · intro hkept
    rw [← hkept]
    exact fitsWord_kept value
  · intro hfits
    cases value with
    | fixnum k =>
      obtain ⟨hmin, hmax⟩ := hfits
      have hsame : k.toInt.bmod (2 ^ 62) = k.toInt := Int.bmod_eq_of_le (by omega) (by omega)
      rw [kept, hsame, Int64.ofInt_toInt]
    | _ => rfl

/-- A value has the word of what is kept of it. -/
theorem toWord_kept (value : Value) : value.kept.toWord = value.toWord := by
  cases value with
  | fixnum k =>
    have hlow : (Int64.ofInt (k.toInt.bmod (2 ^ 62))).toInt % (twoPow 62 : Int) =
        k.toInt % (twoPow 62 : Int) := by
      rw [toInt_ofInt (isFixnum_bmod k.toInt)]
      exact Int.bmod_emod
    rw [kept, toWord, toWord, hlow]
  | _ => rfl

/-- The value of a word is what was kept. -/
theorem ofWord?_eq_kept (h : value.toWord = some word) : ofWord? word = some value.kept :=
  ofWord?_toWord (fitsWord_iff.mp (fitsWord_kept value)) ((toWord_kept value).trans h)

/-- Two values have the same word if the same is kept of them. -/
theorem toWord_eq_some_iff (h : value.toWord = some word) :
    other.toWord = some word ↔ other.kept = value.kept := by
  constructor
  · intro hother
    exact Option.some.inj ((ofWord?_eq_kept hother).symm.trans (ofWord?_eq_kept h))
  · intro hkept
    rw [← toWord_kept, hkept, toWord_kept, h]

/-- Two integers have the same low 62 bits if these denote the same. -/
theorem bmod_eq_bmod_iff {m n : Int} :
    m.bmod (2 ^ 62) = n.bmod (2 ^ 62) ↔ m ≡ n [ZMOD (2 ^ 62 : Nat)] := by
  constructor
  · intro h
    rw [Int.ModEq, ← Int.bmod_emod, h, Int.bmod_emod]
  · intro h
    rw [← Int.emod_bmod, h, Int.emod_bmod]

/-- The same is kept of two values only if they are the same, or are fixnums with the same low 62
bits. -/
theorem kept_eq_kept_iff : other.kept = value.kept ↔
    other = value ∨ ∃ j k, other = .fixnum j ∧ value = .fixnum k ∧
      j.toInt ≡ k.toInt [ZMOD (2 ^ 62 : Nat)] := by
  constructor
  · intro hkept
    cases other with
    | fixnum j =>
      cases value with
      | fixnum k =>
        refine .inr ⟨j, k, rfl, rfl, bmod_eq_bmod_iff.mp ?_⟩
        have hints := congrArg Int64.toInt (fixnum.inj hkept)
        rwa [toInt_ofInt (isFixnum_bmod _), toInt_ofInt (isFixnum_bmod _)] at hints
      | _ => cases hkept
    | _ =>
      cases value with
      | fixnum k => cases hkept
      | _ => exact .inl hkept
  · rintro (rfl | ⟨j, k, rfl, rfl, hlow⟩)
    · rfl
    · rw [kept, kept, bmod_eq_bmod_iff.mpr hlow]

/-! ## Values that are made for integers and for words -/

/-- The value of an integer fits a word, in whatever way the integer is stored. -/
theorem fitsWord_of_ofInteger {heap heap' : Heap} (h : ofInteger n heap = .ok (value, heap')) :
    value.FitsWord := by
  by_cases hfixnum : isFixnum n = true
  · rw [ofInteger_of_isFixnum hfixnum] at h
    cases h
    rw [← toInt_ofInt hfixnum] at hfixnum
    exact isFixnum_iff.mp hfixnum
  · rw [ofInteger, ofFixnum?, if_neg hfixnum] at h
    obtain ⟨⟨handle, grown⟩, _, hvalue⟩ := map_eq_ok.mp h
    cases hvalue
    trivial

/-- The value of a word fits a word. -/
theorem fitsWord_of_ofWord? (h : ofWord? word = some value) : value.FitsWord := by
  unfold ofWord? at h
  dsimp only at h
  split at h
  · split at h
    · cases h
      trivial
    · cases h
  · cases h
    have hrange := isFixnum_bmod (word.toNat / 4 : Nat)
    rw [← toInt_ofInt hrange] at hrange
    exact isFixnum_iff.mp hrange
  · split at h
    · cases h
      trivial
    · cases h
  · cases h
    trivial

/-! ## Words as arguments and results -/

/-- A value is passed as `:object` if it has a word. -/
theorem exists_toForeign_object {heap : Heap} {memory : Memory} :
    (∃ s memory', Marshal.toForeign heap memory .object value = .ok (s, memory')) ↔
      value.HasWord := by
  rw [← exists_toWord_iff]
  constructor
  · rintro ⟨s, memory', h⟩
    obtain ⟨p, hp, _⟩ := map_eq_ok.mp h
    cases Marshal.passed_eq_ok.mp hp with
    | integer hty _ _ => cases hty
    | character hty _ => rcases hty with h | h <;> cases h
    | object hword => exact ⟨_, hword⟩
  · rintro ⟨word, hword⟩
    exact ⟨_, _, map_eq_ok.mpr ⟨_, (Marshal.Passing.object hword).passed, rfl⟩⟩

/-- Native code that returns what it was given as `:object` returns what was kept. -/
theorem toHosted_object {heap heap' : Heap} {memory memory' later : Memory} {s : Scalar}
    (h : Marshal.toForeign heap memory .object value = .ok (s, memory')) :
    Marshal.toHosted heap' later .object s = .ok (some value.kept, heap') := by
  obtain ⟨p, hp, hplaced⟩ := map_eq_ok.mp h
  cases Marshal.passed_eq_ok.mp hp with
  | integer hty _ _ => cases hty
  | character hty _ => rcases hty with h | h <;> cases h
  | @object _ word hword =>
    cases hplaced
    have hback : ofWord? (.ofNat (Scalar.ofBits .u64 word.toNat).raw) = some value.kept := by
      rw [Scalar.raw_ofBits word.toNat_lt, UInt64.ofNat_toNat]
      exact ofWord?_eq_kept hword
    have hkind : (Scalar.ofBits .u64 word.toNat).kind = ForeignType.object.kind := rfl
    unfold Marshal.toHosted
    dsimp only
    rw [if_neg (by decide), if_pos hkind, hback]

/-! ## All values -/

/-- What the word of a value tells about it. -/
structure WordTells (value : Value) : Prop where
  /-- A handle that does not fit is refused; a fixnum is not. -/
  has_word : (∃ word, value.toWord = some word) ↔ value.HasWord
  /-- What is kept is read back. -/
  reads {word : UInt64} (h : value.toWord = some word) : ofWord? word = some value.kept
  /-- The value itself is read back exactly if it fits. -/
  exact_iff {word : UInt64} (h : value.toWord = some word) :
    ofWord? word = some value ↔ value.FitsWord
  /-- The word is shared among fixnums with the same low 62 bits. -/
  shared_iff {word : UInt64} (h : value.toWord = some word) (other : Value) :
    other.toWord = some word ↔ other = value ∨ ∃ j k, other = .fixnum j ∧ value = .fixnum k ∧
      j.toInt ≡ k.toInt [ZMOD (2 ^ 62 : Nat)]
  /-- Among values that fit it is not shared. -/
  injective {word : UInt64} (h : value.toWord = some word) (hfits : value.FitsWord)
    {other : Value} (hother : other.FitsWord) : other.toWord = some word ↔ other = value
  /-- It decides on what is passed as an object. -/
  passed_iff (heap : Heap) (memory : Memory) :
    (∃ s memory', Marshal.toForeign heap memory .object value = .ok (s, memory')) ↔ value.HasWord
  /-- Native code that hands the object back hands back what was kept. -/
  returned {heap : Heap} {memory memory' : Memory} {s : Scalar}
    (h : Marshal.toForeign heap memory .object value = .ok (s, memory')) (heap' : Heap)
    (later : Memory) : Marshal.toHosted heap' later .object s = .ok (some value.kept, heap')
  /-- The value fits if it was made for an integer. -/
  made {n : Int} {heap heap' : Heap} (h : ofInteger n heap = .ok (value, heap')) : value.FitsWord
  /-- It fits if it was read from a word. -/
  decoded {word : UInt64} (h : ofWord? word = some value) : value.FitsWord

/-- A word holds what is kept of a value, which is all of it unless it is a fixnum out of range.
There are no such fixnums among the values of integers and of words. -/
theorem words_hold_what_is_kept (value : Value) : value.WordTells := by
  constructor
  case has_word => exact exists_toWord_iff
  case reads => exact ofWord?_eq_kept
  case exact_iff =>
    intro word h
    rw [ofWord?_eq_kept h, Option.some.injEq, kept_eq_self_iff]
  case shared_iff =>
    intro word h other
    rw [toWord_eq_some_iff h, kept_eq_kept_iff]
  case injective =>
    intro word h hfits other hother
    rw [toWord_eq_some_iff h, kept_eq_self_iff.mpr hfits, kept_eq_self_iff.mpr hother]
  case passed_iff => exact fun heap memory => exists_toForeign_object
  case returned => exact fun h heap' later => toHosted_object h
  case made => exact fitsWord_of_ofInteger
  case decoded => exact fitsWord_of_ofWord?

/-- The least positive fixnum out of range, `2 ^ 61`. -/
def aboveRange : Value := fixnum 0x2000000000000000

/-- The least positive fixnum out of range has a word, from which the least fixnum is read. -/
theorem aboveRange_keeps_low_bits :
    ∃ word, aboveRange.toWord = some word ∧ ofWord? word = some (fixnum (-0x2000000000000000)) ∧
      ¬ aboveRange.FitsWord := by
  have htells := words_hold_what_is_kept aboveRange
  obtain ⟨word, hword⟩ := htells.has_word.mpr (.fixnum _)
  have hback : ofWord? word = some (fixnum (-0x2000000000000000)) := htells.reads hword
  refine ⟨word, hword, hback, fun hfits => ?_⟩
  have hsame := (htells.exact_iff hword).mpr hfits
  rw [hback] at hsame
  exact absurd hsame (by decide)

/-- A fixnum of which all low 62 bits are zero, `2 ^ 62`. -/
def emptyLow : Value := fixnum 0x4000000000000000

/-- Such a fixnum has the word of zero, and zero is read from it. As an object it is passed as zero
is. -/
theorem emptyLow_shares_word :
    emptyLow ≠ fixnum 0 ∧ emptyLow.toWord = some 1 ∧ (fixnum 0).toWord = some 1 ∧
    ofWord? 1 = some (fixnum 0) ∧
    Marshal.toForeign {} {} .object emptyLow = Marshal.toForeign {} {} .object (fixnum 0) ∧
    ¬ ∀ value : Value, value.toWord = none ∨
      ∃ word, value.toWord = some word ∧ ofWord? word = some value := by
  have hlow : emptyLow.toWord = some 1 := by decide
  have hzero : (fixnum 0).toWord = some 1 := by decide
  have hback : ofWord? 1 = some (fixnum 0) := ofWord?_eq_kept hzero
  refine ⟨by decide, hlow, hzero, hback, ?_, fun hclaim => ?_⟩
  · rw [Marshal.toForeign, Marshal.toForeign, (Marshal.Passing.object hlow).passed,
      (Marshal.Passing.object hzero).passed]
  · rcases hclaim emptyLow with hnone | ⟨word, hword, hsame⟩
    · rw [hlow] at hnone
      cases hnone
    · obtain rfl : 1 = word := Option.some.inj (hlow.symm.trans hword)
      rw [hback] at hsame
      exact absurd hsame (by decide)

end Value

end CallEngine
