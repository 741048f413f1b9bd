import CallEngine.Proofs.PassedValues

/-!
# Numbers that are passed as floats

A number is passed as a float type if the value itself holds it: a fixnum, a single or a double. The
heap is not asked. So an integer is passed as a float exactly if it is stored as a fixnum, and a
bignum is refused, while the integer types take the same integer by either of its forms.
-/

namespace CallEngine

/-- Values that hold a real number themselves. -/
inductive Value.HoldsReal : Value → Prop
  | fixnum (k : Int64) : HoldsReal (.fixnum k)
  | single (bits : UInt32) : HoldsReal (.single bits)
  | double (bits : UInt64) : HoldsReal (.double bits)

/-- The real number of a value is that which it holds. -/
theorem Value.exists_asReal_iff {value : Value} :
    (∃ bits, value.asReal = some bits) ↔ value.HoldsReal := by
  constructor
  · rintro ⟨bits, hbits⟩
    cases value with
    | fixnum k => exact .fixnum k
    | single bits => exact .single bits
    | double bits => exact .double bits
    | _ => cases hbits
  · rintro (k | bits | bits)
    · exact ⟨_, rfl⟩
    · exact ⟨_, rfl⟩
    · exact ⟨_, rfl⟩

/-- The value that is made for an integer stands for it. -/
theorem Value.standsFor_of_ofInteger {n : Int} {heap heap' : Heap} {value : Value}
    (hsize : heap.objects.size < 2 ^ 64) (h : ofInteger n heap = .ok (value, heap')) :
    value.StandsFor heap' n := by
  by_cases hfixnum : isFixnum n = true
  · rw [ofInteger_of_isFixnum hfixnum] at h
    cases h
    have hstands : StandsFor heap (.fixnum (.ofInt n)) (Int64.ofInt n).toInt := .fixnum _
    rwa [toInt_ofInt hfixnum] at hstands
  · rw [ofInteger, ofFixnum?, if_neg hfixnum] at h
    obtain ⟨⟨handle, grown⟩, hstore, hvalue⟩ := map_eq_ok.mp h
    cases hvalue
    obtain ⟨rfl, rfl⟩ := Heap.store_ok hstore
    have hobject := Heap.object_stored hsize .bignum (Bignum.ofInt n).payload
    obtain ⟨hlength, _, hint⟩ :=
      Bignum.ofPayload?_eq_some.mp (Bignum.normal_ofInt n).ofPayload?_payload
    have hstands := StandsFor.bignum hobject rfl hlength
    rwa [← hint, Bignum.toInt_ofInt] at hstands

/-- A value stands for one integer at most. -/
theorem Value.StandsFor.unique {heap : Heap} {value : Value} {n n' : Int}
    (h : value.StandsFor heap n) (h' : value.StandsFor heap n') : n = n' := by
  cases h with
  | fixnum k =>
    cases h'
    rfl
  | bignum hobject _ _ =>
    cases h' with
    | bignum hobject' _ _ =>
      cases hobject.symm.trans hobject'
      rfl

namespace Marshal

variable {heap : Heap} {ty : ForeignType} {value : Value} {m : MarshalContext}

/-- The scalar that native code is given for a double. -/
def floatScalar (ty : ForeignType) (bits : UInt64) : Scalar :=
  if ty = .float then .ofBits .f32 (Binary.narrow bits).toNat else .ofBits .f64 bits.toNat

/-- What is passed as a float type is told by the value alone. -/
theorem passed_float (hty : ty.isFloat = true) (heap : Heap) (value : Value) :
    passed heap ty value =
      match value.asReal with
      | some bits => .ok (.scalar (floatScalar ty bits))
      | none => .error (.typeMismatch ty "real" value.typeName) := by
  cases ty with
  | float => rfl
  | double => rfl
  | _ => cases hty

/-- A real number that a value holds is passed as a float type. -/
theorem toForeign_float (hty : ty.isFloat = true) {bits : UInt64} (h : value.asReal = some bits) :
    m.toForeign heap ty value = .ok (floatScalar ty bits, m) := by
  rw [MarshalContext.toForeign_eq, passed_float hty, h]
  rfl

/-- All else is refused as a float type. -/
theorem toForeign_not_float (hty : ty.isFloat = true) (h : value.asReal = none) :
    m.toForeign heap ty value = .error (.typeMismatch ty "real" value.typeName) := by
  rw [MarshalContext.toForeign_eq, passed_float hty, h]
  rfl

/-- A value is passed as a float type exactly if it holds a real number. -/
theorem exists_toForeign_float_iff (hty : ty.isFloat = true) :
    (∃ s m', m.toForeign heap ty value = .ok (s, m')) ↔ value.HoldsReal := by
  rw [← Value.exists_asReal_iff]
  cases hreal : value.asReal with
  | some bits => exact ⟨fun _ => ⟨bits, rfl⟩, fun _ => ⟨_, m, toForeign_float hty hreal⟩⟩
  | none =>
    rw [toForeign_not_float hty hreal]
    exact ⟨nofun, nofun⟩

/-- How an integer is passed, by the value that was made for it on a heap. -/
structure PassesInteger (n : Int) (heap : Heap) (value : Value) : Prop where
  /-- An integer type takes it if it is in range. -/
  integer_iff {ty : ForeignType} {least greatest : Int} (hty : ty.range? = some (least, greatest))
    (m : MarshalContext) :
    (∃ s m', m.toForeign heap ty value = .ok (s, m')) ↔ least ≤ n ∧ n ≤ greatest
  /-- A float type takes it if it is in the range of fixnums. -/
  float {ty : ForeignType} (hty : ty.isFloat = true) (m : MarshalContext)
    (hn : -2 ^ 61 ≤ n ∧ n < 2 ^ 61) :
    m.toForeign heap ty value = .ok (floatScalar ty (Binary.doubleOfInt n), m)
  /-- Any other integer is refused by it, as an object. -/
  refused {ty : ForeignType} (hty : ty.isFloat = true) (m : MarshalContext)
    (hn : ¬ (-2 ^ 61 ≤ n ∧ n < 2 ^ 61)) :
    m.toForeign heap ty value = .error (.typeMismatch ty "real" "object")

/-- An integer is passed by what its value stands for, or by what it holds. -/
theorem passesInteger {n : Int} {heap' : Heap} (hlimit : heap.limit = none)
    (hsize : heap.objects.size < 2 ^ 64) (h : Value.ofInteger n heap = .ok (value, heap')) :
    PassesInteger n heap' value := by
  have hstands := Value.standsFor_of_ofInteger hsize h
  constructor
  case integer_iff =>
    intro ty least greatest hty m
    constructor
    · rintro ⟨s, m', hpassed⟩
      have hfloat : ty.isFloat = false := by
        cases ty <;> first | rfl | cases hty
      cases (given_of_toForeign hfloat hpassed).1 with
      | integer hrange hvalue hleast hgreatest =>
        cases hty.symm.trans hrange
        rw [hstands.unique hvalue]
        exact ⟨hleast, hgreatest⟩
      | _ => cases hty
    · rintro ⟨hleast, hgreatest⟩
      exact exists_toForeign (.integer hty hstands hleast hgreatest) m
  case float =>
    intro ty hty m hn
    have hfixnum := Value.isFixnum_iff.mpr hn
    rw [Value.ofInteger_of_isFixnum hfixnum] at h
    cases h
    apply toForeign_float hty
    rw [Value.asReal, Value.toInt_ofInt hfixnum]
  case refused =>
    intro ty hty m hn
    have hfixnum := mt Value.isFixnum_iff.mp hn
    rw [Value.ofInteger_of_not_isFixnum hfixnum hlimit] at h
    cases h
    exact toForeign_not_float hty rfl

/-- A float type takes the values that hold a real number, whatever the heap holds. An integer has
such a value if it is in the range of fixnums; all others are taken by the integer types only. -/
theorem floats_take_what_values_hold (n : Int) (hlimit : heap.limit = none)
    (hsize : heap.objects.size < 2 ^ 64) :
    (∃ value heap', Value.ofInteger n heap = .ok (value, heap') ∧ PassesInteger n heap' value) ∧
    ∀ (ty : ForeignType) (value : Value) (m : MarshalContext), ty.isFloat = true →
      ((∃ s m', m.toForeign heap ty value = .ok (s, m')) ↔ value.HoldsReal) := by
  refine ⟨?_, fun ty value m hty => exists_toForeign_float_iff hty⟩
  by_cases hfixnum : Value.isFixnum n = true
  · have h := Value.ofInteger_of_isFixnum hfixnum heap
    exact ⟨_, _, h, passesInteger hlimit hsize h⟩
  · have h := Value.ofInteger_of_not_isFixnum hfixnum hlimit
    exact ⟨_, _, h, passesInteger hlimit hsize h⟩

/-- The greatest fixnum is passed as a double, and as it is by an integer type. -/
theorem greatest_fixnum_passed :
    ∃ value heap', Value.ofInteger (2 ^ 61 - 1) {} = .ok (value, heap') ∧
      ({} : MarshalContext).toForeign heap' .double value =
        .ok (.ofBits .f64 (Binary.doubleOfInt (2 ^ 61 - 1)).toNat, {}) ∧
      ∃ s m', ({} : MarshalContext).toForeign heap' .int64 value = .ok (s, m') := by
  have hroom : ({} : Heap).objects.size < 2 ^ 64 := by decide
  obtain ⟨⟨value, heap', hvalue, hpasses⟩, _⟩ :=
    floats_take_what_values_hold (2 ^ 61 - 1) rfl hroom
  have hfloat := hpasses.float (show ForeignType.double.isFloat = true from rfl) {} (by decide)
  have hinteger := hpasses.integer_iff (show ForeignType.int64.range? = some _ from rfl) {}
  exact ⟨value, heap', hvalue, hfloat, hinteger.mpr (by decide)⟩

/-- The least positive integer that is no fixnum is refused as a double and as a single, though an
integer type takes it. -/
theorem least_bignum_refused :
    ∃ heap', Value.ofInteger (2 ^ 61) {} = .ok (.object 0, heap') ∧
      ({} : MarshalContext).toForeign heap' .double (.object 0) =
        .error (.typeMismatch .double "real" "object") ∧
      ({} : MarshalContext).toForeign heap' .float (.object 0) =
        .error (.typeMismatch .float "real" "object") ∧
      ∃ s m', ({} : MarshalContext).toForeign heap' .int64 (.object 0) = .ok (s, m') := by
  have hlarge : ¬ Value.isFixnum (2 ^ 61) = true := mt Value.isFixnum_iff.mp (by decide)
  have hroom : ({} : Heap).objects.size < 2 ^ 64 := by decide
  have hvalue := Value.ofInteger_of_not_isFixnum hlarge (show ({} : Heap).limit = none from rfl)
  have hpasses := passesInteger rfl hroom hvalue
  have hinteger := hpasses.integer_iff (show ForeignType.int64.range? = some _ from rfl) {}
  exact ⟨_, hvalue, toForeign_not_float rfl rfl, toForeign_not_float rfl rfl,
    hinteger.mpr (by decide)⟩

end Marshal

end CallEngine
