import CallEngine.Foreign.Marshal
import CallEngine.Proofs.Refusal

/-!
# Marshaling

There is one way to pass a value for each kind of type, and what is refused is passed in none of
them. What native code returns may become a new object: a string, or an integer that is no fixnum.
The limit that a heap was created with is never changed by that.
-/

namespace CallEngine

/-! ## Values that are passed -/

namespace Passed

/-- The scalar to pass, if a copy is placed at an address. -/
def native (address : Nat) : Passed → Scalar
  | scalar s => s
  | copy _ => .pointer (.ofNat address)

/-- The copies to keep. -/
def copies (address : Nat) : Passed → List NativeString
  | scalar _ => []
  | copy bytes => [⟨address, bytes⟩]

end Passed

namespace Marshal

variable {heap : Heap} {ty : ForeignType} {value : Value} {p : Passed}

/-- What is passed for a value as a type. -/
inductive Passing (heap : Heap) : ForeignType → Value → Passed → Prop
  | integer {ty : ForeignType} {value : Value} {n : Int} {s : Scalar} (hty : ty.isInteger = true)
    (hn : integerOf heap ty value = .ok n) (hs : Scalar.ofInteger? ty.kind n = some s) :
    Passing heap ty value (.scalar s)
  | character {ty : ForeignType} {c : Char} (hty : ty = .char ∨ ty = .unsignedChar)
    (hc : c.toNat < 256) : Passing heap ty (.character c) (.scalar (.ofBits ty.kind c.toNat))
  | float {value : Value} {bits : UInt64} (hbits : value.asReal = some bits) :
    Passing heap .float value (.scalar (.ofBits .f32 (Binary.narrow bits).toNat))
  | double {value : Value} {bits : UInt64} (hbits : value.asReal = some bits) :
    Passing heap .double value (.scalar (.ofBits .f64 bits.toNat))
  | address (address : UInt64) :
    Passing heap .pointerVoid (.pointer address) (.scalar (.pointer address))
  | nullAddress : Passing heap .pointerVoid .nil (.scalar (.pointer 0))
  | string {handle : Handle} {bytes : List UInt8} (hbytes : stringOf heap handle = .ok bytes) :
    Passing heap .cstring (.object handle) (.copy bytes)
  | noString : Passing heap .cstring .nil (.scalar (.pointer 0))
  | object {value : Value} {word : UInt64} (hword : value.toWord = some word) :
    Passing heap .object value (.scalar (.ofBits .u64 word.toNat))

/-- A character is passed if its code fits a byte. -/
theorem passing_of_character {c : Char} (hty : ty = .char ∨ ty = .unsignedChar)
    (hp : (if c.toNat < 256 then .ok (.scalar (.ofBits ty.kind c.toNat))
      else .error (.characterOutOfRange c) : Except MarshalError Passed) = .ok p) :
    Passing heap ty (.character c) p := by
  split at hp
  · rename_i hc
    cases hp
    exact .character hty hc
  · cases hp

/-- What is passed is passed in one of these ways. -/
theorem passing_of_passed (hp : passed heap ty value = .ok p) : Passing heap ty value p := by
  unfold passed at hp
  by_cases hty : ty.isInteger = true
  · rw [if_pos hty] at hp
    obtain ⟨n, hn, hp⟩ := bind_eq_ok.mp hp
    split at hp
    · rename_i s hs
      cases hp
      exact .integer hty hn hs
    · cases hp
  · rw [if_neg hty] at hp
    cases ty with
    | char =>
      cases value with
      | character c => exact passing_of_character (.inl rfl) hp
      | _ => cases hp
    | unsignedChar =>
      cases value with
      | character c => exact passing_of_character (.inr rfl) hp
      | _ => cases hp
    | float =>
      dsimp only at hp
      split at hp
      · rename_i bits hbits
        cases hp
        exact .float hbits
      · cases hp
    | double =>
      dsimp only at hp
      split at hp
      · rename_i bits hbits
        cases hp
        exact .double hbits
      · cases hp
    | pointerVoid =>
      cases value with
      | pointer address =>
        cases hp
        exact .address address
      | nil =>
        cases hp
        exact .nullAddress
      | _ => cases hp
    | cstring =>
      cases value with
      | object handle =>
        obtain ⟨bytes, hbytes, rfl⟩ := map_eq_ok.mp hp
        exact .string hbytes
      | nil =>
        cases hp
        exact .noString
      | _ => cases hp
    | object =>
      dsimp only at hp
      split at hp
      · rename_i word hword
        cases hp
        exact .object hword
      · cases hp
    | void => cases hp
    | _ => exact absurd rfl hty

/-- What can be passed in one of these ways is. -/
theorem Passing.passed (h : Passing heap ty value p) : Marshal.passed heap ty value = .ok p := by
  unfold Marshal.passed
  cases h with
  | integer hty hn hs =>
    rw [if_pos hty, hn]
    refine bind_eq_ok.mpr ⟨_, rfl, ?_⟩
    rw [hs]
    rfl
  | character hty hc => rcases hty with rfl | rfl <;> exact if_pos hc
  | float hbits =>
    dsimp only
    rw [hbits]
    rfl
  | double hbits =>
    dsimp only
    rw [hbits]
    rfl
  | string hbytes => exact map_eq_ok.mpr ⟨_, hbytes, rfl⟩
  | object hword =>
    dsimp only
    rw [hword]
    rfl
  | _ => rfl

/-- These are all the ways in which values are passed. -/
theorem passed_eq_ok : passed heap ty value = .ok p ↔ Passing heap ty value p :=
  ⟨passing_of_passed, Passing.passed⟩

/-- What is placed is kept in front of the strings there are. -/
theorem place_eq (memory : Memory) (p : Passed) :
    place memory p =
      (p.native memory.nextAddress, ⟨p.copies memory.nextAddress ++ memory.strings⟩) := by
  cases p <;> rfl

end Marshal

/-! ## Objects that are stored -/

namespace Heap

variable {heap heap' : Heap} {tag : Tag} {bytes : List UInt8} {handle : Handle}

/-- Counting bytes does not change the limit. -/
theorem limit_reserve {size : Nat} (h : heap.reserve size = .ok heap') :
    heap'.limit = heap.limit := by
  simp only [reserve] at h
  split at h
  · cases h
    rfl
  · split at h
    · cases h
      rfl
    · cases h

/-- Storing an object does not change the limit. -/
theorem limit_store (h : heap.store tag bytes = .ok (handle, heap')) :
    heap'.limit = heap.limit := by
  obtain ⟨counted, hcounted, hpushed⟩ := map_eq_ok.mp h
  cases hpushed
  have hlimit := limit_reserve hcounted
  exact hlimit

end Heap

/-- An integer is stored on the heap only if it is no fixnum, and the limit stays. -/
theorem Value.limit_ofInteger {n : Int} {heap heap' : Heap} {value : Value}
    (h : ofInteger n heap = .ok (value, heap')) : heap'.limit = heap.limit := by
  unfold ofInteger at h
  split at h
  · cases h
    rfl
  · obtain ⟨stored, hstore, h⟩ := map_eq_ok.mp h
    cases h
    exact Heap.limit_store hstore

/-- What native code returns may be stored on the heap, and the limit stays. -/
theorem Marshal.limit_toHosted {heap heap' : Heap} {memory : Memory} {ty : ForeignType}
    {raw : Scalar} {value : Option Value}
    (h : toHosted heap memory ty raw = .ok (value, heap')) : heap'.limit = heap.limit := by
  unfold toHosted at h
  dsimp only at h
  generalize (if raw.kind = ty.kind then raw else Scalar.ofWord ty.kind raw.toWord).raw = bits at h
  split at h
  · obtain ⟨⟨stored, grown⟩, hstore, h⟩ := bind_eq_ok.mp h
    cases h
    exact Value.limit_ofInteger (mapError_eq_ok.mp hstore)
  · split at h
    case h_6 =>
      split at h
      · cases h
        rfl
      · split at h
        · cases h
        · obtain ⟨⟨handle, grown⟩, hstore, h⟩ := bind_eq_ok.mp h
          cases h
          exact Heap.limit_store (mapError_eq_ok.mp hstore)
    case h_7 =>
      split at h
      · cases h
        rfl
      · cases h
    all_goals
      cases h
      rfl

end CallEngine
