import CallEngine.Proofs.Crossing

/-!
# Integers that the heap keeps

An integer of up to 128 bits is held as a fixnum if it fits 62 bits, and else as a new bignum on the
heap, which gives back that integer and no other. A bignum object may also have been filled in by
hand. It is loaded if its length is right, and then it stands for the integer that its sign byte and
its limbs denote, however many limbs there are and whatever zeros stand at the high end.
-/

namespace CallEngine

variable {heap heap' : Heap} {handle : Handle} {n : Int}

/-- Storing an object adds it behind all others, if it is not refused. -/
theorem Heap.store_ok {tag : Tag} {bytes : List UInt8}
    (h : heap.store tag bytes = .ok (handle, heap')) :
    handle = heap.next ∧ heap' = heap.stored tag bytes := by
  obtain ⟨counted, hcounted, hpushed⟩ := map_eq_ok.mp h
  cases hpushed
  obtain rfl := Heap.reserve_ok hcounted
  exact ⟨rfl, rfl⟩

namespace Bignum

/-- A bignum in normal form is loaded from where it was stored. -/
theorem Normal.load_of_store {b : Bignum} (hb : b.Normal) (hsize : heap.objects.size < 2 ^ 64)
    (h : b.store heap = .ok (handle, heap')) : load heap' handle = .ok b := by
  obtain ⟨rfl, rfl⟩ := Heap.store_ok h
  exact load_eq_ok.mpr
    ⟨_, Heap.object_stored hsize .bignum b.payload, rfl, hb.ofPayload?_payload⟩

/-- How the payload of a bignum object is read. -/
structure Loads (heap : Heap) (handle : Handle) (payload : List UInt8) : Prop where
  /-- It is read exactly if there are a sign and whole limbs. -/
  loads_iff : (∃ b, load heap handle = .ok b) ↔ payload.length % 8 = 1
  /-- What is read is the normal form of the integer that is stored. -/
  loaded {b : Bignum} (h : load heap handle = .ok b) :
    b.Normal ∧ denoted b.negative b.limbs = storedInteger payload

/-- An object is read by its payload. -/
theorem loads_of_object {object : HeapObject} (hobject : heap.object handle = .ok object)
    (htag : object.tag = .bignum) : Loads heap handle object.payload := by
  have hread (b : Bignum) : load heap handle = .ok b ↔ ofPayload? object.payload = some b := by
    rw [load_eq_ok]
    constructor
    · rintro ⟨found, hfound, _, hpayload⟩
      obtain rfl : object = found := Except.ok.inj (hobject.symm.trans hfound)
      exact hpayload
    · intro hpayload
      exact ⟨object, hobject, htag, hpayload⟩
  constructor
  · constructor
    · rintro ⟨b, hb⟩
      exact (ofPayload?_eq_some.mp ((hread b).mp hb)).1
    · intro hlength
      obtain ⟨b, hb, _⟩ := exists_ofPayload? hlength
      exact ⟨b, (hread b).mpr hb⟩
  · intro b hb
    obtain ⟨_, hnormal, hint⟩ := ofPayload?_eq_some.mp ((hread b).mp hb)
    exact ⟨hnormal, (toInt_eq_denoted b).symm.trans hint⟩

/-- What becomes of a sign and of limbs. -/
structure Stores (negative : Bool) (limbs : List UInt64) : Prop where
  normal : (ofParts negative limbs).Normal
  denotes : denoted (ofParts negative limbs).negative (ofParts negative limbs).limbs =
    denoted negative limbs
  /-- Without a limit, the bignum can be stored. -/
  stores {heap : Heap} (hlimit : heap.limit = none) (hsize : heap.objects.size < 2 ^ 64) :
    ∃ handle heap', (ofParts negative limbs).store heap = .ok (handle, heap')
  /-- What was stored is loaded. -/
  loads {heap heap' : Heap} {handle : Handle} (hsize : heap.objects.size < 2 ^ 64)
    (h : (ofParts negative limbs).store heap = .ok (handle, heap')) :
    load heap' handle = .ok (ofParts negative limbs)

/-- Any sign and any limbs are stored in normal form. -/
theorem stores_ofParts (negative : Bool) (limbs : List UInt64) : Stores negative limbs where
  normal := normal_ofParts negative limbs
  denotes := by rw [← toInt_eq_denoted, toInt_ofParts]
  stores hlimit _ := ⟨_, _, Heap.store_eq hlimit .bignum _⟩
  loads hsize h := (normal_ofParts negative limbs).load_of_store hsize h

end Bignum

namespace Value

/-- A value holds an integer, for which it may have taken a new object. -/
structure Holds (n : Int) (heap : Heap) (value : Value) (heap' : Heap) : Prop where
  denotes : value.asInteger heap' = .ok (some n)
  fixnum_iff : (∃ k, value = .fixnum k) ↔ -2 ^ 61 ≤ n ∧ n < 2 ^ 61
  /-- A fixnum takes no object. -/
  unchanged (h : ∃ k, value = .fixnum k) : heap' = heap
  /-- All else is a bignum under a handle that named nothing. -/
  object (h : ¬ ∃ k, value = .fixnum k) : ∃ handle, value = .object handle ∧
    heap.object handle = .error (.invalidHandle handle) ∧ heap'.tagOf handle = .ok .bignum ∧
    heap.Grows heap' ∧ heap'.objects.size = heap.objects.size + 1

/-- An integer that fits a fixnum is held by that. -/
theorem holds_fixnum (h : isFixnum n = true) (heap : Heap) :
    Holds n heap (.fixnum (.ofInt n)) heap where
  denotes := by rw [asInteger, toInt_ofInt h]
  fixnum_iff := ⟨fun _ => isFixnum_iff.mp h, fun _ => ⟨_, rfl⟩⟩
  unchanged _ := rfl
  object hnone := absurd ⟨_, rfl⟩ hnone

/-- Any other integer of 128 bits is held by a new bignum. -/
theorem holds_bignum (h : ¬ isFixnum n = true) (hsize : heap.objects.size < 2 ^ 64)
    (hrange : -2 ^ 127 ≤ n ∧ n < 2 ^ 127) :
    Holds n heap (.object heap.next) (heap.stored .bignum (Bignum.ofInt n).payload) where
  denotes := asInteger_stored hsize hrange
  fixnum_iff := ⟨nofun, fun hfits => absurd (isFixnum_iff.mpr hfits) h⟩
  unchanged hfixnum := nomatch hfixnum
  object _ := by
    refine ⟨heap.next, rfl, ?_, ?_, heap.stored_grows _ _, Array.size_push _⟩
    · simp [Heap.object, Heap.toNat_next hsize]
    · rw [Heap.tagOf, Heap.object_stored hsize]
      rfl

end Value

/-- Integers are kept as they are, from a value to the heap and back. -/
theorem integers_kept :
    (∀ (heap : Heap) (n : Int), heap.limit = none → heap.objects.size < 2 ^ 64 →
      -2 ^ 127 ≤ n → n < 2 ^ 127 →
      ∃ value heap', Value.ofInteger n heap = .ok (value, heap') ∧ Value.Holds n heap value heap') ∧
    (∀ (heap : Heap) (handle : Handle) (object : HeapObject), heap.object handle = .ok object →
      object.tag = .bignum → Bignum.Loads heap handle object.payload) ∧
    (∀ (negative : Bool) (limbs : List UInt64), Bignum.Stores negative limbs) ∧
    ∀ (b : Bignum) (n : Int), b.Normal →
      (b.toWide? = some n ↔
        Bignum.denoted b.negative b.limbs = n ∧ -2 ^ 127 ≤ n ∧ n < 2 ^ 127) := by
  refine ⟨fun heap n hlimit hsize hmin hmax => ?_, fun heap handle object hobject htag => ?_,
    Bignum.stores_ofParts, fun b n hb => ?_⟩
  · by_cases hfixnum : Value.isFixnum n = true
    · exact ⟨_, _, Value.ofInteger_of_isFixnum hfixnum heap, Value.holds_fixnum hfixnum heap⟩
    · exact ⟨_, _, Value.ofInteger_of_not_isFixnum hfixnum hlimit,
        Value.holds_bignum hfixnum hsize ⟨hmin, hmax⟩⟩
  · exact Bignum.loads_of_object hobject htag
  · rw [← Bignum.toInt_eq_denoted]
    exact hb.toWide?_eq_some

/-- A heap with a bignum that was filled in by hand: a sign byte that is neither zero nor one, and a
zero limb at the high end. -/
def Heap.padded : Heap where
  objects := #[⟨.bignum, 2 :: 5 :: List.replicate 6 0 ++ 1 :: List.replicate 8 0⟩]
  allocated := 17

/-- The least integer of 128 bits becomes a bignum, behind one that was filled in by hand; and that
one is loaded as the negative integer it denotes. -/
theorem extremes_kept :
    (∃ value heap', Value.ofInteger (-2 ^ 127) Heap.padded = .ok (value, heap') ∧
      value.asInteger heap' = .ok (some (-2 ^ 127)) ∧ ¬ ∃ k, value = .fixnum k) ∧
    ∃ b, Bignum.load Heap.padded 0 = .ok b ∧ b.Normal ∧
      Bignum.denoted b.negative b.limbs = -(5 + 2 ^ 56) := by
  obtain ⟨hintegers, hloads, _⟩ := integers_kept
  obtain ⟨value, heap', hvalue, hholds⟩ := hintegers Heap.padded (-2 ^ 127) rfl (by decide)
    (Int.le_refl _) (by decide)
  have hloaded := hloads Heap.padded 0 _ rfl rfl
  obtain ⟨b, hb⟩ := hloaded.loads_iff.mpr (by decide)
  refine ⟨⟨value, heap', hvalue, hholds.denotes, fun hfixnum => ?_⟩, b, hb, ?_⟩
  · exact absurd (hholds.fixnum_iff.mp hfixnum) (by decide)
  · obtain ⟨hnormal, hdenoted⟩ := hloaded.loaded hb
    exact ⟨hnormal, hdenoted.trans (by decide)⟩

end CallEngine
