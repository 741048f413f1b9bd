import CallEngine.Proofs.Bignums
import CallEngine.Proofs.Marshaling

/-!
# Values that cross into native code and back

A value that is marshaled for native code and then marshaled back by the same type means what it
meant before: the same integer, whether it is a fixnum or a bignum, a string of the same contents,
the same character, float, address or object. It may take a new object to say so, and strings are
read from a copy in native memory, so both the heap and native memory may have grown in between.
-/

namespace CallEngine

/-! ## Texts as bytes -/

namespace Text

/-- The bytes of an array from `i` on are put behind those that were read before. -/
theorem toList_loop (bytes : ByteArray) (i : Nat) (read : List UInt8) :
    ByteArray.toList.loop bytes i read = read.reverse ++ bytes.data.toList.drop i := by
  fun_induction ByteArray.toList.loop bytes i read with
  | case1 i read hlt ih =>
    have hdata : i < bytes.data.toList.length := hlt
    have hget : bytes.get! i = bytes.data.toList[i] := by
      change bytes.data[i]! = _
      rw [getElem!_pos bytes.data i hlt, Array.getElem_toList]
    rw [ih, List.drop_eq_getElem_cons hdata, hget, List.reverse_cons, List.append_assoc,
      List.singleton_append]
  | case2 i read hge =>
    have hdata : bytes.data.toList.length ≤ i := Nat.not_lt.mp hge
    rw [List.drop_eq_nil_of_le hdata, List.append_nil]

/-- The bytes of a text are read back as that text. -/
theorem ofUtf8?_utf8 (text : String) : ofUtf8? (utf8 text) = some text := by
  have hlist : utf8 text = text.toByteArray.data.toList := toList_loop _ 0 []
  have hbytes : (utf8 text).toByteArray = text.toByteArray := by
    rw [hlist]
    ext1
    rw [List.data_toByteArray, Array.toArray_toList]
  rw [ofUtf8?, hbytes, String.fromUTF8?, dif_pos text.isValidUTF8]
  rfl

end Text

/-! ## Objects that are stored -/

namespace Heap

variable {heap heap' heap'' : Heap} {tag : Tag} {bytes : List UInt8} {handle : Handle}
  {object : HeapObject} {text : String}

/-- Objects may have been added, and the ones that were there are as they were. -/
structure Grows (heap heap' : Heap) : Prop where
  limit : heap'.limit = heap.limit
  object {handle : Handle} {object : HeapObject} (h : heap.object handle = .ok object) :
    heap'.object handle = .ok object

/-- No object was added. -/
theorem Grows.refl (heap : Heap) : heap.Grows heap := ⟨rfl, id⟩

/-- Objects were added once and again. -/
theorem Grows.trans (h : heap.Grows heap') (h' : heap'.Grows heap'') : heap.Grows heap'' :=
  ⟨h'.limit.trans h.limit, fun hobject => h'.object (h.object hobject)⟩

/-- The handle of the object that is allocated next. -/
def next (heap : Heap) : Handle := .ofNat heap.objects.size

/-- The heap with one more object. -/
def stored (heap : Heap) (tag : Tag) (bytes : List UInt8) : Heap :=
  { heap with
    objects := heap.objects.push ⟨tag, bytes⟩
    allocated := .ofNat (heap.allocated.toNat + bytes.length) }

/-- Storing an object leaves the others. -/
theorem stored_grows (heap : Heap) (tag : Tag) (bytes : List UInt8) :
    heap.Grows (heap.stored tag bytes) := by
  refine ⟨rfl, fun {handle object} h => ?_⟩
  unfold Heap.object at h ⊢
  split at h
  · rename_i found hfound
    obtain ⟨hlt, _⟩ := Array.getElem?_eq_some_iff.mp hfound
    have hkept : (heap.stored tag bytes).objects[handle.toNat]? = some found := by
      rw [stored, Array.getElem?_push, if_neg (Nat.ne_of_lt hlt), hfound]
    rw [hkept]
    exact h
  · cases h

/-- Handles count objects as long as there are not more objects than handles. -/
theorem toNat_next (h : heap.objects.size < 2 ^ 64) : heap.next.toNat = heap.objects.size :=
  UInt64.toNat_ofNat_of_lt' h

/-- The object that was just stored is found by its handle. -/
theorem object_stored (h : heap.objects.size < 2 ^ 64) (tag : Tag) (bytes : List UInt8) :
    (heap.stored tag bytes).object heap.next = .ok ⟨tag, bytes⟩ := by
  rw [Heap.object, toNat_next h]
  simp [stored]

/-- Bytes that are granted are counted. -/
theorem reserve_ok {size : Nat} (h : heap.reserve size = .ok heap') :
    heap' = { heap with allocated := .ofNat (heap.allocated.toNat + size) } := by
  simp only [reserve] at h
  split at h
  · exact (Except.ok.inj h).symm
  · split at h
    · exact (Except.ok.inj h).symm
    · cases h

/-- Without a limit, every object can be stored. -/
theorem store_eq (hlimit : heap.limit = none) (tag : Tag) (bytes : List UInt8) :
    heap.store tag bytes = .ok (heap.next, heap.stored tag bytes) := by
  have hgranted : heap.reserve bytes.length =
      .ok { heap with allocated := .ofNat (heap.allocated.toNat + bytes.length) } := by
    simp only [reserve, hlimit]
  rw [store, hgranted]
  rfl

/-- An object is read by its tag. -/
theorem readAs_of_object (h : heap.object handle = .ok object) :
    heap.readAs object.tag handle = .ok object.payload := by
  simp [readAs, h, bind, Except.bind, pure, Except.pure]

/-- What is read by a tag is the payload of an object with that tag. -/
theorem readAs_ok (h : heap.readAs tag handle = .ok bytes) :
    ∃ object, heap.object handle = .ok object ∧ object.tag = tag ∧ object.payload = bytes := by
  obtain ⟨object, hobject, h⟩ := bind_eq_ok.mp h
  by_cases htag : object.tag = tag
  · rw [if_pos htag] at h
    exact ⟨object, hobject, htag, Except.ok.inj h⟩
  · rw [if_neg htag] at h
    cases h

/-- What is read by a tag is still read when the heap has grown. -/
theorem Grows.readAs (hgrows : heap.Grows heap') (h : heap.readAs tag handle = .ok bytes) :
    heap'.readAs tag handle = .ok bytes := by
  obtain ⟨object, hobject, rfl, rfl⟩ := readAs_ok h
  exact readAs_of_object (hgrows.object hobject)

/-- The text of a string object is what its bytes encode. -/
theorem string_of_readAs (h : heap.readAs .string handle = .ok bytes)
    (htext : Text.ofUtf8? bytes = some text) : heap.string handle = .ok text := by
  rw [string, h]
  simp only [bind, Except.bind, htext]
  rfl

/-- A string that is stored is read back. -/
theorem makeString_eq (hlimit : heap.limit = none) (h : heap.objects.size < 2 ^ 64)
    (text : String) :
    heap.makeString text = .ok (heap.next, heap.stored .string (Text.utf8 text)) ∧
      (heap.stored .string (Text.utf8 text)).string heap.next = .ok text := by
  have hread := readAs_of_object (object_stored h .string (Text.utf8 text))
  exact ⟨store_eq hlimit _ _, string_of_readAs hread (Text.ofUtf8?_utf8 text)⟩

end Heap

/-! ## Integers on the heap -/

/-- A bignum is loaded from an object that has its tag and a stored form for its payload. -/
theorem Bignum.load_eq_ok {b : Bignum} {heap : Heap} {handle : Handle} :
    load heap handle = .ok b ↔
      ∃ object, heap.object handle = .ok object ∧ object.tag = .bignum ∧
        ofPayload? object.payload = some b := by
  unfold load
  constructor
  · intro h
    obtain ⟨bytes, hread, h⟩ := bind_eq_ok.mp h
    obtain ⟨object, hobject, htag, rfl⟩ := Heap.readAs_ok hread
    split at h
    · rename_i found hfound
      cases h
      exact ⟨object, hobject, htag, hfound⟩
    · cases h
  · rintro ⟨object, hobject, htag, hpayload⟩
    rw [← htag, Heap.readAs_of_object hobject]
    simp only [bind, Except.bind, hpayload]
    rfl

namespace Value

variable {n : Int} {heap : Heap}

/-- A fixnum has 62 bits with a sign. -/
theorem isFixnum_iff : isFixnum n = true ↔ -2 ^ 61 ≤ n ∧ n < 2 ^ 61 := by
  have hpow : (twoPow 61 : Int) = 2 ^ 61 := rfl
  simp [isFixnum, hpow]

/-- The integer of the fixnum of an integer in range. -/
theorem toInt_ofInt (h : isFixnum n = true) : (Int64.ofInt n).toInt = n := by
  rw [isFixnum_iff] at h
  exact Int64.toInt_ofInt_of_le (by omega) (by omega)

/-- An object that holds a bignum denotes its integer. -/
theorem asInteger_object {handle : Handle} {object : HeapObject} {b : Bignum}
    (hobject : heap.object handle = .ok object) (htag : object.tag = .bignum)
    (hload : Bignum.load heap handle = .ok b) :
    (Value.object handle).asInteger heap = .ok b.toWide? := by
  have htagOf : heap.tagOf handle = .ok .bignum := by
    rw [Heap.tagOf, hobject, ← htag]
    rfl
  simp [asInteger, htagOf, hload, bind, Except.bind, pure, Except.pure]

/-- An integer that fits a fixnum takes no object. -/
theorem ofInteger_of_isFixnum (h : isFixnum n = true) (heap : Heap) :
    ofInteger n heap = .ok (.fixnum (.ofInt n), heap) := by
  simp [ofInteger, ofFixnum?, h]

/-- Any other integer becomes a new object. -/
theorem ofInteger_of_not_isFixnum (h : ¬ isFixnum n = true) (hlimit : heap.limit = none) :
    ofInteger n heap =
      .ok (.object heap.next, heap.stored .bignum (Bignum.ofInt n).payload) := by
  simp [ofInteger, ofFixnum?, h, Bignum.store, Heap.store_eq hlimit, Except.map]

/-- The new object denotes the integer that it was made for, if that has at most 128 bits. -/
theorem asInteger_stored (hsize : heap.objects.size < 2 ^ 64)
    (hrange : -2 ^ 127 ≤ n ∧ n < 2 ^ 127) :
    (Value.object heap.next).asInteger (heap.stored .bignum (Bignum.ofInt n).payload) =
      .ok (some n) := by
  have hobject := Heap.object_stored hsize .bignum (Bignum.ofInt n).payload
  have hnormal := Bignum.normal_ofInt n
  rw [asInteger_object hobject rfl
      (Bignum.load_eq_ok.mpr ⟨_, hobject, rfl, hnormal.ofPayload?_payload⟩),
    hnormal.toWide?_eq_some.mpr ⟨Bignum.toInt_ofInt n, hrange⟩]

/-- An integer of 128 bits becomes a value that denotes it. -/
theorem ofInteger_eq (hlimit : heap.limit = none) (hsize : heap.objects.size < 2 ^ 64)
    (hrange : -2 ^ 127 ≤ n ∧ n < 2 ^ 127) :
    ∃ value heap', ofInteger n heap = .ok (value, heap') ∧ heap.Grows heap' ∧
      heap'.objects.size ≤ heap.objects.size + 1 ∧ value.asInteger heap' = .ok (some n) := by
  by_cases hfixnum : isFixnum n = true
  · refine ⟨_, heap, ofInteger_of_isFixnum hfixnum heap, .refl heap, Nat.le_succ _, ?_⟩
    rw [asInteger, toInt_ofInt hfixnum]
  · exact ⟨_, _, ofInteger_of_not_isFixnum hfixnum hlimit, heap.stored_grows _ _,
      Nat.le_of_eq (Array.size_push _), asInteger_stored hsize hrange⟩

end Value

/-! ## Copies in native memory -/

namespace Memory

variable {m m' m'' : Memory} {bytes : List UInt8}

/-- Strings may have been placed behind those that there were. -/
structure Grows (m m' : Memory) : Prop where
  nextAddress : m.nextAddress ≤ m'.nextAddress
  strings : ∃ added, m'.strings = added ++ m.strings ∧ ∀ s ∈ added, m.nextAddress ≤ s.address

/-- No string was placed. -/
theorem Grows.refl (m : Memory) : m.Grows m := ⟨Nat.le_refl _, [], rfl, by simp⟩

/-- Strings were placed once and again. -/
theorem Grows.trans (h : m.Grows m') (h' : m'.Grows m'') : m.Grows m'' := by
  obtain ⟨first, hfirst, hbehind⟩ := h.strings
  obtain ⟨second, hsecond, hbehind'⟩ := h'.strings
  refine ⟨Nat.le_trans h.nextAddress h'.nextAddress, second ++ first, ?_, fun s hs => ?_⟩
  · rw [hsecond, hfirst, List.append_assoc]
  · rcases List.mem_append.mp hs with hmem | hmem
    · exact Nat.le_trans h.nextAddress (hbehind' s hmem)
    · exact hbehind s hmem

/-- Behind a string that was placed there is room for the next one. -/
theorem nextAddress_place (m : Memory) (bytes : List UInt8) :
    (m.place bytes).2.nextAddress = m.nextAddress + bytes.length + 1 := rfl

/-- A string is placed behind all others. -/
theorem place_grows (m : Memory) (bytes : List UInt8) : m.Grows (m.place bytes).2 := by
  refine ⟨?_, [⟨m.nextAddress, bytes⟩], rfl, by simp⟩
  rw [nextAddress_place]
  omega

/-- No string is placed at the null address. -/
theorem nextAddress_pos (m : Memory) : 0 < m.nextAddress := by
  unfold nextAddress
  split
  · decide
  · exact Nat.succ_pos _

/-- The address of a string is where it is placed. -/
theorem toNat_place (h : m.nextAddress < 2 ^ 64) :
    (m.place bytes).1.toNat = m.nextAddress :=
  UInt64.toNat_ofNat_of_lt' h

/-- A string without zero bytes is read back from where it was placed. -/
theorem read_place (h : m.nextAddress < 2 ^ 64) (hzero : ∀ byte ∈ bytes, byte ≠ 0)
    (hgrows : (m.place bytes).2.Grows m') : m'.read (m.place bytes).1 = bytes := by
  obtain ⟨added, hstrings, hbehind⟩ := hgrows.strings
  have hskipped : added.find? (fun s =>
      s.address ≤ m.nextAddress && m.nextAddress ≤ s.address + s.bytes.length) = none := by
    refine List.find?_eq_none.mpr fun s hs => ?_
    have hlater := hbehind s hs
    rw [nextAddress_place] at hlater
    simp only [Bool.and_eq_true, decide_eq_true_eq, not_and]
    omega
  have hfound : m'.strings.find? (fun s =>
      s.address ≤ m.nextAddress && m.nextAddress ≤ s.address + s.bytes.length) =
      some ⟨m.nextAddress, bytes⟩ := by
    rw [hstrings, List.find?_append, hskipped]
    simp [place]
  have hwhole : bytes.takeWhile (· != 0) = bytes := by
    refine List.takeWhile_eq_self_iff.mpr fun byte hbyte => ?_
    simpa using hzero byte hbyte
  rw [read, toNat_place h, hfound]
  simp [hwhole]

end Memory

/-! ## Scalars of values -/

namespace Scalar

variable {k : ScalarKind} {n : Int} {s : Scalar}

/-- The bits of a scalar that is made of bits of its width. -/
theorem raw_ofBits {bits : Nat} (h : bits < 2 ^ k.width) : (ofBits k bits).raw = bits := by
  rw [ofBits, raw, BitVec.toNat_ofNat, Nat.mod_eq_of_lt h]

/-- The bits of an address. -/
theorem raw_pointer (address : UInt64) : (pointer address).raw = address.toNat :=
  raw_ofBits address.toNat_lt

/-- An integer in the range of a kind is what the scalar of that kind denotes. -/
theorem ofInteger?_eq_some (h : ofInteger? k n = some s) :
    s.kind = k ∧ s.asInteger = some n ∧ n.natAbs < 2 ^ 64 := by
  unfold ofInteger? at h
  split at h
  · rename_i hrange
    cases h
    simp only [Bool.and_eq_true, decide_eq_true_eq] at hrange
    obtain ⟨⟨hintegral, hle⟩, hge⟩ := hrange
    have hwidth : 2 ^ k.width ≤ 2 ^ 64 := Nat.pow_le_pow_right (by decide) (by cases k <;> decide)
    have hpos : 0 < k.width := by
      cases k with
      | void => cases hintegral
      | _ => decide
    have hhalf : 2 ^ k.width = 2 * 2 ^ (k.width - 1) := by
      rw [← Nat.pow_succ', Nat.succ_eq_add_one, Nat.sub_add_cancel hpos]
    have hcast (width : Nat) : (twoPow width : Int) = 2 ^ width := Int.natCast_pow 2 width
    unfold ScalarKind.range at hle hge
    rw [asInteger, if_pos hintegral, number, Option.some.injEq]
    refine ⟨rfl, ?_⟩
    by_cases hsigned : k.isSigned = true
    · rw [if_pos hsigned, hcast] at hle hge
      dsimp only at hle hge
      have hpower : ((2 ^ (k.width - 1) : Nat) : Int) = 2 ^ (k.width - 1) := Int.natCast_pow 2 _
      rw [if_pos hsigned]
      exact ⟨BitVec.toInt_ofInt_eq_self hpos hle (by omega), by omega⟩
    · rw [if_neg hsigned] at hle hge
      rw [hcast] at hge
      dsimp only at hle hge
      have hsame : n % ((2 ^ k.width : Nat) : Int) = n :=
        Int.emod_eq_of_lt hle (by rw [Int.natCast_pow]; exact Int.lt_of_le_sub_one hge)
      rw [if_neg hsigned, BitVec.toNat_ofInt, hsame]
      omega
  · cases h

end Scalar

namespace Value

/-- A value that travels as a tagged word is read back from it. -/
theorem ofWord?_toWord {value : Value} {word : UInt64}
    (hfixnum : ∀ n, value = .fixnum n → isFixnum n.toInt = true) (h : value.toWord = some word) :
    ofWord? word = some value := by
  have hword {payload tag : Nat} (htag : tag < 4) (hpayload : payload < 2 ^ 62) :
      (UInt64.ofNat (4 * payload + tag)).toNat = 4 * payload + tag :=
    UInt64.toNat_ofNat_of_lt' (show _ < 2 ^ 64 by omega)
  cases value with
  | nil =>
    cases h
    rfl
  | fixnum n =>
    have hrange := isFixnum_iff.mp (hfixnum n rfl)
    have hnonneg : 0 ≤ n.toInt % twoPow 62 := Int.emod_nonneg _ (by decide)
    have hless : n.toInt % twoPow 62 < twoPow 62 := Int.emod_lt_of_pos _ (by decide)
    have hpow : (twoPow 62 : Int) = 4611686018427387904 := rfl
    obtain rfl := Option.some.inj h
    have hpayload : (n.toInt % twoPow 62).toNat < 2 ^ 62 := by omega
    have hmod : (4 * (n.toInt % twoPow 62).toNat + 1) % 4 = 1 := by omega
    have hdiv : (4 * (n.toInt % twoPow 62).toNat + 1) / 4 = (n.toInt % twoPow 62).toNat := by omega
    have hback : Int.bmod (n.toInt % twoPow 62).toNat (twoPow 62) = n.toInt := by
      rw [Int.toNat_of_nonneg hnonneg, Int.emod_bmod]
      exact Int.bmod_eq_of_le (by omega) (by omega)
    rw [ofWord?, hword (by decide) hpayload]
    simp only [hmod, hdiv, hback]
    rw [Int64.ofInt_toInt]
  | character c =>
    have hvalid : c.toNat.isValidChar := c.valid
    have hlt : c.toNat < 2 ^ 62 := by
      rcases hvalid with hlow | hhigh <;> omega
    obtain rfl := Option.some.inj h
    have hmod : (4 * c.toNat + 2) % 4 = 2 := by omega
    have hdiv : (4 * c.toNat + 2) / 4 = c.toNat := by omega
    rw [ofWord?, hword (by decide) hlt]
    simp only [hmod, hdiv]
    rw [if_pos hvalid, Char.ofNat_toNat]
  | object handle =>
    rw [toWord] at h
    by_cases hhandle : handle.toNat < twoPow 62
    · rw [if_pos hhandle] at h
      obtain rfl := Option.some.inj h
      have hmod : (4 * handle.toNat + 3) % 4 = 3 := by omega
      have hdiv : (4 * handle.toNat + 3) / 4 = handle.toNat := by omega
      rw [ofWord?, hword (by decide) hhandle]
      simp only [hmod, hdiv]
      rw [UInt64.ofNat_toNat]
    · rw [if_neg hhandle] at h
      cases h
  | single bits => cases h
  | double bits => cases h
  | pointer address => cases h
  | noValue => cases h

end Value

/-! ## Marshaling and back -/

namespace Marshal

variable {heap heap' : Heap} {memory memory' : Memory} {ty : ForeignType} {value : Value}
  {p : Passed}

/-- A value may be passed as `ty`. A fixnum has to be in the range of fixnums, and nothing but a
double is passed as `:double`. -/
structure Accepts (heap : Heap) (ty : ForeignType) (value : Value) : Prop where
  passed : ∃ p, passed heap ty value = .ok p
  fixnum (n : Int64) (h : value = .fixnum n) : Value.isFixnum n.toInt = true
  double (h : ty = .double) : ∃ bits, value = .double bits

/-- Two values of a declared type mean the same, each on its own heap. -/
inductive Same (heap heap' : Heap) : ForeignType → Value → Value → Prop
  /-- The same value, and if it is an object, the same contents. -/
  | same {ty : ForeignType} {value : Value}
    (hobject : ∀ handle object, value = .object handle → heap.object handle = .ok object →
      heap'.object handle = .ok object) : Same heap heap' ty value value
  /-- The same integer, whether it is a fixnum or a bignum. -/
  | integer {ty : ForeignType} {value value' : Value} {n : Int} (hty : ty.isInteger = true)
    (h : value.asInteger heap = .ok (some n)) (h' : value'.asInteger heap' = .ok (some n)) :
    Same heap heap' ty value value'
  /-- Strings of the same contents. -/
  | string {handle handle' : Handle} {text : String} (h : heap.string handle = .ok text)
    (h' : heap'.string handle' = .ok text) :
    Same heap heap' .cstring (.object handle) (.object handle')
  /-- Where an address is declared, nil is the null address. -/
  | null : Same heap heap' .pointerVoid .nil (.pointer 0)

/-- An integer that may be passed is what the value denotes. -/
theorem asInteger_of_integerOf {n : Int} (h : integerOf heap ty value = .ok n) :
    value.asInteger heap = .ok (some n) := by
  cases value with
  | fixnum m =>
    cases h
    rfl
  | object handle =>
    obtain ⟨tag, htag, h⟩ := bind_eq_ok.mp h
    by_cases hbignum : tag = .bignum
    · rw [if_pos hbignum] at h
      obtain ⟨b, hload, h⟩ := bind_eq_ok.mp h
      obtain ⟨object, hobject, htagged⟩ := map_eq_ok.mp (mapError_eq_ok.mp htag)
      rw [Value.asInteger_object hobject (htagged.trans hbignum) (mapError_eq_ok.mp hload)]
      split at h
      · rename_i wide hwide
        cases h
        rw [hwide]
      · cases h
    · rw [if_neg hbignum] at h
      cases h
  | _ => cases h

/-- A string that may be passed has the bytes of its text, none of them zero. -/
theorem stringOf_ok {handle : Handle} {bytes : List UInt8} (h : stringOf heap handle = .ok bytes) :
    ∃ text, heap.string handle = .ok text ∧ bytes = Text.utf8 text ∧ ∀ byte ∈ bytes, byte ≠ 0 := by
  unfold stringOf at h
  dsimp only at h
  split at h
  · rename_i text htext
    obtain ⟨text', hpure, h⟩ := bind_eq_ok.mp h
    cases hpure
    split at h
    · cases h
    · rename_i hnone
      cases h
      exact ⟨text, htext, rfl, fun byte hbyte => by
        simpa using List.findIdx?_eq_none_iff.mp hnone byte hbyte⟩
  · cases h
  · cases h

/-- The scalar is marshaled back to a value that means the same as one on an earlier heap, with at
most one new object. -/
def Crossed (heap heap' : Heap) (memory' : Memory) (ty : ForeignType) (value : Value)
    (native : Scalar) : Prop :=
  ∃ value' heap'', toHosted heap' memory' ty native = .ok (some value', heap'') ∧
    heap'.Grows heap'' ∧ heap''.objects.size ≤ heap'.objects.size + 1 ∧
    Same heap heap'' ty value value'

/-- A value that takes no new object. -/
theorem Crossed.unchanged {native : Scalar} {value' : Value}
    (hback : toHosted heap' memory' ty native = .ok (some value', heap'))
    (hsame : Same heap heap' ty value value') : Crossed heap heap' memory' ty value native :=
  ⟨value', heap', hback, .refl heap', Nat.le_succ _, hsame⟩

/-- A value that is no object takes no heap to mean what it means. -/
theorem Same.immediate (h : ∀ handle, value ≠ .object handle) : Same heap heap' ty value value :=
  .same fun handle _ hobject => absurd hobject (h handle)

/-- Integers cross. -/
theorem crossed_integer {n : Int} {native : Scalar} (hty : ty.isInteger = true)
    (hn : integerOf heap ty value = .ok n) (hnative : Scalar.ofInteger? ty.kind n = some native)
    (hlimit : heap'.limit = none) (hsize : heap'.objects.size < 2 ^ 64) (memory' : Memory) :
    Crossed heap heap' memory' ty value native := by
  obtain ⟨_, hinteger, hlt⟩ := Scalar.ofInteger?_eq_some hnative
  obtain ⟨value', heap'', hvalue, hgrows, hcount, hdenotes⟩ :=
    Value.ofInteger_eq hlimit hsize (show -2 ^ 127 ≤ n ∧ n < 2 ^ 127 by omega)
  refine ⟨value', heap'', ?_, hgrows, hcount,
    .integer hty (asInteger_of_integerOf hn) hdenotes⟩
  unfold toHosted
  rw [if_pos hty]
  rw [hinteger, Option.getD_some, hvalue]
  rfl

/-- Characters cross by their code. -/
theorem crossed_character {c : Char} (hty : ty = .char ∨ ty = .unsignedChar) (hc : c.toNat < 256)
    (memory' : Memory) : Crossed heap heap' memory' ty (.character c) (.ofBits ty.kind c.toNat) := by
  have hraw : (Scalar.ofBits ty.kind c.toNat).raw = c.toNat := by
    rcases hty with rfl | rfl <;> exact Scalar.raw_ofBits hc
  refine .unchanged ?_ (.immediate fun _ => Value.noConfusion)
  have hback : Char.ofNat (Scalar.ofBits ty.kind c.toNat).raw = c := by rw [hraw, Char.ofNat_toNat]
  rcases hty with rfl | rfl
  · exact congrArg (fun c => Except.ok (some (Value.character c), heap')) hback
  · exact congrArg (fun c => Except.ok (some (Value.character c), heap')) hback

/-- Strings cross by a copy in native memory. -/
theorem crossed_string {handle : Handle} {bytes : List UInt8}
    (hbytes : stringOf heap handle = .ok bytes) (hlimit : heap'.limit = none)
    (hsize : heap'.objects.size < 2 ^ 64) (hmemory : (memory.place bytes).2.Grows memory')
    (hbound : memory'.nextAddress ≤ 2 ^ 64) :
    Crossed heap heap' memory' .cstring (.object handle) (.pointer (memory.place bytes).1) := by
  obtain ⟨text, htext, rfl, hzero⟩ := stringOf_ok hbytes
  have hnext : memory.nextAddress < 2 ^ 64 := by
    have hplaced := hmemory.nextAddress
    rw [Memory.nextAddress_place] at hplaced
    omega
  have hraw : (Scalar.pointer (memory.place (Text.utf8 text)).1).raw = memory.nextAddress := by
    rw [Scalar.raw_pointer, Memory.toNat_place hnext]
  have haddress : UInt64.ofNat memory.nextAddress = (memory.place (Text.utf8 text)).1 := rfl
  obtain ⟨hmake, hread⟩ := Heap.makeString_eq hlimit hsize text
  refine ⟨_, _, ?_, heap'.stored_grows _ _, Nat.le_of_eq (Array.size_push _),
    .string htext hread⟩
  have hkind : (Scalar.pointer (memory.place (Text.utf8 text)).1).kind = ForeignType.cstring.kind :=
    rfl
  change (if (Scalar.pointer (memory.place (Text.utf8 text)).1).raw = 0 then _ else _) = _
  rw [hraw, if_neg (Nat.ne_of_gt memory.nextAddress_pos), if_pos hkind, hraw, haddress,
    Memory.read_place hnext hzero hmemory, Text.ofUtf8?_utf8]
  dsimp only
  rw [hmake]
  rfl

/-- A value that was passed as a type and is marshaled back by that type means the same. -/
theorem crosses (hfloat : ty ≠ .float) (haccepts : Accepts heap ty value)
    (hp : passed heap ty value = .ok p) (hgrows : heap.Grows heap') (hlimit : heap'.limit = none)
    (hsize : heap'.objects.size < 2 ^ 64) (hmemory : (place memory p).2.Grows memory')
    (hbound : memory'.nextAddress ≤ 2 ^ 64) :
    Crossed heap heap' memory' ty value (place memory p).1 := by
  cases passed_eq_ok.mp hp with
  | integer hty hn hnative => exact crossed_integer hty hn hnative hlimit hsize memory'
  | character hty hc => exact crossed_character hty hc memory'
  | float _ => exact absurd rfl hfloat
  | @double _ bits hbits =>
    obtain ⟨found, rfl⟩ := haccepts.double rfl
    obtain rfl : found = bits := Option.some.inj hbits
    refine .unchanged ?_ (.immediate fun _ => Value.noConfusion)
    have hback : UInt64.ofNat (Scalar.ofBits .f64 found.toNat).raw = found := by
      rw [Scalar.raw_ofBits found.toNat_lt, UInt64.ofNat_toNat]
    exact congrArg (fun bits => Except.ok (some (Value.double bits), heap')) hback
  | address address =>
    refine .unchanged ?_ (.immediate fun _ => Value.noConfusion)
    have hback : UInt64.ofNat (Scalar.pointer address).raw = address := by
      rw [Scalar.raw_pointer, UInt64.ofNat_toNat]
    exact congrArg (fun address => Except.ok (some (Value.pointer address), heap')) hback
  | nullAddress => exact .unchanged rfl .null
  | string hbytes => exact crossed_string hbytes hlimit hsize hmemory hbound
  | noString => exact .unchanged rfl (.immediate fun _ => Value.noConfusion)
  | @object _ word hword =>
    have hback : Value.ofWord? (.ofNat (Scalar.ofBits .u64 word.toNat).raw) = some value := by
      rw [Scalar.raw_ofBits word.toNat_lt, UInt64.ofNat_toNat]
      exact Value.ofWord?_toWord haccepts.fixnum hword
    have hvalue : toHosted heap' memory' .object (Scalar.ofBits .u64 word.toNat) =
        .ok (some value, heap') := by
      have hkind : (Scalar.ofBits .u64 word.toNat).kind = ForeignType.object.kind := rfl
      unfold toHosted
      dsimp only
      rw [if_neg (by decide), if_pos hkind, hback]
    exact .unchanged hvalue (.same fun _ _ _ => hgrows.object)

/-- What is passed for a value has the kind of its type. -/
theorem kind_place (hp : passed heap ty value = .ok p) (memory : Memory) :
    (place memory p).1.kind = ty.kind := by
  cases passed_eq_ok.mp hp with
  | integer _ _ hnative => exact (Scalar.ofInteger?_eq_some hnative).1
  | _ => rfl

/-- Wherever a copy is placed, what is passed has the kind of the type. -/
theorem kind_native (hp : passed heap ty value = .ok p) (address : Nat) :
    (p.native address).kind = ty.kind := by
  cases p with
  | scalar s => exact kind_place hp {}
  | copy bytes => exact kind_place hp {}

/-- Nothing is passed as `:void`. -/
theorem ne_void_of_passed (hp : passed heap ty value = .ok p) : ty ≠ .void := by
  rintro rfl
  cases hp

end Marshal
end CallEngine
