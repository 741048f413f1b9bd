import CallEngine.Proofs.StoredIntegers

/-!
# Which values are passed

A value is passed to native code as a declared type. Several checks decide on it: the range of the
type, the form of a bignum, the tag of an object, the text of a string. Here it is said without
these checks, for every heap and every value, when it is passed and what native code is given for
it. An integer is passed if the type has it, however it is stored. A string is passed if its payload
is the bytes of a text and none of them is zero, and then native code is given a copy, which stays
where it is as long as the copies of the call are kept.
-/

namespace CallEngine

/-! ## What values stand for -/

/-- The integer that a value stands for. A bignum object may have any number of limbs. -/
inductive Value.StandsFor (heap : Heap) : Value → Int → Prop
  | fixnum (k : Int64) : StandsFor heap (.fixnum k) k.toInt
  | bignum {handle : Handle} {object : HeapObject} (hobject : heap.object handle = .ok object)
    (htag : object.tag = .bignum) (hlength : object.payload.length % 8 = 1) :
    StandsFor heap (.object handle) (Bignum.storedInteger object.payload)

/-- Values that have a word of their own. -/
inductive Value.HasWord : Value → Prop
  | nil : HasWord .nil
  | fixnum (k : Int64) : HasWord (.fixnum k)
  | character (c : Char) : HasWord (.character c)
  | object {handle : Handle} (hhandle : handle.toNat < 2 ^ 62) : HasWord (.object handle)

/-- A string object holds the bytes of a text, and none of them is zero. -/
structure Heap.HoldsText (heap : Heap) (handle : Handle) (bytes : List UInt8) : Prop where
  object : ∃ object, heap.object handle = .ok object ∧ object.tag = .string ∧
    object.payload = bytes
  valid : ∃ text, Text.utf8 text = bytes
  plain : 0 ∉ bytes

/-- A value may be passed as a type that is not a float. -/
inductive Value.Acceptable (heap : Heap) : ForeignType → Value → Prop
  | integer {ty : ForeignType} {value : Value} {least greatest n : Int}
    (hrange : ty.range? = some (least, greatest)) (hvalue : value.StandsFor heap n)
    (hleast : least ≤ n) (hgreatest : n ≤ greatest) : Acceptable heap ty value
  | char {c : Char} (hc : c.toNat < 256) : Acceptable heap .char (.character c)
  | unsignedChar {c : Char} (hc : c.toNat < 256) : Acceptable heap .unsignedChar (.character c)
  | address (address : UInt64) : Acceptable heap .pointerVoid (.pointer address)
  | nullAddress : Acceptable heap .pointerVoid .nil
  | string {handle : Handle} {bytes : List UInt8} (hbytes : heap.HoldsText handle bytes) :
    Acceptable heap .cstring (.object handle)
  | noString : Acceptable heap .cstring .nil
  | object {value : Value} (hvalue : value.HasWord) : Acceptable heap .object value

/-! ## Integers -/

/-- An integer type takes the integers of its range. -/
theorem Scalar.exists_ofInteger?_iff {ty : ForeignType} {least greatest n : Int}
    (h : ty.range? = some (least, greatest)) :
    (∃ s, ofInteger? ty.kind n = some s) ↔ least ≤ n ∧ n ≤ greatest := by
  unfold ForeignType.range? at h
  split at h
  · rename_i hinteger
    have hintegral : ty.kind.isIntegral = true := by
      cases ty <;> first | rfl | cases hinteger
    have hrange : ty.kind.range = (least, greatest) := Option.some.inj h
    simp [ofInteger?, hintegral, hrange]
  · cases h

namespace Marshal

variable {heap : Heap} {ty : ForeignType} {value : Value} {handle : Handle} {n : Int}

/-- A value is taken for the integer that it stands for, if that has at most 128 bits. -/
theorem integerOf_eq_ok :
    integerOf heap ty value = .ok n ↔ value.StandsFor heap n ∧ -2 ^ 127 ≤ n ∧ n < 2 ^ 127 := by
  constructor
  · intro h
    cases value with
    | fixnum k =>
      cases h
      have hmin := k.le_toInt
      have hmax := k.toInt_lt
      exact ⟨.fixnum k, by omega, by omega⟩
    | object handle =>
      obtain ⟨tag, _, h⟩ := bind_eq_ok.mp h
      by_cases hbignum : tag = .bignum
      · rw [if_pos hbignum] at h
        obtain ⟨b, hload, h⟩ := bind_eq_ok.mp h
        obtain ⟨object, hobject, htag, hpayload⟩ := Bignum.load_eq_ok.mp (mapError_eq_ok.mp hload)
        obtain ⟨hlength, hnormal, hint⟩ := Bignum.ofPayload?_eq_some.mp hpayload
        split at h
        · rename_i wide hwide
          cases h
          obtain ⟨rfl, hrange⟩ := hnormal.toWide?_eq_some.mp hwide
          rw [hint] at hrange ⊢
          exact ⟨.bignum hobject htag hlength, hrange⟩
        · cases h
      · rw [if_neg hbignum] at h
        cases h
    | _ => cases h
  · rintro ⟨hvalue, hrange⟩
    cases hvalue with
    | fixnum k => rfl
    | @bignum handle object hobject htag hlength =>
      obtain ⟨b, hpayload, hnormal, hint⟩ := Bignum.exists_ofPayload? hlength
      have hload : Bignum.load heap handle = .ok b :=
        Bignum.load_eq_ok.mpr ⟨object, hobject, htag, hpayload⟩
      have hwide := hnormal.toWide?_eq_some.mpr ⟨hint, hrange⟩
      simp [integerOf, Heap.tagOf, hobject, htag, hload, hwide, Except.map, Except.mapError, bind,
        Except.bind, pure, Except.pure]

/-- An integer is passed as an integer type if the type has it. -/
theorem exists_integer_iff {least greatest : Int} (hty : ty.range? = some (least, greatest)) :
    (∃ n s, integerOf heap ty value = .ok n ∧ Scalar.ofInteger? ty.kind n = some s) ↔
      ∃ n, value.StandsFor heap n ∧ least ≤ n ∧ n ≤ greatest := by
  constructor
  · rintro ⟨n, s, hn, hs⟩
    exact ⟨n, (integerOf_eq_ok.mp hn).1, (Scalar.exists_ofInteger?_iff hty).mp ⟨s, hs⟩⟩
  · rintro ⟨n, hvalue, hrange⟩
    obtain ⟨s, hs⟩ := (Scalar.exists_ofInteger?_iff hty).mpr hrange
    obtain ⟨_, _, hlt⟩ := Scalar.ofInteger?_eq_some hs
    exact ⟨n, s, integerOf_eq_ok.mpr ⟨hvalue, by omega, by omega⟩, hs⟩

end Marshal

/-! ## Strings and words -/

/-- Bytes are read as a text exactly if they are the bytes of that text. -/
theorem Text.ofUtf8?_eq_some {bytes : List UInt8} {text : String} :
    ofUtf8? bytes = some text ↔ utf8 text = bytes := by
  constructor
  · intro h
    have hlist : utf8 text = text.toByteArray.data.toList := toList_loop _ 0 []
    unfold ofUtf8? String.fromUTF8? at h
    split at h
    · obtain rfl := Option.some.inj h
      rw [hlist]
      simp [String.fromUTF8]
    · cases h
  · rintro rfl
    exact ofUtf8?_utf8 text

/-- The text of a string object is the one that its payload encodes. -/
theorem Heap.string_eq_ok {heap : Heap} {handle : Handle} {text : String} :
    heap.string handle = .ok text ↔
      ∃ object, heap.object handle = .ok object ∧ object.tag = .string ∧
        object.payload = Text.utf8 text := by
  constructor
  · intro h
    obtain ⟨bytes, hread, h⟩ := bind_eq_ok.mp h
    obtain ⟨object, hobject, htag, rfl⟩ := readAs_ok hread
    split at h
    · rename_i found hfound
      cases h
      exact ⟨object, hobject, htag, (Text.ofUtf8?_eq_some.mp hfound).symm⟩
    · cases h
  · rintro ⟨object, hobject, htag, hpayload⟩
    have hread := readAs_of_object hobject
    rw [htag, hpayload] at hread
    exact string_of_readAs hread (Text.ofUtf8?_utf8 text)

/-- A string is copied if it holds a text without a zero byte. -/
theorem Marshal.stringOf_eq_ok {heap : Heap} {handle : Handle} {bytes : List UInt8} :
    stringOf heap handle = .ok bytes ↔ heap.HoldsText handle bytes := by
  constructor
  · intro h
    obtain ⟨text, htext, rfl, hplain⟩ := stringOf_ok h
    exact ⟨Heap.string_eq_ok.mp htext, ⟨text, rfl⟩, fun hzero => hplain 0 hzero rfl⟩
  · rintro ⟨hobject, ⟨text, rfl⟩, hplain⟩
    have hnone : (Text.utf8 text).findIdx? (· == 0) = none := by
      rw [List.findIdx?_eq_none_iff]
      intro byte hbyte
      simpa using fun hzero : byte = 0 => hplain (hzero ▸ hbyte)
    simp [stringOf, Heap.string_eq_ok.mpr hobject, hnone, bind, Except.bind, pure, Except.pure]

/-- These are the values that have a word. -/
theorem Value.exists_toWord_iff {value : Value} :
    (∃ word, value.toWord = some word) ↔ value.HasWord := by
  constructor
  · rintro ⟨word, hword⟩
    cases value with
    | nil => exact .nil
    | fixnum k => exact .fixnum k
    | character c => exact .character c
    | object handle =>
      rw [toWord] at hword
      split at hword
      · rename_i hhandle
        exact .object hhandle
      · cases hword
    | _ => cases hword
  · intro h
    cases h with
    | nil => exact ⟨_, rfl⟩
    | fixnum k => exact ⟨_, rfl⟩
    | character c => exact ⟨_, rfl⟩
    | object hhandle => exact ⟨_, if_pos hhandle⟩

/-! ## Acceptance -/

namespace Marshal

variable {heap : Heap} {ty : ForeignType} {value : Value}

/-- What can be passed is acceptable. -/
theorem Passing.acceptable {p : Passed} (hty : ty.isFloat = false) (h : Passing heap ty value p) :
    value.Acceptable heap ty := by
  cases h with
  | @integer _ _ n s hinteger hn hs =>
    have hrange : ty.range? = some (ty.kind.range.1, ty.kind.range.2) := if_pos hinteger
    obtain ⟨n, hvalue, hleast, hgreatest⟩ := (exists_integer_iff hrange).mp ⟨n, s, hn, hs⟩
    exact .integer hrange hvalue hleast hgreatest
  | character hchar hc =>
    rcases hchar with rfl | rfl
    · exact .char hc
    · exact .unsignedChar hc
  | float _ => cases hty
  | double _ => cases hty
  | address address => exact .address address
  | nullAddress => exact .nullAddress
  | string hbytes => exact .string (stringOf_eq_ok.mp hbytes)
  | noString => exact .noString
  | object hword => exact .object (Value.exists_toWord_iff.mp ⟨_, hword⟩)

/-- What is acceptable can be passed. -/
theorem exists_passing (h : value.Acceptable heap ty) : ∃ p, Passing heap ty value p := by
  cases h with
  | @integer _ _ least greatest n hrange hvalue hleast hgreatest =>
    obtain ⟨n, s, hn, hs⟩ := (exists_integer_iff hrange).mpr ⟨n, hvalue, hleast, hgreatest⟩
    have hinteger : ty.isInteger = true := by
      by_contra hnot
      simp [ForeignType.range?, hnot] at hrange
    exact ⟨_, .integer hinteger hn hs⟩
  | char hc => exact ⟨_, .character (.inl rfl) hc⟩
  | unsignedChar hc => exact ⟨_, .character (.inr rfl) hc⟩
  | address address => exact ⟨_, .address address⟩
  | nullAddress => exact ⟨_, .nullAddress⟩
  | string hbytes => exact ⟨_, .string (stringOf_eq_ok.mpr hbytes)⟩
  | noString => exact ⟨_, .noString⟩
  | object hvalue =>
    obtain ⟨word, hword⟩ := Value.exists_toWord_iff.mpr hvalue
    exact ⟨_, .object hword⟩

end Marshal

/-! ## Copies and their account -/

/-- One use of a marshaling context. -/
inductive MarshalUse where
  | pass (heap : Heap) (ty : ForeignType) (value : Value)
  | clear

namespace MarshalContext

variable {m m' : MarshalContext}

/-- The context after a use, which changes nothing if it is refused. -/
def after (m : MarshalContext) : MarshalUse → MarshalContext
  | .pass heap ty value =>
    match m.toForeign heap ty value with
    | .ok (_, m') => m'
    | .error _ => m
  | .clear => m.clear

/-- The context after uses, one after the other. -/
def run : MarshalContext → List MarshalUse → MarshalContext
  | m, [] => m
  | m, use :: rest => (m.after use).run rest

/-- The scalar for what has to be passed, and the context with an account of the copy that was made
for it. -/
def passing (m : MarshalContext) : Passed → Scalar × MarshalContext
  | .scalar s => (s, m)
  | .copy bytes =>
    let (address, memory) := m.memory.place bytes
    (.pointer address, { memory, live := ⟨address.toNat, bytes⟩ :: m.live })

/-- A value is marshaled by finding out what has to be passed for it. -/
theorem toForeign_eq (m : MarshalContext) (heap : Heap) (ty : ForeignType) (value : Value) :
    m.toForeign heap ty value = (Marshal.passed heap ty value).map m.passing := by
  unfold toForeign
  cases Marshal.passed heap ty value with
  | error e => rfl
  | ok p => cases p <;> rfl

/-- What has to be passed is there afterwards: copies are only added. -/
theorem passing_grows (m : MarshalContext) (p : Passed) :
    m.memory.Grows (m.passing p).2.memory ∧ m.live <:+ (m.passing p).2.live := by
  cases p with
  | scalar s => exact ⟨.refl _, List.suffix_rfl⟩
  | copy bytes => exact ⟨m.memory.place_grows bytes, List.suffix_cons _ _⟩

/-- A use that does not give up copies keeps them. -/
theorem after_grows (m : MarshalContext) {use : MarshalUse} (h : use ≠ .clear) :
    m.memory.Grows (m.after use).memory ∧ m.live <:+ (m.after use).live := by
  cases use with
  | pass heap ty value =>
    rw [after, toForeign_eq]
    cases Marshal.passed heap ty value with
    | error e => exact ⟨.refl _, List.suffix_rfl⟩
    | ok p => exact m.passing_grows p
  | clear => exact absurd rfl h

/-- Copies are kept until they are given up. -/
theorem run_grows (m : MarshalContext) {uses : List MarshalUse} (h : .clear ∉ uses) :
    m.memory.Grows (m.run uses).memory ∧ m.live <:+ (m.run uses).live := by
  induction uses generalizing m with
  | nil => exact ⟨.refl _, List.suffix_rfl⟩
  | cons use rest ih =>
    rw [List.mem_cons, not_or] at h
    obtain ⟨hmemory, hlive⟩ := m.after_grows (Ne.symm h.1)
    obtain ⟨hmemory', hlive'⟩ := ih (m.after use) h.2
    exact ⟨hmemory.trans hmemory', hlive.trans hlive'⟩

/-- The copy of a string that native code was given. -/
structure Copied (m : MarshalContext) (bytes : List UInt8) (s : Scalar) (m' : MarshalContext) :
    Prop where
  /-- The account names its address. -/
  live : m'.live = ⟨s.raw, bytes⟩ :: m.live
  /-- If there was an address for it, native code reads it there until it is given up. -/
  intact {later : List MarshalUse} (hkept : .clear ∉ later)
    (hroom : m.memory.nextAddress < 2 ^ 64) :
    s.raw ≠ 0 ∧ (m'.run later).memory.read (.ofNat s.raw) = bytes ∧
      ⟨s.raw, bytes⟩ ∈ (m'.run later).live

/-- A text without a zero byte is copied. -/
theorem copied_passing (m : MarshalContext) {bytes : List UInt8} (hplain : 0 ∉ bytes) :
    Copied m bytes (m.passing (.copy bytes)).1 (m.passing (.copy bytes)).2 := by
  have hraw : (m.passing (.copy bytes)).1.raw = (m.memory.place bytes).1.toNat :=
    Scalar.raw_pointer _
  have hlive : (m.passing (.copy bytes)).2.live =
      ⟨(m.passing (.copy bytes)).1.raw, bytes⟩ :: m.live := by
    rw [hraw]
    rfl
  refine ⟨hlive, fun {later} hkept hroom => ?_⟩
  obtain ⟨hmemory, hsuffix⟩ := (m.passing (.copy bytes)).2.run_grows hkept
  have hzero : ∀ byte ∈ bytes, byte ≠ 0 := by
    rintro byte hbyte rfl
    exact hplain hbyte
  refine ⟨?_, ?_, hsuffix.subset (hlive ▸ List.mem_cons_self)⟩
  · rw [hraw, Memory.toNat_place hroom]
    exact Nat.ne_of_gt m.memory.nextAddress_pos
  · rw [hraw, UInt64.ofNat_toNat]
    exact Memory.read_place hroom hzero hmemory

end MarshalContext

/-! ## What native code is given -/

/-- What native code is given for a value, and the context afterwards. -/
inductive Marshal.Given (heap : Heap) (m : MarshalContext) :
    ForeignType → Value → Scalar → MarshalContext → Prop
  | integer {ty : ForeignType} {value : Value} {n : Int} {s : Scalar} (hty : ty.isInteger = true)
    (hvalue : value.StandsFor heap n) (hkind : s.kind = ty.kind) (hn : s.asInteger = some n) :
    Given heap m ty value s m
  | character {ty : ForeignType} {c : Char} {s : Scalar} (hty : ty.isCharacter = true)
    (hkind : s.kind = ty.kind) (hcode : s.raw = c.toNat) : Given heap m ty (.character c) s m
  | address (address : UInt64) :
    Given heap m .pointerVoid (.pointer address) (.pointer address) m
  | null {ty : ForeignType} (hty : ty = .pointerVoid ∨ ty = .cstring) :
    Given heap m ty .nil (.pointer 0) m
  | string {handle : Handle} {bytes : List UInt8} {s : Scalar} {m' : MarshalContext}
    (hbytes : heap.HoldsText handle bytes) (hkind : s.kind = .pointer)
    (hcopied : m.Copied bytes s m') : Given heap m .cstring (.object handle) s m'
  | object {value : Value} {s : Scalar} (hkind : s.kind = .u64)
    (hword : value.toWord = some (.ofNat s.raw)) : Given heap m .object value s m

namespace Marshal

variable {heap : Heap} {ty : ForeignType} {value : Value} {m m' : MarshalContext} {s : Scalar}

/-- What has to be passed is given. -/
theorem Passing.given {p : Passed} (hty : ty.isFloat = false) (h : Passing heap ty value p)
    (m : MarshalContext) : Given heap m ty value (m.passing p).1 (m.passing p).2 := by
  cases h with
  | integer hinteger hn hs =>
    obtain ⟨hkind, hdenotes, _⟩ := Scalar.ofInteger?_eq_some hs
    exact .integer hinteger (integerOf_eq_ok.mp hn).1 hkind hdenotes
  | @character _ c hchar hc =>
    rcases hchar with rfl | rfl
    · exact .character rfl rfl (Scalar.raw_ofBits hc)
    · exact .character rfl rfl (Scalar.raw_ofBits hc)
  | float _ => cases hty
  | double _ => cases hty
  | address address => exact .address address
  | nullAddress => exact .null (.inl rfl)
  | string hbytes =>
    have htext := stringOf_eq_ok.mp hbytes
    exact .string htext rfl (m.copied_passing htext.plain)
  | noString => exact .null (.inr rfl)
  | @object _ word hword =>
    have hraw : (Scalar.ofBits .u64 word.toNat).raw = word.toNat := Scalar.raw_ofBits word.toNat_lt
    refine .object rfl ?_
    change _ = some (UInt64.ofNat (Scalar.ofBits .u64 word.toNat).raw)
    rw [hword, hraw, UInt64.ofNat_toNat]

/-- One copy is made for a string, and nothing is kept of anything else. -/
theorem Given.account (h : Given heap m ty value s m') :
    (ty = .cstring ∧ value ≠ .nil ∧ m'.live.length = m.live.length + 1) ∨
      (¬ (ty = .cstring ∧ value ≠ .nil) ∧ m' = m) := by
  cases h with
  | integer hty _ _ _ =>
    refine .inr ⟨?_, rfl⟩
    rintro ⟨rfl, _⟩
    cases hty
  | character hty _ _ =>
    refine .inr ⟨?_, rfl⟩
    rintro ⟨rfl, _⟩
    cases hty
  | address _ => exact .inr ⟨by simp, rfl⟩
  | null _ => exact .inr ⟨by simp, rfl⟩
  | string _ _ hcopied => exact .inl ⟨rfl, by simp, by rw [hcopied.live, List.length_cons]⟩
  | object _ _ => exact .inr ⟨by simp, rfl⟩

/-- What was passed is acceptable, and native code is given what it stands for. -/
theorem given_of_toForeign (hty : ty.isFloat = false)
    (h : m.toForeign heap ty value = .ok (s, m')) :
    value.Acceptable heap ty ∧ Given heap m ty value s m' := by
  rw [MarshalContext.toForeign_eq] at h
  obtain ⟨p, hp, hpassing⟩ := map_eq_ok.mp h
  have hways := passed_eq_ok.mp hp
  obtain ⟨rfl, rfl⟩ := Prod.mk.inj hpassing
  exact ⟨hways.acceptable hty, hways.given hty m⟩

/-- What is acceptable is passed. -/
theorem exists_toForeign (h : value.Acceptable heap ty) (m : MarshalContext) :
    ∃ s m', m.toForeign heap ty value = .ok (s, m') := by
  obtain ⟨p, hways⟩ := exists_passing h
  rw [MarshalContext.toForeign_eq]
  exact ⟨_, _, map_eq_ok.mpr ⟨p, passed_eq_ok.mpr hways, rfl⟩⟩

/-- A value is passed exactly if it is acceptable, and then native code is given what it stands for.
One copy is added to the account for a string that is passed, and in all other cases nothing is
changed. -/
theorem values_passed_exactly (m : MarshalContext) (heap : Heap) (ty : ForeignType)
    (hty : ty.isFloat = false) (value : Value) :
    ((∃ s m', m.toForeign heap ty value = .ok (s, m')) ↔ value.Acceptable heap ty) ∧
    (∀ s m', m.toForeign heap ty value = .ok (s, m') → Given heap m ty value s m') ∧
    (value.Acceptable heap ty → ty = .cstring → value ≠ .nil →
      (m.after (.pass heap ty value)).live.length = m.live.length + 1) ∧
    (¬ (value.Acceptable heap ty ∧ ty = .cstring ∧ value ≠ .nil) →
      m.after (.pass heap ty value) = m) := by
  refine ⟨⟨?_, fun h => exists_toForeign h m⟩, fun s m' h => (given_of_toForeign hty h).2,
    fun h hstring hvalue => ?_, fun h => ?_⟩
  · rintro ⟨s, m', h⟩
    exact (given_of_toForeign hty h).1
  · obtain ⟨s, m', hpassed⟩ := exists_toForeign h m
    rw [MarshalContext.after, hpassed]
    rcases (given_of_toForeign hty hpassed).2.account with ⟨_, _, hlive⟩ | ⟨hnot, _⟩
    · exact hlive
    · exact absurd ⟨hstring, hvalue⟩ hnot
  · unfold MarshalContext.after
    dsimp only
    split
    · rename_i s m' hpassed
      obtain ⟨hacceptable, hgiven⟩ := given_of_toForeign hty hpassed
      rcases hgiven.account with ⟨hstring, hvalue, _⟩ | ⟨_, hsame⟩
      · exact absurd ⟨hacceptable, hstring, hvalue⟩ h
      · exact hsame
    · rfl

/-- A heap with the number 200 in three limbs, and with a string. -/
def offered : Heap where
  objects := #[⟨.bignum, 0 :: 200 :: List.replicate 23 0⟩, ⟨.string, [104, 105]⟩]
  allocated := 27

/-- The number is passed as the byte that it fits, whatever zeros it is stored with. The string is
passed as a copy, which is still there when the number was passed after it. -/
theorem offered_passed :
    (∃ s m', ({} : MarshalContext).toForeign offered .unsignedByte (.object 0) = .ok (s, m') ∧
      s.kind = .u8) ∧
    ∃ s m', ({} : MarshalContext).toForeign offered .cstring (.object 1) = .ok (s, m') ∧
      (m'.run [.pass offered .unsignedByte (.object 0)]).memory.read (.ofNat s.raw) =
        [104, 105] := by
  have hstored : Bignum.storedInteger (0 :: 200 :: List.replicate 23 0) = 200 := by decide
  have hobject : offered.object 0 = .ok ⟨.bignum, 0 :: 200 :: List.replicate 23 0⟩ := rfl
  have hnumber : (Value.object 0).StandsFor offered 200 :=
    hstored ▸ Value.StandsFor.bignum hobject rfl (by decide)
  have htext : offered.HoldsText 1 [104, 105] :=
    ⟨⟨_, rfl, rfl, rfl⟩, ⟨"hi", by decide +kernel⟩, by decide⟩
  obtain ⟨hbyte, hgiven, _⟩ := values_passed_exactly {} offered .unsignedByte rfl (.object 0)
  obtain ⟨hstring, hcopied, _⟩ := values_passed_exactly {} offered .cstring rfl (.object 1)
  obtain ⟨s, m', hpassed⟩ := hbyte.mpr (.integer rfl hnumber (by decide) (by decide))
  obtain ⟨t, m'', hpassed'⟩ := hstring.mpr (.string htext)
  refine ⟨⟨s, m', hpassed, ?_⟩, t, m'', hpassed', ?_⟩
  · cases hgiven s m' hpassed with
    | integer _ _ hkind _ => exact hkind
  · cases hcopied t m'' hpassed' with
    | integer hty _ _ _ => cases hty
    | string htext' _ hcopy =>
      obtain ⟨object, hobject', _, rfl⟩ := htext'.object
      obtain rfl := Except.ok.inj hobject'
      exact (hcopy.intact (by simp) (by decide)).2.1

end Marshal

end CallEngine
