import CallEngine.Proofs.BuilderReplay
import CallEngine.Proofs.Crossing

/-!
# What the slots of a call hold

Every argument that is pushed gets a slot in the call image. Slots are aligned and lie one behind
the other, and all bytes between them are zero. What was pushed for a slot stays there, whatever is
pushed later, wherever the cursor is moved and however often a push is refused. A value that was
marshaled is read back from its slot: as it was marshaled by the declared type, and promoted if its
parameter is variadic and of a small type.
-/

namespace CallEngine

/-! ## Promotion -/

/-- The types that variadic arguments do not travel as. -/
def ForeignType.isPromotable (ty : ForeignType) : Bool :=
  match ty.kind with
  | .i8 | .u8 | .i16 | .u16 | .f32 => true
  | _ => false

/-- A type is promoted to another one exactly if it is promotable. -/
theorem ForeignType.promoted_eq_self (ty : ForeignType) :
    ty.promoted = ty ↔ ty.isPromotable = false := by
  cases ty <;> decide

/-- A scalar is promoted to the kind that its type is promoted to. -/
theorem Scalar.kind_promote {s : Scalar} {ty : ForeignType} (h : s.kind = ty.kind) :
    s.promote.kind = ty.promoted.kind := by
  obtain ⟨kind, bits⟩ := s
  cases h
  cases ty <;> rfl

/-- An integer that fits 32 bits is the same in 32 bits. -/
theorem Scalar.asInteger_wrapInteger {n : Int} (hle : -2 ^ 31 ≤ n) (hlt : n < 2 ^ 31) :
    (wrapInteger .i32 n).asInteger = some n := by
  have hrange : ScalarKind.i32.range = (-2 ^ 31, 2 ^ 31 - 1) := by decide
  have hfits : ofInteger? .i32 n = some (wrapInteger .i32 n) := by
    rw [ofInteger?, hrange, if_pos]
    · rfl
    · simp only [ScalarKind.isIntegral, Bool.true_and, Bool.and_eq_true, decide_eq_true_eq]
      omega
  exact (ofInteger?_eq_some hfits).2.1

/-- Promotion keeps the integer that a scalar denotes. -/
theorem Scalar.asInteger_promote (s : Scalar) : s.promote.asInteger = s.asInteger := by
  obtain ⟨kind, bits⟩ := s
  have hsigned (hwidth : kind.width ≤ 16) : -2 ^ 31 ≤ bits.toInt ∧ bits.toInt < 2 ^ 31 := by
    have hle := BitVec.le_two_mul_toInt (x := bits)
    have hlt := BitVec.two_mul_toInt_lt (x := bits)
    have hpower : (2 : Int) ^ kind.width ≤ 2 ^ 16 := by
      exact_mod_cast Nat.pow_le_pow_right Nat.zero_lt_two hwidth
    omega
  have hunsigned (hwidth : kind.width ≤ 16) :
      -2 ^ 31 ≤ (bits.toNat : Int) ∧ (bits.toNat : Int) < 2 ^ 31 := by
    have hlt := bits.isLt
    have hpower := Nat.pow_le_pow_right Nat.zero_lt_two hwidth
    omega
  cases kind with
  | i8 | i16 =>
    obtain ⟨hle, hlt⟩ := hsigned (by decide)
    exact asInteger_wrapInteger hle hlt
  | u8 | u16 =>
    obtain ⟨hle, hlt⟩ := hunsigned (by decide)
    exact asInteger_wrapInteger hle hlt
  | _ => rfl

/-! ## Pushes -/

namespace BuilderUse

/-- These bytes are what a push has to leave for argument `index`, which is passed as `ty`: the
bytes that were given, the bytes of the integer, or bytes from which the marshaled value is read
back. -/
inductive Leaves (signature : Signature) (index : Nat) (ty : ForeignType) (bytes : List UInt8) :
    BuilderUse → Prop
  | data : Leaves signature index ty bytes (.pushBytes bytes)
  | int {n : Int32} (hbytes : bytes = Binary.octets 4 n.toUInt32.toNat) :
    Leaves signature index ty bytes (.pushInt n)
  | value {heap : Heap} {address : Nat} {value : Value} {declared : ForeignType} {p : Passed}
    (hdeclared : signature.params[index]? = some declared)
    (hpassed : Marshal.passed heap declared value = .ok p)
    (hread : Scalar.ofBytes? ty.kind bytes =
      some (if signature.isVariadic index && declared.isPromotable then (p.native address).promote
        else p.native address)) :
    Leaves signature index ty bytes (.pushArg heap address value)

end BuilderUse

/-- The declared type of a parameter, and the type it is passed as. -/
theorem Signature.declared_of_effective {s : Signature} {index : Nat} {ty : ForeignType}
    (h : s.effectiveParams[index]? = some ty) :
    ∃ declared, s.params[index]? = some declared ∧
      ty = if s.isVariadic index then declared.promoted else declared := by
  rw [effectiveParams, getElem?_promoteFrom, Option.map_eq_some_iff] at h
  obtain ⟨declared, hdeclared, hty⟩ := h
  rw [Nat.zero_add] at hty
  exact ⟨declared, hdeclared, hty.symm⟩

namespace CallBuilder

variable {b b' : CallBuilder} {signature : Signature} {u : BuilderUse} {uses done : List BuilderUse}
  {call : PreparedCall} {ty : ForeignType} {data : List UInt8}

/-- The bytes that are pushed for a scalar are read back as the scalar, promoted if the parameter is
variadic and promotable. -/
theorem ofBytes?_passedBytes {declared : ForeignType} {native : Scalar} (variadic : Bool)
    (hkind : native.kind = declared.kind)
    (hty : ty = if variadic then declared.promoted else declared) :
    Scalar.ofBytes? ty.kind (passedBytes declared ty native) =
      some (if variadic && declared.isPromotable then native.promote else native) := by
  have hread {s : Scalar} (hs : s.kind = ty.kind) :
      Scalar.ofBytes? ty.kind (s.toBytes.take ty.size) = some s := by
    have hback := Scalar.ofBytes?_toBytes s []
    rw [List.append_nil, hs] at hback
    exact hback
  by_cases hpromoted : (variadic && declared.isPromotable) = true
  · obtain ⟨rfl, hpromotable⟩ := Bool.and_eq_true_iff.mp hpromoted
    have hne : declared ≠ declared.promoted := fun heq => by
      rw [(ForeignType.promoted_eq_self declared).mp heq.symm] at hpromotable
      cases hpromotable
    rw [if_pos rfl] at hty
    rw [if_pos hpromoted, passedBytes, if_neg (hty ▸ hne)]
    exact hread (hty ▸ Scalar.kind_promote hkind)
  · have hsame : ty = declared := by
      cases variadic with
      | false => exact hty
      | true =>
        rw [Bool.true_and, Bool.not_eq_true] at hpromoted
        exact hty.trans ((ForeignType.promoted_eq_self declared).mpr hpromoted)
    subst hsame
    rw [if_neg hpromoted, passedBytes, if_pos rfl]
    exact hread hkind

/-- An accepted push leaves what it has to. -/
theorem leaves_of_op (hprepared : b.prepared = some ⟨signature, signature.effectiveParams⟩)
    (hpush : u.isPush = true) (hop : u.op b = .done () b') :
    ∃ call ty data made, ∃ room : b.Room ty data, b.Next call ty ∧
      signature.effectiveParams[b.slots.length]? = some ty ∧
      b' = (b.pushed call ty data room).keeping made ∧
      u.Leaves signature b.slots.length ty data := by
  have hcall {call : PreparedCall} {ty : ForeignType} (hnext : b.Next call ty) :
      call = ⟨signature, signature.effectiveParams⟩ := by
    have hsame := hnext.prepared.symm.trans hprepared
    rwa [Option.some.injEq] at hsame
  -- The bytes are pushed once a copy was made.
  have hbytes (made : List NativeString) {data : List UInt8}
      (hdone : pushBytes data (b.keeping made) = .done () b')
      (hleaves : ∀ ty, signature.effectiveParams[b.slots.length]? = some ty →
        u.Leaves signature b.slots.length ty data) :
      ∃ call ty data made, ∃ room : b.Room ty data, b.Next call ty ∧
        signature.effectiveParams[b.slots.length]? = some ty ∧
        b' = (b.pushed call ty data room).keeping made ∧
        u.Leaves signature b.slots.length ty data := by
    rcases pushBytes_cases (b.keeping made) data with
      ⟨error, hfailed⟩ | ⟨call, ty, hnext, room, hpushed⟩
    · rw [hfailed] at hdone
      cases hdone
    · rw [hpushed] at hdone
      cases hdone
      have hsame : b.Next call ty := ⟨hnext.prepared, hnext.param⟩
      have hparam : signature.effectiveParams[b.slots.length]? = some ty := by
        rw [← hsame.param, hcall hsame]
      exact ⟨call, ty, data, made, ⟨room.size, room.ends⟩, hsame, hparam, rfl, hleaves ty hparam⟩
  cases u with
  | pushBytes data => exact hbytes [] hop fun _ _ => .data
  | pushInt n => exact hbytes [] hop fun _ _ => .int rfl
  | pushArg heap address value =>
    change pushArg heap address value b = .done () b' at hop
    rcases pushArg_cases b heap address value with
      ⟨error, hfailed⟩ | ⟨stop, hfatal⟩ | ⟨call, ty, declared, p, hnext, hdeclared, hp, heq⟩
    · rw [hfailed] at hop
      cases hop
    · rw [hfatal] at hop
      cases hop
    · rw [heq] at hop
      obtain rfl := hcall hnext
      have hparam : signature.effectiveParams[b.slots.length]? = some ty := hnext.param
      refine hbytes _ hop fun ty' hty' => ?_
      obtain rfl : ty = ty' := Option.some.inj (hparam.symm.trans hty')
      obtain ⟨declared', hdeclared', hty⟩ := Signature.declared_of_effective hparam
      obtain rfl : declared = declared' := Option.some.inj (hdeclared.symm.trans hdeclared')
      exact .value hdeclared hp (ofBytes?_passedBytes _ (Marshal.kind_native hp address) hty)
  | _ => cases hpush

/-! ## Slots -/

/-- A byte of the buffer that no argument covers. -/
def Uncovered (b : CallBuilder) (i : Nat) : Prop :=
  ∀ slot ∈ b.slots, i < slot.offset ∨ slot.offset + slot.size ≤ i

/-- A call of this signature is laid out, and these uses are the pushes of its arguments. -/
structure Laid (signature : Signature) (pushes : List BuilderUse) (b : CallBuilder) : Prop where
  prepared : b.prepared = some ⟨signature, signature.effectiveParams⟩
  /-- Every accepted push has its slot. -/
  count : b.slots.length = pushes.length
  bounded : b.cursor ≤ imageLimit
  param {i : Nat} {slot : ArgSlot} (hslot : b.slots[i]? = some slot) :
    signature.effectiveParams[i]? = some slot.ty
  aligned {slot : ArgSlot} (hslot : slot ∈ b.slots) : slot.ty.align ∣ slot.offset
  size {slot : ArgSlot} (hslot : slot ∈ b.slots) : slot.size = slot.ty.size
  within {slot : ArgSlot} (hslot : slot ∈ b.slots) : slot.offset + slot.size ≤ b.cursor
  /-- A slot ends where a later one starts, or before. -/
  ordered : b.slots.Pairwise fun slot later => slot.offset + slot.size ≤ later.offset
  /-- All other bytes of the buffer are zero, before the cursor and behind it. -/
  padding {i : Nat} (hi : i < imageLimit) (huncovered : b.Uncovered i) :
    b.buffer.bytes[i]? = some 0
  holds {i : Nat} {slot : ArgSlot} {u : BuilderUse} (hslot : b.slots[i]? = some slot)
    (hu : pushes[i]? = some u) : u.Leaves signature i slot.ty (b.slotBytes slot)

/-- A prepared call has no slots yet, and its buffer was filled with zeros. -/
theorem Laid.ofPrepare (h : prepare signature b = .done () b') : b'.Laid signature [] := by
  rw [prepare_done h]
  exact
    { prepared := rfl
      count := rfl
      bounded := Nat.zero_le _
      param := fun hslot => by cases hslot
      aligned := fun hslot => by cases hslot
      size := fun hslot => by cases hslot
      within := fun hslot => by cases hslot
      ordered := .nil
      padding := fun hi _ => CallBuffer.getElem?_zeros hi
      holds := fun hslot => by cases hslot }

/-- A slot is one of those before the push, or the new one. -/
theorem mem_slots_pushed (room : b.Room ty data) {slot : ArgSlot}
    (h : slot ∈ (b.pushed call ty data room).slots) :
    slot ∈ b.slots ∨ slot = b.nextSlot call ty := by
  rcases List.mem_append.mp h with hold | hnew
  · exact .inl hold
  · exact .inr (List.mem_singleton.mp hnew)

/-- The new slot is behind those before the push. -/
theorem getElem?_slots_pushed (room : b.Room ty data) {i : Nat} {slot : ArgSlot}
    (h : (b.pushed call ty data room).slots[i]? = some slot) :
    b.slots[i]? = some slot ∨ i = b.slots.length ∧ slot = b.nextSlot call ty := by
  change (b.slots ++ [b.nextSlot call ty])[i]? = some slot at h
  rw [List.getElem?_append] at h
  split at h
  · exact .inl h
  · rw [List.getElem?_singleton] at h
    split at h
    · exact .inr ⟨by omega, (Option.some.inj h).symm⟩
    · cases h

/-- A push writes no byte outside of its slot. -/
theorem getElem?_pushed {room : b.Room ty data} {i : Nat}
    (h : (b.pushed call ty data room).Uncovered i) :
    (b.pushed call ty data room).buffer.bytes[i]? = b.buffer.bytes[i]? := by
  have hnext := h (b.nextSlot call ty) (List.mem_append_right _ (List.mem_singleton_self _))
  change i < alignUp b.cursor ty.align ∨ alignUp b.cursor ty.align + ty.size ≤ i at hnext
  change (b.buffer.write (alignUp b.cursor ty.align) data room.writable).bytes[i]? = _
  rw [CallBuffer.getElem?_write, room.size, if_neg (by omega)]

/-- What is pushed next comes behind the slots that are there, and leaves them. -/
theorem Laid.pushed (h : b.Laid signature done)
    (hty : signature.effectiveParams[b.slots.length]? = some ty) (room : b.Room ty data)
    (hleaves : u.Leaves signature b.slots.length ty data) (made : List NativeString) :
    ((b.pushed call ty data room).keeping made).Laid signature (done ++ [u]) := by
  have hgrows : b.cursor ≤ ty.endFrom b.cursor := ty.le_endFrom _
  have hstart : b.cursor ≤ (b.nextSlot call ty).offset := le_alignUp ty.align_pos _
  have hmem {slot : ArgSlot} (hslot : slot ∈ ((b.pushed call ty data room).keeping made).slots) :
      slot ∈ b.slots ∨ slot = b.nextSlot call ty := mem_slots_pushed room hslot
  have hget {i : Nat} {slot : ArgSlot}
      (hslot : ((b.pushed call ty data room).keeping made).slots[i]? = some slot) :
      b.slots[i]? = some slot ∨ i = b.slots.length ∧ slot = b.nextSlot call ty :=
    getElem?_slots_pushed room hslot
  refine
    { prepared := h.prepared
      count := ?_
      bounded := room.ends
      param := fun hslot => ?_
      aligned := fun hslot => ?_
      size := fun hslot => ?_
      within := fun hslot => ?_
      ordered := ?_
      padding := fun {i} hi huncovered => ?_
      holds := fun hslot hu => ?_ }
  · change (b.pushed call ty data room).slots.length = _
    rw [length_slots_pushed, h.count, List.length_append, List.length_singleton]
  · rcases hget hslot with hold | ⟨rfl, rfl⟩
    · exact h.param hold
    · exact hty
  · rcases hmem hslot with hold | rfl
    · exact h.aligned hold
    · exact Nat.dvd_mul_left _ _
  · rcases hmem hslot with hold | rfl
    · exact h.size hold
    · rfl
  · rcases hmem hslot with hold | rfl
    · exact Nat.le_trans (h.within hold) hgrows
    · exact Nat.le_refl _
  · refine List.pairwise_append.mpr
      ⟨h.ordered, List.pairwise_singleton _ _, fun slot hslot later hlater => ?_⟩
    rw [List.mem_singleton.mp hlater]
    exact Nat.le_trans (h.within hslot) hstart
  · have hsame : (b.pushed call ty data room).buffer.bytes[i]? = b.buffer.bytes[i]? :=
      getElem?_pushed huncovered
    exact hsame.trans
      (h.padding hi fun slot hslot => huncovered slot (List.mem_append_left _ hslot))
  · rcases hget hslot with hold | ⟨rfl, rfl⟩
    · obtain ⟨hlt, _⟩ := List.getElem?_eq_some_iff.mp hold
      rw [List.getElem?_append_left (h.count ▸ hlt)] at hu
      have hkept := slotBytes_pushed call room (h.within (List.mem_of_getElem? hold))
      exact hkept ▸ h.holds hold hu
    · rw [h.count, List.getElem?_concat_length, Option.some.injEq] at hu
      have hnew := slotBytes_nextSlot call room
      exact hu ▸ hnew.symm ▸ hleaves

/-- Moving the cursor writes nothing. -/
theorem Laid.moved (h : b.Laid signature done) {n : Nat} (hpos : 0 < n)
    (hend : alignUp b.cursor n ≤ imageLimit) : (b.aligned n).Laid signature done :=
  { h with
    bounded := hend
    within := fun hslot => Nat.le_trans (h.within hslot) (le_alignUp hpos _) }

/-! ## Uses of a builder -/

/-- The accepted pushes among uses of a builder, in order. -/
def pushes (b : CallBuilder) (uses : List BuilderUse) : List BuilderUse :=
  (b.accepted uses).filter BuilderUse.isPush

/-- An accepted use that prepares no other call pushes the next argument, or leaves the slots. -/
theorem Laid.accepted (h : b.Laid signature done) (hkeeps : u.isPrepare = false)
    (hop : u.op b = .done () b') : b'.Laid signature (done ++ [u].filter BuilderUse.isPush) := by
  by_cases hpush : u.isPush = true
  · obtain ⟨call, ty, data, made, room, _, hty, rfl, hleaves⟩ := leaves_of_op h.prepared hpush hop
    rw [List.filter_cons_of_pos hpush, List.filter_nil]
    exact h.pushed hty room hleaves made
  · rw [List.filter_cons_of_neg hpush, List.filter_nil, List.append_nil]
    cases accepted_of_done hop with
    | prepared _ => cases hkeeps
    | pushed hpushed => exact absurd hpushed hpush
    | aligned hpos hend => exact h.moved hpos hend
    | executed _ => exact { h with }

/-- The slots hold what was pushed for them after any uses that prepare no other call. The induction
is over the uses that are left. -/
theorem Laid.run (h : b.Laid signature done) (hkeeps : b.KeepsCall uses) :
    (b.run uses).Laid signature (done ++ b.pushes uses) := by
  induction uses generalizing b done with
  | nil => rwa [CallBuilder.pushes, CallBuilder.accepted, List.filter_nil, List.append_nil]
  | cons u rest ih =>
    obtain ⟨hprepare, hrest⟩ := hkeeps
    rw [CallBuilder.run]
    rcases after_cases b u with ⟨b', hdone, _, hafter⟩ | ⟨hrefused, made, _, hafter⟩
    · have hother := isPrepare_eq_false hprepare hdone
      have hpushes : b.pushes (u :: rest) = [u].filter BuilderUse.isPush ++ b'.pushes rest := by
        rw [CallBuilder.pushes, accepted_of_accepted hdone, CallBuilder.pushes, ← List.filter_append,
          List.singleton_append]
      rw [hafter] at hrest ⊢
      rw [hpushes, ← List.append_assoc]
      exact ih (h.accepted hother hdone) hrest
    · have hpushes : b.pushes (u :: rest) = (b.after u).pushes rest := by
        rw [CallBuilder.pushes, accepted_of_refused hrefused, CallBuilder.pushes]
      have hkept : (b.keeping made).Laid signature done := { h with }
      rw [hpushes]
      exact ih (hafter ▸ hkept) hrest

/-- However a prepared call is built, and whatever is refused meanwhile: every accepted push has
its slot, aligned and sized for the type the parameter is passed as, behind the slots before it and
within the buffer; it holds what was pushed for it; and all bytes outside the slots are zero. What
was accumulated before is only continued. An integer that is promoted stays the same. -/
theorem slots_hold_pushes (hprepare : prepare signature b = .done () b')
    (hkeeps : b'.KeepsCall uses) :
    (b'.run uses).Laid signature (b'.pushes uses) ∧
    (b'.run uses).image.length = (b'.run uses).cursor ∧
    (∀ more, (b'.run uses).KeepsCall more →
      (b'.run uses).image <+: (b'.run (uses ++ more)).image) ∧
    ∀ s : Scalar, s.promote.asInteger = s.asInteger := by
  have hlaid : (b'.run uses).Laid signature (b'.pushes uses) := (Laid.ofPrepare hprepare).run hkeeps
  have hclean : (b'.run uses).Clean := (prepare_done hprepare ▸ fresh_clean _ _ : b'.Clean).run uses
  refine ⟨hlaid, hclean.length_image, fun more hmore => ?_, Scalar.asInteger_promote⟩
  rw [run_append]
  exact hclean.image_run hmore

/-- A call of a character and a variadic short integer. -/
def tagged : Signature := { params := [.char, .short], ret := .int, variadicFrom := some 1 }

/-- Both arguments are pushed, with two bytes for the character refused first, the cursor moved in
between, and an argument too many at the end. -/
def taggedUses : List BuilderUse :=
  [.pushBytes [7, 7], .pushBytes [7], .align 16, .pushArg {} 0 (.fixnum (-2)), .pushInt 3]

/-- The character is at the start, the short integer is the 32-bit integer -2 behind fifteen zeros,
and the refused pushes have left nothing. -/
theorem tagged_slots_hold : ∃ b', prepare tagged (create .host) = .done () b' ∧
    b'.KeepsCall taggedUses ∧
    (b'.run taggedUses).image = 7 :: (List.replicate 15 0 ++ [254, 255, 255, 255]) ∧
    b'.pushes taggedUses = [.pushBytes [7], .pushArg {} 0 (.fixnum (-2))] ∧
    (b'.run taggedUses).Laid tagged (b'.pushes taggedUses) := by
  have hkeeps (b' : CallBuilder) : b'.KeepsCall taggedUses :=
    keepsCall_of_forall (by decide) b'
  have hprepare : prepare tagged (create .host) = .done () (fresh .host tagged) := rfl
  exact ⟨_, hprepare, hkeeps _, rfl, rfl, (slots_hold_pushes hprepare (hkeeps _)).1⟩

end CallBuilder

end CallEngine
