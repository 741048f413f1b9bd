import CallEngine.Proofs.BuilderUses
import CallEngine.Proofs.Marshaling
import CallEngine.Proofs.ScalarForms

/-!
# Builders forget

A builder is used for one call after another, and uses of it may be refused at any point. Here it is
shown that only the call that was prepared last and the accepted uses since then have left anything
in it. A new builder for the same target that is given just these uses is the same: all bytes of the
buffer and the cursor, the slots, the registers that are used up, the last result and the prepared
call. Only copies that were made for refused arguments are missing. They are kept until the next call
is prepared, and nothing refers to them.

Copies of strings are placed in native memory, and a new builder may find them placed elsewhere. Then
the builders are the same up to the addresses of the copies, as long as native code does not tell
addresses apart that stand for the same copy.
-/

namespace CallEngine

/-- Placing an argument does not change the target. -/
theorem RegisterCursor.abi_assign (c : RegisterCursor) (ty : ForeignType) (variadic : Bool) :
    (c.assign ty variadic).2.abi = c.abi := by
  have hregister (cls : ArgClass) : ((c.takeRegister? cls).getD (c.takeStack ty)).2.abi = c.abi := by
    unfold takeRegister?
    split
    · split <;> rfl
    · cases cls <;> dsimp only <;> split <;> rfl
  unfold assign
  split
  · rfl
  · exact hregister _

/-- The last preparation and the uses after it, or all uses if no call is prepared. -/
def BuilderUse.lastCall : List BuilderUse → List BuilderUse
  | [] => []
  | u :: rest => if rest.any isPrepare then lastCall rest else u :: rest

namespace CallBuilder

open BuilderUse (lastCall)

variable {b b' b₁ : CallBuilder} {u : BuilderUse} {uses : List BuilderUse} {call : PreparedCall}
  {ty : ForeignType} {data : List UInt8}

/-- The uses that are accepted, in order. -/
def accepted (b : CallBuilder) : List BuilderUse → List BuilderUse
  | [] => []
  | u :: rest =>
    match u.op b with
    | .done _ b' => u :: b'.accepted rest
    | .failed _ b' => b'.accepted rest
    | .fatal _ b' => b'.accepted rest

/-- No use is refused. -/
def AcceptsAll (b : CallBuilder) : List BuilderUse → Prop
  | [] => True
  | u :: rest => ∃ b', u.op b = .done () b' ∧ b'.AcceptsAll rest

/-- An accepted use is the first of those accepted. -/
theorem accepted_of_accepted (h : u.op b = .done () b') :
    b.accepted (u :: uses) = u :: b'.accepted uses := by
  rw [accepted, h]

/-- Any other use is left out. -/
theorem accepted_of_refused (h : ∀ b', u.op b ≠ .done () b') :
    b.accepted (u :: uses) = (b.after u).accepted uses := by
  rw [accepted, after]
  cases hop : u.op b with
  | done value b' => exact absurd hop (h b')
  | failed error b' => rfl
  | fatal stop b' => rfl

/-! ## Refused uses -/

/-- Two builders are the same, and the first one keeps no other copies than the second one. -/
def Alike (b b' : CallBuilder) : Prop :=
  b.copies.Sublist b'.copies ∧ b = { b' with copies := b.copies }

/-- Every builder is like itself. -/
theorem Alike.refl (b : CallBuilder) : Alike b b := ⟨List.Sublist.refl _, rfl⟩

/-- What is done with a builder does not depend on the copies that it keeps: an accepted use is also
accepted by a builder with fewer of them. -/
theorem Alike.op (h : Alike b b') {b₁' : CallBuilder} (hop : u.op b' = .done () b₁') :
    ∃ b₁, u.op b = .done () b₁ ∧ Alike b₁ b₁' := by
  obtain ⟨hcopies, hsame⟩ := h
  generalize b.copies = copies at hcopies hsame
  subst hsame
  have hbytes (made : List NativeString) {data : List UInt8}
      (hpush : pushBytes data (b'.keeping made) = .done () b₁') :
      ∃ b₁, pushBytes data ({ b' with copies }.keeping made) = .done () b₁ ∧ Alike b₁ b₁' := by
    rcases pushBytes_cases (b'.keeping made) data with
      ⟨error, hfailed⟩ | ⟨call, ty, hnext, room, hdone⟩
    · rw [hfailed] at hpush
      cases hpush
    · rw [hdone] at hpush
      cases hpush
      have hnext' : ({ b' with copies }.keeping made).Next call ty := ⟨hnext.prepared, hnext.param⟩
      have hroom : ({ b' with copies }.keeping made).Room ty data := ⟨room.size, room.ends⟩
      exact ⟨_, pushBytes_of_room hnext' hroom, List.Sublist.append_left hcopies made, rfl⟩
  cases u with
  | prepare signature =>
    change prepare signature b' = .done () b₁' at hop
    rcases prepare_cases b' signature with ⟨error, hfailed⟩ | hdone
    · rw [hfailed b' rfl] at hop
      cases hop
    · rw [hdone b' rfl] at hop
      cases hop
      exact ⟨_, hdone { b' with copies } rfl, .refl _⟩
  | pushBytes data => exact hbytes [] hop
  | pushInt n => exact hbytes [] hop
  | pushArg heap address value =>
    change CallBuilder.pushArg heap address value b' = .done () b₁' at hop
    rcases pushArg_cases b' heap address value with
      ⟨error, hfailed⟩ | ⟨stop, hfatal⟩ | ⟨call, ty, declared, p, hnext, hdeclared, hp, heq⟩
    · rw [hfailed] at hop
      cases hop
    · rw [hfatal] at hop
      cases hop
    · rw [heq] at hop
      have hnext' : { b' with copies }.Next call ty := ⟨hnext.prepared, hnext.param⟩
      obtain ⟨b₁, hpush, halike⟩ := hbytes _ hop
      exact ⟨b₁, (pushArg_of_passed hnext' hdeclared hp).trans hpush, halike⟩
  | align n =>
    change CallBuilder.align n b' = .done () b₁' at hop
    rcases align_cases b' n with ⟨error, hfailed⟩ | ⟨_, _, hdone⟩
    · rw [hfailed b' rfl] at hop
      cases hop
    · rw [hdone b' rfl] at hop
      cases hop
      exact ⟨_, hdone { b' with copies } rfl, hcopies, rfl⟩
  | execute returnType entry =>
    cases accepted_of_done hop with
    | pushed hpush => cases hpush
    | executed hargs =>
      obtain ⟨hready, hstart, hfound, _⟩ := takeArguments_eq_done.mp hargs
      have hsame : takeArguments returnType { b' with copies } = .done _ { b' with copies } :=
        takeArguments_eq_done.mpr ⟨hready, hstart, hfound, rfl⟩
      exact ⟨_, op_execute_of_done hsame entry, hcopies, rfl⟩

/-- A use that is not accepted leaves nothing but a copy. -/
theorem Alike.refused (h : Alike b b') {made : List NativeString} : Alike b (b'.keeping made) :=
  ⟨h.1.trans (List.sublist_append_right made _), h.2⟩

/-- Refused uses can be left out: what was accepted is accepted again, and leaves the same. The
induction is over the uses, for all builders that are alike. -/
theorem Alike.run (h : Alike b b') (uses : List BuilderUse) :
    b.AcceptsAll (b'.accepted uses) ∧ Alike (b.run (b'.accepted uses)) (b'.run uses) := by
  induction uses generalizing b b' with
  | nil => exact ⟨trivial, h⟩
  | cons u rest ih =>
    rcases after_cases b' u with ⟨b₁', hdone, _, hafter⟩ | ⟨hrefused, made, _, hafter⟩
    · obtain ⟨b₁, hop, halike⟩ := h.op hdone
      obtain ⟨haccepts, hrun⟩ := ih halike
      rw [accepted_of_accepted hdone, CallBuilder.run, CallBuilder.run, after_of_done hop, hafter]
      exact ⟨⟨b₁, hop, haccepts⟩, hrun⟩
    · rw [accepted_of_refused hrefused, CallBuilder.run, hafter]
      exact ih h.refused

/-! ## Earlier calls -/

/-- A builder stays one for the same target. -/
theorem abi_of_op (h : u.op b = .done () b') : b'.abi = b.abi := by
  cases accepted_of_done h with
  | prepared signature => rfl
  | pushed _ _ _ _ => exact RegisterCursor.abi_assign _ _ _
  | aligned _ _ => rfl
  | executed _ => rfl

/-- A builder stays one for the same target, whatever is done with it. -/
theorem abi_run (b : CallBuilder) (uses : List BuilderUse) : (b.run uses).abi = b.abi := by
  induction uses generalizing b with
  | nil => rfl
  | cons u rest ih =>
    rw [CallBuilder.run, ih]
    rcases after_cases b u with ⟨b', hdone, _, hafter⟩ | ⟨_, made, _, hafter⟩
    · rw [hafter, abi_of_op hdone]
    · rw [hafter]
      rfl

/-- What is prepared only depends on the target. -/
theorem prepare_congr {signature : Signature} (habi : b'.abi = b.abi)
    (h : prepare signature b = .done () b₁) : prepare signature b' = .done () b₁ := by
  rcases prepare_cases b signature with ⟨error, hfailed⟩ | hdone
  · rw [hfailed b rfl] at h
    cases h
  · rw [hdone b rfl] at h
    rw [hdone b' habi, h]

/-- Nothing survives a preparation: whatever was done before it, the uses from the last one on can be
given to any builder for the same target. -/
theorem run_lastCall (habi : b.abi = b'.abi) (haccepts : b.AcceptsAll uses)
    (hprepare : uses.any BuilderUse.isPrepare = true) :
    b'.AcceptsAll (lastCall uses) ∧ b'.run (lastCall uses) = b.run uses := by
  induction uses generalizing b with
  | nil => cases hprepare
  | cons u rest ih =>
    obtain ⟨next, hop, hrest⟩ := haccepts
    rw [CallBuilder.run, after_of_done hop, lastCall]
    by_cases hlater : rest.any BuilderUse.isPrepare = true
    · rw [if_pos hlater]
      exact ih ((abi_of_op hop).trans habi) hrest hlater
    · rw [List.any_cons, Bool.or_eq_true] at hprepare
      have hsame : u.op b' = .done () next := by
        cases u with
        | prepare signature => exact prepare_congr habi.symm hop
        | _ => cases hprepare.resolve_right hlater
      rw [if_neg hlater, CallBuilder.run, after_of_done hsame]
      exact ⟨⟨next, hsame, hrest⟩, rfl⟩

/-- The uses that have left something in a builder: the last accepted preparation and what was
accepted after it, or all that was accepted if no call was prepared. -/
def kept (b : CallBuilder) (uses : List BuilderUse) : List BuilderUse := lastCall (b.accepted uses)

/-- Later uses are accepted by what the earlier ones leave. -/
theorem accepted_append (b : CallBuilder) (uses more : List BuilderUse) :
    b.accepted (uses ++ more) = b.accepted uses ++ (b.run uses).accepted more := by
  induction uses generalizing b with
  | nil => rfl
  | cons u rest ih =>
    rw [List.cons_append, CallBuilder.run]
    rcases after_cases b u with ⟨b', hdone, _, hafter⟩ | ⟨hrefused, _⟩
    · rw [accepted_of_accepted hdone, accepted_of_accepted hdone, ih, hafter, List.cons_append]
    · rw [accepted_of_refused hrefused, accepted_of_refused hrefused, ih]

/-- Nothing before a preparation belongs to the last call. -/
theorem lastCall_append (earlier : List BuilderUse) {later : List BuilderUse}
    (h : later.any BuilderUse.isPrepare = true) : lastCall (earlier ++ later) = lastCall later := by
  induction earlier with
  | nil => rfl
  | cons u rest ih =>
    rw [List.cons_append, lastCall, List.any_append, h, Bool.or_true, if_pos rfl, ih]

/-- Of a history that goes on with a call that is prepared, this call is kept, and what is accepted
for it. -/
theorem kept_append {abi : Abi} {signature : Signature}
    (h : prepare signature (create abi) = .done () b₁) (earlier later : List BuilderUse) :
    (create abi).kept (earlier ++ .prepare signature :: later) =
      lastCall (.prepare signature :: b₁.accepted later) := by
  have hop : (BuilderUse.prepare signature).op ((create abi).run earlier) = .done () b₁ :=
    prepare_congr (abi_run _ _) h
  rw [kept, accepted_append, accepted_of_accepted hop, lastCall_append _ rfl]

/-- What has left something in a new builder makes the same of another new one, and none of it is
refused. -/
theorem run_kept (abi : Abi) (uses : List BuilderUse) :
    (create abi).AcceptsAll ((create abi).kept uses) ∧
      Alike ((create abi).run ((create abi).kept uses)) ((create abi).run uses) := by
  obtain ⟨haccepts, halike⟩ := (Alike.refl (create abi)).run uses
  rw [kept]
  by_cases hprepare : ((create abi).accepted uses).any BuilderUse.isPrepare = true
  · obtain ⟨hlast, hsame⟩ := run_lastCall rfl haccepts hprepare
    exact ⟨hlast, hsame ▸ halike⟩
  · have hall : lastCall ((create abi).accepted uses) = (create abi).accepted uses := by
      cases hcases : (create abi).accepted uses with
      | nil => rfl
      | cons u rest =>
        rw [hcases, List.any_cons, Bool.or_eq_true, not_or] at hprepare
        rw [lastCall, if_neg hprepare.2]
    rw [hall]
    exact ⟨haccepts, halike⟩

/-! ## Slots within the image -/

/-- The bytes of a slot. -/
def slotBytes (b : CallBuilder) (slot : ArgSlot) : List UInt8 :=
  (b.buffer.bytes.drop slot.offset).take slot.size

/-- Reading a scalar only takes the bytes of its size. -/
theorem ofBytes?_take (k : ScalarKind) (bytes : List UInt8) :
    Scalar.ofBytes? k (bytes.take k.size) = Scalar.ofBytes? k bytes := by
  rw [Scalar.ofBytes?, Scalar.ofBytes?, List.length_take, List.take_take, Nat.min_self]
  by_cases h : k.size ≤ bytes.length
  · rw [Nat.min_eq_left h, if_pos h, if_pos (Nat.le_refl _)]
  · rw [if_neg (by omega), if_neg h]

/-- The argument of a slot is what its bytes say. -/
theorem argument?_eq {slot : ArgSlot} (hsize : slot.size = slot.ty.size) :
    b.argument? slot = Scalar.ofBytes? slot.ty.kind (b.slotBytes slot) := by
  rw [argument?, slotBytes, hsize]
  exact (ofBytes?_take slot.ty.kind _).symm

/-- The bytes of a slot before the cursor do not change when the next argument is pushed. -/
theorem slotBytes_pushed (call : PreparedCall) (room : b.Room ty data) {slot : ArgSlot}
    (hwithin : slot.offset + slot.size ≤ b.cursor) :
    (b.pushed call ty data room).slotBytes slot = b.slotBytes slot :=
  CallBuffer.slice_write_apart room.writable (Nat.le_trans hwithin (le_alignUp ty.align_pos _))

/-- The bytes of the slot that was just pushed are the data. -/
theorem slotBytes_nextSlot (call : PreparedCall) (room : b.Room ty data) :
    (b.pushed call ty data room).slotBytes (b.nextSlot call ty) = data := by
  have hslice := b.buffer.slice_write room.writable
  rw [room.size] at hslice
  exact hslice

/-- Every argument lies within the image, and the parameters are passed as the signature says. -/
structure Seated (b : CallBuilder) : Prop where
  params (call : PreparedCall) (hcall : b.prepared = some call) :
    call.params = call.signature.effectiveParams
  slots (slot : ArgSlot) (hslot : slot ∈ b.slots) :
    slot.size = slot.ty.size ∧ slot.offset + slot.size ≤ b.cursor

/-- An argument that was pushed is not changed by later ones. -/
theorem Seated.argument?_pushed (h : b.Seated) (call : PreparedCall) (room : b.Room ty data)
    {slot : ArgSlot} (hslot : slot ∈ b.slots) :
    (b.pushed call ty data room).argument? slot = b.argument? slot := by
  obtain ⟨hsize, hwithin⟩ := h.slots slot hslot
  rw [argument?_eq hsize, argument?_eq hsize, slotBytes_pushed call room hwithin]

/-- The argument that was just pushed is what its bytes say. -/
theorem argument?_nextSlot (call : PreparedCall) (room : b.Room ty data) :
    (b.pushed call ty data room).argument? (b.nextSlot call ty) = Scalar.ofBytes? ty.kind data := by
  rw [argument?_eq rfl, slotBytes_nextSlot call room]
  rfl

/-- A new builder has no arguments. -/
theorem create_seated (abi : Abi) : (create abi).Seated where
  params _ hcall := by cases hcall
  slots _ hslot := by cases hslot

/-- Every use leaves the arguments within the image. -/
theorem Seated.after (h : b.Seated) (u : BuilderUse) : (b.after u).Seated := by
  rcases after_cases b u with ⟨b', _, haccepted, hafter⟩ | ⟨_, made, _, hafter⟩
  · rw [hafter]
    cases haccepted with
    | prepared signature =>
      refine ⟨fun call hcall => ?_, fun slot hslot => ?_⟩
      · cases hcall
        rfl
      · cases hslot
    | @pushed _ made call ty data _ _ _ room =>
      refine ⟨h.params, fun slot hslot => ?_⟩
      rcases List.mem_append.mp hslot with hold | hnew
      · obtain ⟨hsize, hend⟩ := h.slots slot hold
        exact ⟨hsize, Nat.le_trans hend (ty.le_endFrom _)⟩
      · rw [List.mem_singleton.mp hnew]
        exact ⟨rfl, Nat.le_refl _⟩
    | @aligned n hpos _ =>
      refine ⟨h.params, fun slot hslot => ?_⟩
      obtain ⟨hsize, hend⟩ := h.slots slot hslot
      exact ⟨hsize, Nat.le_trans hend (le_alignUp hpos _)⟩
    | executed _ => exact ⟨h.params, h.slots⟩
  · rw [hafter]
    exact ⟨h.params, h.slots⟩

end CallBuilder

/-! ## Moved copies -/

/-- Two scalars are the same, or are addresses that `R` relates. -/
def Scalar.Moved (R : UInt64 → UInt64 → Prop) (s s' : Scalar) : Prop :=
  s = s' ∨ ∃ a a', R a a' ∧ s = .pointer a ∧ s' = .pointer a'

/-- The same use of two builders. A copy may be placed at addresses that `R` relates, and native
code gives results that are the same up to `R` for arguments that are. -/
inductive BuilderUse.Moved (R : UInt64 → UInt64 → Prop) : BuilderUse → BuilderUse → Prop
  | prepare (signature : Signature) : Moved R (.prepare signature) (.prepare signature)
  | pushBytes (data : List UInt8) : Moved R (.pushBytes data) (.pushBytes data)
  | pushInt (n : Int32) : Moved R (.pushInt n) (.pushInt n)
  | pushArg (heap : Heap) (value : Value) {address address' : Nat}
    (hplaced : R (.ofNat address) (.ofNat address')) :
    Moved R (.pushArg heap address value) (.pushArg heap address' value)
  | align (n : Nat) : Moved R (.align n) (.align n)
  | execute (returnType : ForeignType) {entry entry' : List Scalar → Scalar}
    (hentry : ∀ args args', List.Forall₂ (Scalar.Moved R) args args' →
      Scalar.Moved R (.ofWord returnType.kind (entry args).toWord)
        (.ofWord returnType.kind (entry' args').toWord)) :
    Moved R (.execute returnType entry) (.execute returnType entry')

/-- A parameter is passed as it is declared, or promoted from the variadic start on. -/
theorem Signature.getElem?_promoteFrom (s : Signature) (start : Nat) (types : List ForeignType)
    (index : Nat) : (s.promoteFrom start types)[index]? =
      types[index]?.map fun ty => if s.isVariadic (start + index) then ty.promoted else ty := by
  induction types generalizing start index with
  | nil => rfl
  | cons ty rest ih =>
    cases index with
    | zero => rfl
    | succ index =>
      have hindex : start + 1 + index = start + (index + 1) := by omega
      rw [promoteFrom, List.getElem?_cons_succ, ih, List.getElem?_cons_succ, hindex]

/-- Only strings are copied. -/
theorem Marshal.eq_cstring_of_copy {heap : Heap} {ty : ForeignType} {value : Value}
    {bytes : List UInt8} (h : passed heap ty value = .ok (.copy bytes)) : ty = .cstring := by
  cases passed_eq_ok.mp h with
  | string _ => rfl

namespace CallBuilder

variable {R : UInt64 → UInt64 → Prop} {b b' b₁ : CallBuilder} {u u' : BuilderUse}
  {call : PreparedCall} {ty : ForeignType} {data data' : List UInt8}

/-- Two builders are the same up to addresses in `:cstring` arguments and in the last result, which
`R` relates. They keep the same copies, placed at addresses that `R` relates. -/
structure Moved (R : UInt64 → UInt64 → Prop) (b b' : CallBuilder) : Prop where
  registers : b'.registers = b.registers
  slots : b'.slots = b.slots
  prepared : b'.prepared = b.prepared
  cursor : b'.cursor = b.cursor
  bytes (i : Nat) (hi : ∀ slot ∈ b.slots, slot.ty = .cstring →
    i < slot.offset ∨ slot.offset + slot.size ≤ i) : b'.buffer.bytes[i]? = b.buffer.bytes[i]?
  arguments (slot : ArgSlot) (hslot : slot ∈ b.slots) :
    Option.Rel (Scalar.Moved R) (b.argument? slot) (b'.argument? slot)
  output : Scalar.Moved R b.output b'.output
  copies : List.Forall₂ (fun copy copy' => R (.ofNat copy.address) (.ofNat copy'.address) ∧
    copy'.bytes = copy.bytes) b.copies b'.copies

/-- Every optional scalar is the same as itself. -/
theorem rel_moved_refl (s : Option Scalar) : Option.Rel (Scalar.Moved R) s s := by
  cases s with
  | none => exact .none
  | some s => exact .some (.inl rfl)

/-- A builder that keeps no copies is the same as itself. -/
theorem Moved.refl (h : b.copies = []) : Moved R b b where
  registers := rfl
  slots := rfl
  prepared := rfl
  cursor := rfl
  bytes _ _ := rfl
  arguments _ _ := rel_moved_refl _
  output := .inl rfl
  copies := h ▸ .nil

/-- Builders that are the same have the same next parameter. -/
theorem Moved.next (h : Moved R b b') (hnext : b.Next call ty) : b'.Next call ty :=
  ⟨h.prepared.trans hnext.prepared, by rw [h.slots]; exact hnext.param⟩

/-- Arguments of builders that are the same lie within both images. -/
theorem Moved.seated (h : Moved R b b') (hseated : b.Seated) : b'.Seated where
  params call hcall := hseated.params call (h.prepared.symm.trans hcall)
  slots slot hslot := by
    rw [h.cursor]
    exact hseated.slots slot (h.slots ▸ hslot)

/-- Copies of the same text are kept by both of two builders that are the same. -/
theorem Moved.keeping (h : Moved R b b') {made made' : List NativeString}
    (hmade : List.Forall₂ (fun copy copy' => R (.ofNat copy.address) (.ofNat copy'.address) ∧
      copy'.bytes = copy.bytes) made made') : Moved R (b.keeping made) (b'.keeping made') :=
  { h with copies := List.rel_append hmade h.copies }

/-- What is pushed to builders that are the same leaves them the same if it is the same, or if it is
a string whose addresses are related. -/
theorem Moved.pushed (h : Moved R b b') (hseated : b.Seated) (room : b.Room ty data)
    (room' : b'.Room ty data') (hsame : ty ≠ .cstring → data' = data)
    (hread : Option.Rel (Scalar.Moved R) (Scalar.ofBytes? ty.kind data)
      (Scalar.ofBytes? ty.kind data')) :
    Moved R (b.pushed call ty data room) (b'.pushed call ty data' room') := by
  have hslot : b'.nextSlot call ty = b.nextSlot call ty := by
    simp only [nextSlot, h.cursor, h.registers, h.slots]
  refine ⟨?_, ?_, h.prepared, ?_, fun i hi => ?_, fun slot hmem => ?_, h.output, h.copies⟩
  · change (b'.registers.assign _ _).2 = (b.registers.assign _ _).2
    rw [h.registers, h.slots]
  · change b'.slots ++ [b'.nextSlot call ty] = b.slots ++ [b.nextSlot call ty]
    rw [h.slots, hslot]
  · change ty.endFrom b'.cursor = ty.endFrom b.cursor
    rw [h.cursor]
  · have hbefore := h.bytes i fun slot hmem => hi slot (List.mem_append_left _ hmem)
    change (b'.buffer.write _ data' room'.writable).bytes[i]? =
      (b.buffer.write _ data room.writable).bytes[i]?
    rw [CallBuffer.getElem?_write, CallBuffer.getElem?_write, h.cursor, hbefore, room.size,
      room'.size]
    by_cases hstring : ty = .cstring
    · -- The bytes of a string are not compared, only those before and behind it.
      have hlast := hi (b.nextSlot call ty) (List.mem_append_right _ (List.mem_singleton_self _))
        hstring
      change i < alignUp b.cursor ty.align ∨ alignUp b.cursor ty.align + ty.size ≤ i at hlast
      rw [if_neg (by omega), if_neg (by omega)]
    · rw [hsame hstring]
  · rcases List.mem_append.mp hmem with hold | hnew
    · rw [hseated.argument?_pushed call room hold,
        (h.seated hseated).argument?_pushed call room' (h.slots.symm ▸ hold)]
      exact h.arguments slot hold
    · have hright := argument?_nextSlot call room'
      rw [hslot] at hright
      rw [List.mem_singleton.mp hnew, argument?_nextSlot call room, hright]
      exact hread

/-- A push that is accepted by one of two builders that are the same is accepted by the other. -/
theorem Moved.pushBytes (h : Moved R b b') (hseated : b.Seated)
    (hpush : pushBytes data b = .done () b₁) (hlength : data'.length = data.length)
    (hdata : ∀ call ty, b.Next call ty → (ty ≠ .cstring → data' = data) ∧
      Option.Rel (Scalar.Moved R) (Scalar.ofBytes? ty.kind data) (Scalar.ofBytes? ty.kind data')) :
    ∃ b₁', CallBuilder.pushBytes data' b' = .done () b₁' ∧ Moved R b₁ b₁' := by
  rcases pushBytes_cases b data with ⟨error, hfailed⟩ | ⟨call, ty, hnext, room, hdone⟩
  · rw [hfailed] at hpush
    cases hpush
  · rw [hdone] at hpush
    cases hpush
    obtain ⟨hsame, hread⟩ := hdata call ty hnext
    have room' : b'.Room ty data' := ⟨hlength.trans room.size, h.cursor ▸ room.ends⟩
    exact ⟨_, pushBytes_of_room (h.next hnext) room', h.pushed hseated room room' hsame hread⟩

/-- The same bytes are accepted by both of two builders that are the same. -/
theorem Moved.pushBytes_same (h : Moved R b b') (hseated : b.Seated)
    (hpush : CallBuilder.pushBytes data b = .done () b₁) :
    ∃ b₁', CallBuilder.pushBytes data b' = .done () b₁' ∧ Moved R b₁ b₁' :=
  h.pushBytes hseated hpush rfl fun _ _ _ => ⟨fun _ => rfl, rel_moved_refl _⟩

/-- The type of the next parameter of a string is that of a string. -/
theorem Seated.eq_cstring (hseated : b.Seated) (hnext : b.Next call ty)
    (hstring : call.signature.params[b.slots.length]? = some .cstring) : ty = .cstring := by
  have hparam := hnext.param
  rw [hseated.params call hnext.prepared, Signature.effectiveParams,
    Signature.getElem?_promoteFrom, hstring, Option.map_some, Option.some.injEq] at hparam
  rw [← hparam]
  split <;> rfl

/-- What is passed for a value is the same wherever its copy is placed, or it is the address of the
copy. -/
theorem moved_passed (ty : ForeignType) {p : Passed} {declared : ForeignType} {heap : Heap}
    {value : Value} {address address' : Nat} (hplaced : R (.ofNat address) (.ofNat address'))
    (hp : Marshal.passed heap declared value = .ok p) (hty : declared = .cstring → ty = .cstring) :
    (ty ≠ .cstring → passedBytes declared ty (p.native address') =
      passedBytes declared ty (p.native address)) ∧
    Option.Rel (Scalar.Moved R)
      (Scalar.ofBytes? ty.kind (passedBytes declared ty (p.native address)))
      (Scalar.ofBytes? ty.kind (passedBytes declared ty (p.native address'))) ∧
    List.Forall₂ (fun copy copy' => R (.ofNat copy.address) (.ofNat copy'.address) ∧
      copy'.bytes = copy.bytes) (p.copies address) (p.copies address') := by
  cases p with
  | scalar s => exact ⟨fun _ => rfl, rel_moved_refl _, .nil⟩
  | copy bytes =>
    obtain rfl := Marshal.eq_cstring_of_copy hp
    obtain rfl := hty rfl
    have hpointer (a : UInt64) : Scalar.ofBytes? .pointer
        (passedBytes .cstring .cstring (.pointer a)) = some (.pointer a) := by
      have hwritten := Scalar.ofBytes?_toBytes (.pointer a) []
      rw [List.append_nil] at hwritten
      exact hwritten
    refine ⟨fun hstring => absurd rfl hstring, ?_, .cons ⟨hplaced, rfl⟩ .nil⟩
    change Option.Rel _ (Scalar.ofBytes? .pointer _) (Scalar.ofBytes? .pointer _)
    rw [Passed.native, Passed.native, hpointer, hpointer]
    exact .some (.inr ⟨_, _, hplaced, rfl, rfl⟩)

/-- A value that is marshaled for two builders that are the same is pushed to both. -/
theorem Moved.pushArg (h : Moved R b b') (hseated : b.Seated) {heap : Heap} {value : Value}
    {address address' : Nat} (hplaced : R (.ofNat address) (.ofNat address'))
    (hpush : CallBuilder.pushArg heap address value b = .done () b₁) :
    ∃ b₁', CallBuilder.pushArg heap address' value b' = .done () b₁' ∧ Moved R b₁ b₁' := by
  rcases pushArg_cases b heap address value with
    ⟨error, hfailed⟩ | ⟨stop, hfatal⟩ | ⟨call, ty, declared, p, hnext, hdeclared, hp, heq⟩
  · rw [hfailed] at hpush
    cases hpush
  · rw [hfatal] at hpush
    cases hpush
  · rw [heq] at hpush
    obtain ⟨hsame, hread, hcopies⟩ := moved_passed ty hplaced hp fun hstring =>
      hseated.eq_cstring hnext (hstring ▸ hdeclared)
    have hlength : (passedBytes declared ty (p.native address')).length =
        (passedBytes declared ty (p.native address)).length := by
      rw [length_passedBytes, length_passedBytes]
    have hkeeping : (b.keeping (p.copies address)).Seated := ⟨hseated.params, hseated.slots⟩
    obtain ⟨b₁', hpush', hmoved⟩ := (h.keeping hcopies).pushBytes hkeeping hpush hlength
      fun call' ty' hnext' => by
        have hcall := hnext.prepared.symm.trans hnext'.prepared
        rw [Option.some.injEq] at hcall
        have hty := hnext.param.symm.trans (hcall ▸ hnext'.param)
        rw [Option.some.injEq] at hty
        exact hty ▸ ⟨hsame, hread⟩
    have hdeclared' : call.signature.params[b'.slots.length]? = some declared := by
      rw [h.slots, hdeclared]
    exact ⟨b₁', (pushArg_of_passed (h.next hnext) hdeclared' hp).trans hpush', hmoved⟩

/-- The cursor of two builders that are the same is moved in the same way. -/
theorem Moved.align (h : Moved R b b') {n : Nat} (halign : CallBuilder.align n b = .done () b₁) :
    ∃ b₁', CallBuilder.align n b' = .done () b₁' ∧ Moved R b₁ b₁' := by
  rcases align_cases b n with ⟨error, hfailed⟩ | ⟨_, _, hdone⟩
  · rw [hfailed b rfl] at halign
    cases halign
  · rw [hdone b rfl] at halign
    cases halign
    refine ⟨_, hdone b' h.cursor, { h with cursor := ?_ }⟩
    change alignUp b'.cursor n = alignUp b.cursor n
    rw [h.cursor]

/-- Arguments that are the same one by one are the same as a whole. -/
theorem rel_mapM {f g : ArgSlot → Option Scalar} {slots : List ArgSlot}
    (h : ∀ slot ∈ slots, Option.Rel (Scalar.Moved R) (f slot) (g slot)) :
    Option.Rel (List.Forall₂ (Scalar.Moved R)) (slots.mapM f) (slots.mapM g) := by
  induction slots with
  | nil => exact .some .nil
  | cons slot rest ih =>
    have hrest := ih fun later hlater => h later (List.mem_cons_of_mem slot hlater)
    have hslot := h slot List.mem_cons_self
    rw [List.mapM_cons, List.mapM_cons]
    revert hslot hrest
    generalize f slot = first, g slot = first', rest.mapM f = others, rest.mapM g = others'
    intro hrest hslot
    cases hslot with
    | none => exact .none
    | some hfirst =>
      cases hrest with
      | none => exact .none
      | some hothers => exact .some (.cons hfirst hothers)

/-- The arguments of two builders that are the same are passed as the same. -/
theorem Moved.takeArguments (h : Moved R b b') {returnType : ForeignType} {args : List Scalar}
    (hargs : takeArguments returnType b = .done args b) :
    ∃ args', CallBuilder.takeArguments returnType b' = .done args' b' ∧
      List.Forall₂ (Scalar.Moved R) args args' := by
  obtain ⟨hready, hstart, hfound, _⟩ := takeArguments_eq_done.mp hargs
  have hall : Option.Rel (List.Forall₂ (Scalar.Moved R)) b.arguments? b'.arguments? := by
    rw [arguments?, arguments?, h.slots]
    exact rel_mapM h.arguments
  rw [hfound] at hall
  have hready' : b'.checkReady returnType = .ok () := by
    rw [checkReady, h.prepared, h.slots]
    exact hready
  cases hfound' : b'.arguments? with
  | none =>
    rw [hfound'] at hall
    cases hall
  | some args' =>
    rw [hfound'] at hall
    cases hall with
    | some hsame =>
      exact ⟨args', takeArguments_of_start hready' (h.slots.symm ▸ hstart) hfound', hsame⟩

/-- A use that is accepted by one of two builders that are the same is accepted by the other, and
leaves them the same. -/
theorem Moved.op (h : Moved R b b') (hseated : b.Seated) (hu : BuilderUse.Moved R u u')
    (hop : u.op b = .done () b₁) : ∃ b₁', u'.op b' = .done () b₁' ∧ Moved R b₁ b₁' := by
  cases hu with
  | prepare signature =>
    have habi : b'.abi = b.abi := congrArg RegisterCursor.abi h.registers
    refine ⟨b₁, prepare_congr habi hop, .refl ?_⟩
    cases accepted_of_done hop with
    | prepared _ => rfl
    | pushed hpush => cases hpush
  | pushBytes data => exact h.pushBytes_same hseated hop
  | pushInt n => exact h.pushBytes_same hseated hop
  | pushArg heap value hplaced => exact h.pushArg hseated hplaced hop
  | align n => exact h.align hop
  | @execute returnType entry entry' hentry =>
    cases accepted_of_done hop with
    | pushed hpush => cases hpush
    | executed hargs =>
      obtain ⟨args', hargs', hsame⟩ := h.takeArguments hargs
      exact ⟨_, op_execute_of_done hargs' entry', { h with output := hentry _ _ hsame }⟩

/-- Uses that are accepted by one of two builders that are the same leave them the same. -/
theorem Moved.run {uses uses' : List BuilderUse} (h : Moved R b b') (hseated : b.Seated)
    (hmoved : List.Forall₂ (BuilderUse.Moved R) uses uses') (haccepts : b.AcceptsAll uses) :
    b'.AcceptsAll uses' ∧ Moved R (b.run uses) (b'.run uses') := by
  induction hmoved generalizing b b' with
  | nil => exact ⟨trivial, h⟩
  | cons hu _ ih =>
    obtain ⟨next, hop, hrest⟩ := haccepts
    obtain ⟨next', hop', hnext⟩ := h.op hseated hu hop
    obtain ⟨haccepts', hrun⟩ := ih hnext (after_of_done hop ▸ hseated.after _) hrest
    rw [CallBuilder.run, CallBuilder.run, after_of_done hop, after_of_done hop']
    exact ⟨⟨next', hop', haccepts'⟩, hrun⟩

/-- A use that is refused leaves a builder as it was, but for a copy that was made for it, and one
that stops the program leaves it altogether. Nothing survives a preparation: its result is the same
whatever was done before it. So a builder only keeps the call that was prepared last and what was
accepted for it. A new builder for the same target that is given just that refuses none of it and is
the same builder in the end: buffer, cursor, slots, registers, last result and prepared call, while
it keeps no other copies. If it finds the copies of strings placed elsewhere, it is the same up to the
addresses of the copies. -/
theorem replays_last_call (abi : Abi) (uses : List BuilderUse) :
    (∀ (b : CallBuilder) (u : BuilderUse),
      (∀ error b', u.op b = .failed error b' →
        ∃ made, u.Copies made ∧ b' = { b with copies := made ++ b.copies }) ∧
      ∀ stop b', u.op b = .fatal stop b' → b' = b) ∧
    (∀ earlier signature b', prepare signature ((create abi).run uses) = .done () b' →
      prepare signature ((create abi).run earlier) = .done () b') ∧
    (create abi).AcceptsAll ((create abi).kept uses) ∧
    Alike ((create abi).run ((create abi).kept uses)) ((create abi).run uses) ∧
    ∀ (R : UInt64 → UInt64 → Prop) (uses' : List BuilderUse),
      List.Forall₂ (BuilderUse.Moved R) ((create abi).kept uses) uses' →
        (create abi).AcceptsAll uses' ∧
        Moved R ((create abi).run ((create abi).kept uses)) ((create abi).run uses') := by
  obtain ⟨haccepts, halike⟩ := run_kept abi uses
  refine ⟨fun b u => ?_, fun earlier signature b' hprepare => ?_, haccepts, halike,
    fun R uses' hmoved => Moved.run (.refl rfl) (create_seated abi) hmoved haccepts⟩
  · have hends := b.op_ends u
    refine ⟨fun error b' hfailed => ?_, fun stop b' hfatal => ?_⟩
    · rw [hfailed] at hends
      cases hends with
      | refused _ hcopies => exact ⟨_, hcopies, rfl⟩
    · rw [hfatal] at hends
      cases hends with
      | stopped _ => rfl
  · exact prepare_congr ((abi_run _ _).trans (abi_run _ _).symm) hprepare

/-- A heap with the string "hi" on it. -/
def greeting : Heap := { objects := #[⟨.string, [104, 105]⟩], allocated := 2 }

/-- The string is copied for a parameter of strings. -/
theorem passed_greeting : Marshal.passed greeting .cstring (.object 0) = .ok (.copy [104, 105]) :=
  Marshal.passed_eq_ok.mpr (.string (by cbv))

/-- A call that takes a string and returns one. -/
def stringCall : Signature := { params := [.cstring], ret := .cstring }

/-- A call that takes a character and a string. -/
def markedCall : Signature := { params := [.char, .cstring], ret := .void }

/-- Native code that returns its first argument. -/
def echo (args : List Scalar) : Scalar := args.headD .void

/-- The string is passed and returned, with the copy of it placed at `address`. -/
def echoed (address : Nat) : List BuilderUse :=
  [.prepare stringCall, .pushArg greeting address (.object 0), .execute .cstring echo]

/-- Nothing is called, and a call is given up because its string does not fit the image any more,
though it was copied. -/
def spoiled : List BuilderUse :=
  [.execute .void echo, .prepare markedCall, .pushBytes [7], .align 256,
    .pushArg greeting 4096 (.object 0)]

/-- Then the string is passed and returned, with an argument too many in between. -/
def history : List BuilderUse :=
  spoiled ++ [.prepare stringCall, .pushArg greeting 4096 (.object 0), .pushInt 3,
    .execute .cstring echo]

/-- The copy is placed at one address or the other. -/
def Relocated (a a' : UInt64) : Prop := a = 4096 ∧ a' = 8192

/-- The builder for the call that is given up, with the cursor at the end of the buffer. -/
def marked : CallBuilder := (create .host).run [.prepare markedCall, .pushBytes [7], .align 256]

/-- The string does not fit, but its copy is kept. -/
theorem marked_op : (BuilderUse.pushArg greeting 4096 (.object 0)).op marked =
    .failed (.bufferOverflow 264 256) (marked.keeping [⟨4096, [104, 105]⟩]) := by
  have hnext : marked.Next ⟨markedCall, [.char, .cstring]⟩ .cstring := ⟨rfl, rfl⟩
  exact pushArg_of_passed hnext rfl passed_greeting

/-- The builder for the call of the string, with the copy placed at an address. -/
def calling (address : Nat) : CallBuilder := (fresh .host stringCall).keeping [⟨address, [104, 105]⟩]

/-- The address of the copy is the first argument. -/
theorem calling_room (address : Nat) :
    (calling address).Room .cstring (passedBytes .cstring .cstring (.pointer (.ofNat address))) :=
  ⟨length_passedBytes _ _ _, (by decide : ForeignType.cstring.endFrom 0 ≤ imageLimit)⟩

/-- The copied string is all that is left of the history of its call. -/
theorem kept_history : (create .host).kept history = echoed 4096 := by
  have hnext : (fresh .host stringCall).Next ⟨stringCall, [.cstring]⟩ .cstring := ⟨rfl, rfl⟩
  have hnext' : (calling 4096).Next ⟨stringCall, [.cstring]⟩ .cstring := ⟨rfl, rfl⟩
  obtain ⟨called, hcalled⟩ : ∃ called, called =
    (calling 4096).pushed ⟨stringCall, [.cstring]⟩ .cstring _ (calling_room 4096) := ⟨_, rfl⟩
  have hop : (BuilderUse.pushArg greeting 4096 (.object 0)).op (fresh .host stringCall) =
      .done () called := by
    rw [hcalled]
    exact (pushArg_of_passed hnext rfl passed_greeting).trans
      (pushBytes_of_room hnext' (calling_room 4096))
  have hmore : (BuilderUse.pushInt 3).op called = .failed (.arityMismatch 1 2) called := by
    rw [hcalled]
    rfl
  have hread : called.arguments? = some [.pointer 4096] := by
    have hwritten := Scalar.ofBytes?_toBytes (.pointer 4096) []
    rw [List.append_nil] at hwritten
    have hargument : called.argument? ((calling 4096).nextSlot ⟨stringCall, [.cstring]⟩ .cstring) =
        some (.pointer 4096) := by
      rw [hcalled, argument?_nextSlot]
      exact hwritten
    have hslots : called.slots = [(calling 4096).nextSlot ⟨stringCall, [.cstring]⟩ .cstring] := by
      rw [hcalled]
      rfl
    rw [arguments?, hslots, List.mapM_cons, hargument]
    rfl
  have hcall : takeArguments .cstring called = .done [.pointer 4096] called := by
    refine takeArguments_of_start ?_ ?_ hread
    · rw [hcalled]
      rfl
    · rw [hcalled]
      decide
  have hprepare : prepare stringCall (create .host) = .done () (fresh .host stringCall) := rfl
  have hlast : called.accepted [.pushInt 3, .execute .cstring echo] = [.execute .cstring echo] := by
    rw [accepted, hmore]
    exact accepted_of_accepted (op_execute_of_done hcall echo)
  rw [history, kept_append hprepare, accepted_of_accepted hop, hlast]
  rfl

/-- A string that was refused has left its copy only. The call of the string is all that is left of
its history, and with the copy placed elsewhere it is the same call. -/
theorem string_call_replayed :
    (BuilderUse.pushArg greeting 4096 (.object 0)).op marked =
      .failed (.bufferOverflow 264 256) { marked with copies := [⟨4096, [104, 105]⟩] } ∧
    (create .host).kept history = echoed 4096 ∧
    Alike ((create .host).run (echoed 4096)) ((create .host).run history) ∧
    (create .host).AcceptsAll (echoed 8192) ∧
    Moved Relocated ((create .host).run (echoed 4096)) ((create .host).run (echoed 8192)) := by
  have hecho (args args' : List Scalar) (hargs : List.Forall₂ (Scalar.Moved Relocated) args args') :
      Scalar.Moved Relocated (.ofWord .pointer (echo args).toWord)
        (.ofWord .pointer (echo args').toWord) := by
    cases hargs with
    | nil => exact .inl rfl
    | cons hfirst _ =>
      rcases hfirst with rfl | ⟨a, a', hmoved, rfl, rfl⟩
      · exact .inl rfl
      · exact .inr ⟨a, a', hmoved, Scalar.ofWord_toWord (.pointer a),
          Scalar.ofWord_toWord (.pointer a')⟩
  have hmoved : List.Forall₂ (BuilderUse.Moved Relocated) (echoed 4096) (echoed 8192) :=
    .cons (.prepare _) (.cons (.pushArg _ _ ⟨rfl, rfl⟩) (.cons (.execute _ hecho) .nil))
  obtain ⟨_, _, _, halike, hreplay⟩ := replays_last_call .host history
  rw [kept_history] at halike hreplay
  exact ⟨marked_op, kept_history, halike, hreplay Relocated (echoed 8192) hmoved⟩

end CallBuilder

end CallEngine
