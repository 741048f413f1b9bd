import CallEngine.Foreign.CallBuilder
import CallEngine.Proofs.Marshaling
import CallEngine.Proofs.Outcome

/-!
# Uses of a call builder

A builder is used by preparing calls, pushing arguments, moving the cursor and making calls. Here it
is said once what a use can do to a builder, however it ends: what an accepted use changes, and that
a use that is refused or stops the program changes nothing, except that a copy made for a string is
kept.

The buffer of a builder has always as many bytes. What was accumulated are the bytes before the
cursor. All bytes behind the cursor are zero, so the accumulated bytes only grow: a push adds zeros
up to the alignment and the argument, and moving the cursor adds zeros.
-/

namespace CallEngine

/-! ## Offsets -/

/-- Rounding up does not go back. -/
theorem le_alignUp {align : Nat} (halign : 0 < align) (offset : Nat) :
    offset ≤ alignUp offset align := by
  have hquotient := Nat.div_add_mod (offset + align - 1) align
  have hremainder := Nat.mod_lt (offset + align - 1) halign
  rw [alignUp, Nat.mul_comm]
  omega

/-- Rounding up keeps the order of offsets. -/
theorem alignUp_mono {offset offset' : Nat} (h : offset ≤ offset') (align : Nat) :
    alignUp offset align ≤ alignUp offset' align :=
  Nat.mul_le_mul_right align (Nat.div_le_div_right (by omega))

/-- Every type has an alignment. -/
theorem ForeignType.align_pos (ty : ForeignType) : 0 < ty.align :=
  Nat.lt_of_lt_of_le Nat.zero_lt_one (Nat.le_max_right _ _)

/-- Where an argument of a type ends that is pushed next behind `start`. -/
def ForeignType.endFrom (ty : ForeignType) (start : Nat) : Nat := alignUp start ty.align + ty.size

/-- An argument ends behind the place where it was pushed. -/
theorem ForeignType.le_endFrom (ty : ForeignType) (start : Nat) : start ≤ ty.endFrom start :=
  Nat.le_trans (le_alignUp ty.align_pos start) (Nat.le_add_right _ _)

/-- An argument that is pushed later ends later. -/
theorem ForeignType.endFrom_mono (ty : ForeignType) {start start' : Nat} (h : start ≤ start') :
    ty.endFrom start ≤ ty.endFrom start' :=
  Nat.add_le_add_right (alignUp_mono h ty.align) ty.size

/-! ## Writes to the buffer -/

namespace CallBuffer

variable {buffer : CallBuffer} {offset : Nat} {data : List UInt8}

/-- The written bytes are laid over those of the buffer. -/
theorem bytes_write (h : offset + data.length ≤ imageLimit) :
    (buffer.write offset data h).bytes = overlay buffer.bytes offset data := rfl

/-- From the place of a write on, the written bytes are found, and then what was there before. -/
theorem drop_write (h : offset + data.length ≤ imageLimit) :
    (buffer.write offset data h).bytes.drop offset =
      data ++ buffer.bytes.drop (offset + data.length) := by
  have hlength : (buffer.bytes.take offset).length = offset := by
    rw [List.length_take, buffer.length_bytes]
    omega
  rw [bytes_write, overlay, List.append_assoc, List.drop_left' hlength]

/-- The bytes of a buffer after a write are the written ones, and all others are what they were. -/
theorem getElem?_write (h : offset + data.length ≤ imageLimit) (i : Nat) :
    (buffer.write offset data h).bytes[i]? =
      if offset ≤ i ∧ i < offset + data.length then data[i - offset]? else buffer.bytes[i]? := by
  have hlength : (buffer.bytes.take offset).length = offset := by
    rw [List.length_take, buffer.length_bytes]
    omega
  rw [bytes_write, overlay, List.append_assoc]
  by_cases hbefore : i < offset
  · rw [if_neg (by omega), List.getElem?_append_left (by omega), List.getElem?_take_of_lt hbefore]
  · rw [List.getElem?_append_right (by omega), hlength]
    by_cases hin : i < offset + data.length
    · rw [if_pos (by omega), List.getElem?_append_left (by omega)]
    · have hat : offset + data.length + (i - offset - data.length) = i := by omega
      rw [if_neg (by omega), List.getElem?_append_right (by omega), List.getElem?_drop, hat]

/-- What was written is found where it was written. -/
theorem slice_write (buffer : CallBuffer) (h : offset + data.length ≤ imageLimit) :
    ((buffer.write offset data h).bytes.drop offset).take data.length = data := by
  rw [drop_write, List.take_left]

/-- A slice that a write does not touch stays. -/
theorem slice_write_apart (h : offset + data.length ≤ imageLimit) {start size : Nat}
    (hapart : start + size ≤ offset) :
    ((buffer.write offset data h).bytes.drop start).take size =
      (buffer.bytes.drop start).take size := by
  refine List.ext_getElem? fun i => ?_
  by_cases hi : i < size
  · rw [List.getElem?_take_of_lt hi, List.getElem?_take_of_lt hi, List.getElem?_drop,
      List.getElem?_drop, getElem?_write, if_neg (by omega)]
  · rw [List.getElem?_take_eq_none (by omega), List.getElem?_take_eq_none (by omega)]

/-- Every byte of a buffer of zeros is zero. -/
theorem getElem?_zeros {i : Nat} (hi : i < imageLimit) : zeros.bytes[i]? = some 0 := by
  rw [zeros, List.getElem?_replicate, if_pos hi]

end CallBuffer

/-! ## Uses -/

/-- One use of a builder. An argument is marshaled from a heap as it is at the time, and if a copy has
to be made, it is placed at an address. What native code returns is a function of its arguments. -/
inductive BuilderUse where
  | prepare (signature : Signature)
  | pushBytes (data : List UInt8)
  | pushInt (n : Int32)
  | pushArg (heap : Heap) (address : Nat) (value : Value)
  | align (n : Nat)
  | execute (returnType : ForeignType) (entry : List Scalar → Scalar)

/-- Make a call of native code that has no state of its own. -/
def CallBuilder.call (returnType : ForeignType) (entry : List Scalar → Scalar) :
    BuilderOp Scalar := fun b =>
  (execute id returnType (fun args => (pure (entry args) : Op Unit ForeignError Scalar))
    (b, ())).mapState Prod.fst

namespace BuilderUse

/-- What a use does. -/
def op : BuilderUse → BuilderOp Unit
  | prepare signature => CallBuilder.prepare signature
  | pushBytes data => CallBuilder.pushBytes data
  | pushInt n => CallBuilder.pushInt n
  | pushArg heap address value => CallBuilder.pushArg heap address value
  | align n => CallBuilder.align n
  | execute returnType entry => do
    let _ ← CallBuilder.call returnType entry

/-- Whether a call is prepared. -/
def isPrepare : BuilderUse → Bool
  | prepare _ => true
  | _ => false

/-- Whether the cursor is moved. -/
def isAlign : BuilderUse → Bool
  | align _ => true
  | _ => false

/-- Whether an argument is pushed. -/
def isPush : BuilderUse → Bool
  | pushBytes _ => true
  | pushInt _ => true
  | pushArg _ _ _ => true
  | _ => false

/-- The copies that a use may leave: that of the text that it marshals, where it was placed. -/
inductive Copies : BuilderUse → List NativeString → Prop
  | none {u : BuilderUse} : Copies u []
  | text {heap : Heap} {address : Nat} {value : Value} {declared : ForeignType} {bytes : List UInt8}
    (h : Marshal.passed heap declared value = .ok (.copy bytes)) :
    Copies (.pushArg heap address value) [⟨address, bytes⟩]

end BuilderUse

namespace CallBuilder

/-- A builder as a use leaves it, however it ends. -/
def after (b : CallBuilder) (u : BuilderUse) : CallBuilder := (u.op b).state

/-- A builder after uses of it, the first of them first. -/
def run (b : CallBuilder) : List BuilderUse → CallBuilder
  | [] => b
  | u :: rest => (b.after u).run rest

/-- No other call is prepared by these uses, though it may be tried. -/
def KeepsCall (b : CallBuilder) : List BuilderUse → Prop
  | [] => True
  | u :: rest =>
    (u.isPrepare = true → ∃ error b', u.op b = .failed error b') ∧ (b.after u).KeepsCall rest

/-- Uses that are no preparations prepare no other call. -/
theorem keepsCall_of_forall {uses : List BuilderUse} (h : ∀ u ∈ uses, u.isPrepare = false)
    (b : CallBuilder) : b.KeepsCall uses := by
  induction uses generalizing b with
  | nil => trivial
  | cons u rest ih =>
    refine ⟨fun hprepare => ?_, ih (fun v hv => h v (List.mem_cons_of_mem u hv)) _⟩
    rw [h u List.mem_cons_self] at hprepare
    cases hprepare

variable {b b' : CallBuilder} {u : BuilderUse} {call : PreparedCall} {ty : ForeignType}
  {data : List UInt8} {signature : Signature} {error : ForeignError} {uses : List BuilderUse}

/-- A use that is accepted leaves the next builder. -/
theorem after_of_done (h : u.op b = .done () b') : b.after u = b' := by
  rw [after, h]
  rfl

/-- What is accepted while no other call is prepared is no preparation. -/
theorem isPrepare_eq_false (hkeeps : u.isPrepare = true → ∃ error b', u.op b = .failed error b')
    (hdone : u.op b = .done () b') : u.isPrepare = false := by
  refine Bool.eq_false_iff.mpr fun hprepare => ?_
  obtain ⟨error, left, hfailed⟩ := hkeeps hprepare
  rw [hfailed] at hdone
  cases hdone

/-- Uses one after the other leave what the later ones leave of what the earlier ones left. -/
theorem run_append (b : CallBuilder) (uses more : List BuilderUse) :
    b.run (uses ++ more) = (b.run uses).run more := by
  induction uses generalizing b with
  | nil => rfl
  | cons u rest ih => exact ih (b.after u)

/-! ## Pushes -/

/-- The next parameter of a prepared call. -/
structure Next (b : CallBuilder) (call : PreparedCall) (ty : ForeignType) : Prop where
  prepared : b.prepared = some call
  param : call.params[b.slots.length]? = some ty

/-- The next parameter is found where one is left. -/
theorem Next.eq_ok (h : b.Next call ty) : b.nextParam = .ok (call, b.slots.length, ty) := by
  simp [nextParam, h.prepared, h.param]

/-- If a next parameter is found, it is left. -/
theorem next_of_ok {index : Nat} (h : b.nextParam = .ok (call, index, ty)) :
    index = b.slots.length ∧ b.Next call ty := by
  unfold nextParam at h
  split at h
  · cases h
  · rename_i call' hprepared
    dsimp only at h
    split at h
    · rename_i ty' hparam
      cases h
      exact ⟨rfl, hprepared, hparam⟩
    · cases h

/-- There is room for the bytes of an argument of a type. -/
structure Room (b : CallBuilder) (ty : ForeignType) (data : List UInt8) : Prop where
  size : data.length = ty.size
  ends : ty.endFrom b.cursor ≤ imageLimit

/-- The bytes end within the buffer. -/
theorem Room.writable (h : b.Room ty data) :
    alignUp b.cursor ty.align + data.length ≤ imageLimit := h.size.symm ▸ h.ends

/-- The slot of the argument that is pushed next. -/
def nextSlot (b : CallBuilder) (call : PreparedCall) (ty : ForeignType) : ArgSlot where
  ty
  offset := alignUp b.cursor ty.align
  size := ty.size
  location := (b.registers.assign ty (call.signature.isVariadic b.slots.length)).1

/-- The builder once the bytes of the next argument were pushed. -/
def pushed (b : CallBuilder) (call : PreparedCall) (ty : ForeignType) (data : List UInt8)
    (room : b.Room ty data) : CallBuilder :=
  { b with
    buffer := b.buffer.write (alignUp b.cursor ty.align) data room.writable
    cursor := ty.endFrom b.cursor
    registers := (b.registers.assign ty (call.signature.isVariadic b.slots.length)).2
    slots := b.slots ++ [b.nextSlot call ty] }

/-- A push adds one slot. -/
theorem length_slots_pushed (room : b.Room ty data) :
    (b.pushed call ty data room).slots.length = b.slots.length + 1 := List.length_append

/-- The builder once copies were made. -/
def keeping (b : CallBuilder) (made : List NativeString) : CallBuilder :=
  { b with copies := made ++ b.copies }

/-- A push of bytes depends on the next parameter, the number of bytes and the room for them. -/
theorem pushBytes_of_next (h : b.Next call ty) (data : List UInt8) :
    pushBytes data b =
      if hsize : data.length = ty.size then
        if hend : ty.endFrom b.cursor ≤ imageLimit then .done () (b.pushed call ty data ⟨hsize, hend⟩)
        else .failed (.bufferOverflow (ty.endFrom b.cursor) imageLimit) b
      else .failed (.sizeMismatch b.slots.length ty.size data.length) b := by
  have hread : Op.read nextParam b = .done (call, b.slots.length, ty) b := by
    rw [Op.read, h.eq_ok]
  have hcursor : (Op.gets cursor : BuilderOp Nat) b = .done b.cursor b := rfl
  unfold pushBytes
  rw [Op.bind_of_done hread]
  dsimp only
  by_cases hsize : data.length = ty.size
  · rw [dif_pos hsize, dif_pos hsize, Op.bind_of_done hcursor]
    by_cases hend : ty.endFrom b.cursor ≤ imageLimit
    · have hroom : alignUp b.cursor ty.align + ty.size ≤ imageLimit := hend
      rw [dif_pos hend, dif_pos hroom]
      rfl
    · have hnone : ¬ alignUp b.cursor ty.align + ty.size ≤ imageLimit := hend
      rw [dif_neg hend, dif_neg hnone]
      rfl
  · rw [dif_neg hsize, dif_neg hsize]
    rfl

/-- Bytes that there is room for are pushed. -/
theorem pushBytes_of_room (h : b.Next call ty) (room : b.Room ty data) :
    pushBytes data b = .done () (b.pushed call ty data room) := by
  rw [pushBytes_of_next h, dif_pos room.size, dif_pos room.ends]

/-- Bytes are pushed for the next parameter, or refused without a trace. -/
theorem pushBytes_cases (b : CallBuilder) (data : List UInt8) :
    (∃ error, pushBytes data b = .failed error b) ∨
      ∃ call ty, b.Next call ty ∧ ∃ room, pushBytes data b = .done () (b.pushed call ty data room) := by
  cases hfound : b.nextParam with
  | error error =>
    refine .inl ⟨error, ?_⟩
    unfold pushBytes
    rw [Op.bind_apply, Op.read, hfound]
  | ok found =>
    obtain ⟨call, index, ty⟩ := found
    obtain ⟨rfl, hnext⟩ := next_of_ok hfound
    rw [pushBytes_of_next hnext]
    by_cases hsize : data.length = ty.size
    · by_cases hend : ty.endFrom b.cursor ≤ imageLimit
      · exact .inr ⟨call, ty, hnext, ⟨hsize, hend⟩, by rw [dif_pos hsize, dif_pos hend]⟩
      · exact .inl ⟨_, by rw [dif_pos hsize, dif_neg hend]⟩
    · exact .inl ⟨_, by rw [dif_neg hsize]⟩

/-- The image of every scalar covers every type. -/
theorem length_take_toBytes (s : Scalar) (ty : ForeignType) :
    (s.toBytes.take ty.size).length = ty.size := by
  have hsize : ty.size ≤ 8 := by cases ty <;> decide
  rw [List.length_take, Scalar.toBytes, Binary.length_octets, Nat.min_eq_left hsize]

/-- What is pushed for a scalar has the size of the parameter. -/
theorem length_passedBytes (declared ty : ForeignType) (native : Scalar) :
    (passedBytes declared ty native).length = ty.size :=
  length_take_toBytes _ ty

/-- What is passed for a value is kept, and its scalar is pushed. -/
theorem keep_eq (address : Nat) (p : Passed) (b : CallBuilder) :
    keep address p b = .done (p.native address) (b.keeping (p.copies address)) := by
  cases p <;> rfl

/-- A value that can be marshaled is pushed as its bytes are, once a copy was made. -/
theorem pushArg_of_passed {heap : Heap} {address : Nat} {value : Value} {declared : ForeignType}
    {p : Passed} (h : b.Next call ty)
    (hdeclared : call.signature.params[b.slots.length]? = some declared)
    (hp : Marshal.passed heap declared value = .ok p) :
    pushArg heap address value b =
      pushBytes (passedBytes declared ty (p.native address)) (b.keeping (p.copies address)) := by
  have hread : Op.read nextParam b = .done (call, b.slots.length, ty) b := by
    rw [Op.read, h.eq_ok]
  have hpassed : (Op.ofExcept ((Marshal.passed heap declared value).mapError .marshal) :
      BuilderOp Passed) b = .done p b := by
    rw [hp]
    rfl
  unfold pushArg
  rw [Op.bind_of_done hread]
  dsimp only
  rw [hdeclared]
  dsimp only
  rw [Op.bind_of_done hpassed, Op.bind_of_done (keep_eq address p b)]

/-- How a push of a value ends: it is refused or stops before anything was changed, or the value can
be marshaled, and its copy is kept whether its bytes are then pushed or refused. -/
theorem pushArg_cases (b : CallBuilder) (heap : Heap) (address : Nat) (value : Value) :
    (∃ error, pushArg heap address value b = .failed error b) ∨
    (∃ stop, pushArg heap address value b = .fatal stop b) ∨
    ∃ call ty declared p, b.Next call ty ∧
      call.signature.params[b.slots.length]? = some declared ∧
      Marshal.passed heap declared value = .ok p ∧
      pushArg heap address value b =
        pushBytes (passedBytes declared ty (p.native address)) (b.keeping (p.copies address)) := by
  cases hfound : b.nextParam with
  | error error =>
    refine .inl ⟨error, ?_⟩
    unfold pushArg
    rw [Op.bind_apply, Op.read, hfound]
  | ok found =>
    obtain ⟨call, index, ty⟩ := found
    obtain ⟨rfl, hnext⟩ := next_of_ok hfound
    have hread : Op.read nextParam b = .done (call, b.slots.length, ty) b := by
      rw [Op.read, hfound]
    cases hdeclared : call.signature.params[b.slots.length]? with
    | none =>
      refine .inr (.inl ⟨.panic .bounds, ?_⟩)
      unfold pushArg
      rw [Op.bind_of_done hread]
      dsimp only
      rw [hdeclared]
      rfl
    | some declared =>
      cases hp : Marshal.passed heap declared value with
      | error error =>
        refine .inl ⟨.marshal error, ?_⟩
        unfold pushArg
        rw [Op.bind_of_done hread]
        dsimp only
        rw [hdeclared]
        dsimp only
        rw [hp]
        rfl
      | ok p =>
        exact .inr (.inr ⟨call, ty, declared, p, hnext, hdeclared, hp,
          pushArg_of_passed hnext hdeclared hp⟩)

/-! ## Calls -/

/-- A call that is not ready is refused. -/
theorem takeArguments_of_refused {returnType : ForeignType}
    (h : b.checkReady returnType = .error error) :
    takeArguments returnType b = .failed error b := by
  rw [takeArguments, Op.bind_apply, Op.read, h]

/-- The arguments of a call that is ready are read, unless one of them has no address. -/
theorem takeArguments_of_ready {returnType : ForeignType} (h : b.checkReady returnType = .ok ()) :
    takeArguments returnType b =
      if b.slots.any (imageLimit ≤ ·.offset) then .fatal (.panic .bounds) b
      else match b.arguments? with
        | some args => .done args b
        | none => .fatal .fault b := by
  have hread : (Op.read (·.checkReady returnType) : BuilderOp Unit) b = .done () b := by
    rw [Op.read, h]
  rw [takeArguments, Op.bind_of_done hread,
    Op.bind_of_done (rfl : (Op.get : BuilderOp CallBuilder) b = .done b b)]
  split
  · rfl
  · cases b.arguments? <;> rfl

/-- The arguments are read where all of them have an address. -/
theorem takeArguments_of_start {returnType : ForeignType} {args : List Scalar}
    (h : b.checkReady returnType = .ok ()) (hstart : ∀ slot ∈ b.slots, slot.offset < imageLimit)
    (hargs : b.arguments? = some args) : takeArguments returnType b = .done args b := by
  have hnone : ¬ b.slots.any (imageLimit ≤ ·.offset) = true := by
    simpa using hstart
  rw [takeArguments_of_ready h, if_neg hnone, hargs]

/-- The checks of a call and the reading of its arguments change nothing. -/
theorem takeArguments_cases (b : CallBuilder) (returnType : ForeignType) :
    (∃ error, b.checkReady returnType = .error error ∧
      takeArguments returnType b = .failed error b) ∨
    (∃ stop, b.checkReady returnType = .ok () ∧ takeArguments returnType b = .fatal stop b) ∨
    ∃ args, b.checkReady returnType = .ok () ∧ (∀ slot ∈ b.slots, slot.offset < imageLimit) ∧
      b.arguments? = some args ∧ takeArguments returnType b = .done args b := by
  cases hready : b.checkReady returnType with
  | error error => exact .inl ⟨error, rfl, takeArguments_of_refused hready⟩
  | ok _ =>
    refine .inr ?_
    rw [takeArguments_of_ready hready]
    by_cases hbehind : b.slots.any (imageLimit ≤ ·.offset) = true
    · rw [if_pos hbehind]
      exact .inl ⟨_, rfl, rfl⟩
    · rw [if_neg hbehind]
      have hstart : ∀ slot ∈ b.slots, slot.offset < imageLimit := by simpa using hbehind
      cases hargs : b.arguments? with
      | none => exact .inl ⟨_, rfl, rfl⟩
      | some args => exact .inr ⟨args, rfl, hstart, rfl, rfl⟩

/-- The arguments are read exactly if the checks are passed, all of them have an address, and they are
within the buffer. -/
theorem takeArguments_eq_done {returnType : ForeignType} {args : List Scalar} :
    takeArguments returnType b = .done args b' ↔ b.checkReady returnType = .ok () ∧
      (∀ slot ∈ b.slots, slot.offset < imageLimit) ∧ b.arguments? = some args ∧ b' = b := by
  constructor
  · intro h
    rcases takeArguments_cases b returnType with
      ⟨error, _, hfailed⟩ | ⟨stop, _, hfatal⟩ | ⟨found, hready, hstart, hfound, hdone⟩
    · rw [hfailed] at h
      cases h
    · rw [hfatal] at h
      cases h
    · rw [hdone] at h
      cases h
      exact ⟨hready, hstart, hfound, rfl⟩
  · rintro ⟨hready, hstart, hargs, rfl⟩
    exact takeArguments_of_start hready hstart hargs

variable {σ ε : Type} {refuse : ForeignError → ε} {returnType : ForeignType}
  {code : List Scalar → Op σ ε Scalar}

/-- A call that is not ready is refused before native code runs, whatever that code could do. -/
theorem execute_of_failed (h : takeArguments returnType b = .failed error b') (s : σ) :
    execute refuse returnType code (b, s) = .failed (refuse error) (b', s) := by
  unfold execute
  rw [Op.bind_apply, Op.first, Op.mapError, h]
  rfl

/-- If there is no address of an argument, the program stops before native code runs. -/
theorem execute_of_fatal {stop : Stop} (h : takeArguments returnType b = .fatal stop b') (s : σ) :
    execute refuse returnType code (b, s) = .fatal stop (b', s) := by
  unfold execute
  rw [Op.bind_apply, Op.first, Op.mapError, h]
  rfl

/-- How a call ends once native code has ended: what that code returns is kept. -/
def finish (returnType : ForeignType) (b : CallBuilder) :
    Outcome σ ε Scalar → Outcome (CallBuilder × σ) ε Scalar
  | .done result s => .done (.ofWord returnType.kind result.toWord) (setOutput returnType result b, s)
  | .failed error s => .failed error (b, s)
  | .fatal stop s => .fatal stop (b, s)

/-- A call that is made ends as native code does, and keeps what it returns. -/
theorem execute_of_done {args : List Scalar} (h : takeArguments returnType b = .done args b')
    (s : σ) : execute refuse returnType code (b, s) = finish returnType b' (code args s) := by
  unfold execute
  rw [Op.bind_apply, Op.first, Op.mapError, h]
  change ((code args).second >>= _) (b', s) = _
  rw [Op.bind_apply, Op.second]
  cases code args s <;> rfl

/-- A call that is made is, for the state of native code, just that code. -/
theorem execute_beside_of_done {args : List Scalar} (h : takeArguments returnType b = .done args b)
    (refuse : ForeignError → ε) (code : List Scalar → Op σ ε Scalar) :
    (execute refuse returnType code).beside b = code args >>= fun result =>
      pure (.ofWord returnType.kind result.toWord, setOutput returnType result b) := by
  funext s
  rw [Op.beside, execute_of_done h, Op.bind_apply]
  cases code args s <;> rfl

/-- For the state of native code, a call is refused or stops the program before that code runs, or it
is just that code, whatever the code could do. -/
theorem execute_beside_cases (b : CallBuilder) (returnType : ForeignType) :
    (∃ error, ∀ {σ ε : Type} (refuse : ForeignError → ε) (code : List Scalar → Op σ ε Scalar),
      (execute refuse returnType code).beside b = Op.fail (refuse error)) ∨
    (∃ stop, ∀ {σ ε : Type} (refuse : ForeignError → ε) (code : List Scalar → Op σ ε Scalar),
      (execute refuse returnType code).beside b = Op.stop stop) ∨
    ∃ args, ∀ {σ ε : Type} (refuse : ForeignError → ε) (code : List Scalar → Op σ ε Scalar),
      (execute refuse returnType code).beside b = code args >>= fun result =>
        pure (.ofWord returnType.kind result.toWord, setOutput returnType result b) := by
  rcases takeArguments_cases b returnType with
    ⟨error, _, hfailed⟩ | ⟨stop, _, hfatal⟩ | ⟨args, _, _, _, hdone⟩
  · refine .inl ⟨error, fun refuse code => funext fun s => ?_⟩
    rw [Op.beside, execute_of_failed hfailed]
    rfl
  · refine .inr (.inl ⟨stop, fun refuse code => funext fun s => ?_⟩)
    rw [Op.beside, execute_of_fatal hfatal]
    rfl
  · exact .inr (.inr ⟨args, fun refuse code => execute_beside_of_done hdone refuse code⟩)

/-- A call of native code without a state keeps what that code returns for the arguments. -/
theorem op_execute_of_done {args : List Scalar} (h : takeArguments returnType b = .done args b)
    (entry : List Scalar → Scalar) :
    (BuilderUse.execute returnType entry).op b = .done () (setOutput returnType (entry args) b) := by
  change (CallBuilder.call returnType entry >>= fun _ => pure ()) b = _
  rw [Op.bind_apply, CallBuilder.call, execute_of_done h]
  rfl

/-! ## What a use does -/

/-- The builder once the cursor was moved to a multiple of `n`. -/
def aligned (b : CallBuilder) (n : Nat) : CallBuilder := { b with cursor := alignUp b.cursor n }

/-- The builder once a call was prepared. -/
def fresh (abi : Abi) (signature : Signature) : CallBuilder :=
  { create abi with prepared := some ⟨signature, signature.effectiveParams⟩ }

/-- A call that is prepared leaves nothing of the builder but its target. -/
theorem prepare_cases (b : CallBuilder) (signature : Signature) :
    (∃ error, ∀ b' : CallBuilder, b'.abi = b.abi → prepare signature b' = .failed error b') ∨
      ∀ b' : CallBuilder, b'.abi = b.abi → prepare signature b' = .done () (fresh b.abi signature) := by
  have hgets (b : CallBuilder) : (Op.gets abi : BuilderOp Abi) b = .done b.abi b := rfl
  by_cases hconvention : (signature.convention = .stdcall && !b.abi.stdcall) = true
  · refine .inl ⟨.unsupportedConvention .stdcall b.abi.name, fun b' habi => ?_⟩
    rw [← habi] at hconvention ⊢
    unfold prepare
    rw [Op.bind_of_done (hgets b'), if_pos hconvention]
    rfl
  · by_cases hvariadic : (signature.variadicFrom.isSome && b.abi.variadicOnStack &&
        0 < b.abi.intRegisters + b.abi.floatRegisters) = true
    · refine .inl ⟨.unsupportedVariadic b.abi.name, fun b' habi => ?_⟩
      rw [← habi] at hconvention hvariadic ⊢
      unfold prepare
      rw [Op.bind_of_done (hgets b'), if_neg hconvention, if_pos hvariadic]
      rfl
    · refine .inr fun b' habi => ?_
      rw [← habi] at hconvention hvariadic ⊢
      unfold prepare
      rw [Op.bind_of_done (hgets b'), if_neg hconvention, if_neg hvariadic]
      rfl

/-- A prepared call has no arguments and an empty image. -/
theorem prepare_done (h : prepare signature b = .done () b') : b' = fresh b.abi signature := by
  rcases prepare_cases b signature with ⟨error, hfailed⟩ | hdone
  · rw [hfailed b rfl] at h
    cases h
  · rw [hdone b rfl] at h
    cases h
    rfl

/-- The cursor is moved by powers of two and within the buffer only, whatever else is in it. -/
theorem align_cases (b : CallBuilder) (n : Nat) :
    (∃ error, ∀ b' : CallBuilder, b'.cursor = b.cursor → align n b' = .failed error b') ∨
      0 < n ∧ alignUp b.cursor n ≤ imageLimit ∧
        ∀ b' : CallBuilder, b'.cursor = b.cursor → align n b' = .done () (b'.aligned n) := by
  have hgets (b : CallBuilder) : (Op.gets cursor : BuilderOp Nat) b = .done b.cursor b := rfl
  by_cases hpower : isPowerOfTwo n = true
  · have hpos : 0 < n := by
      simp only [isPowerOfTwo, Bool.and_eq_true, decide_eq_true_eq] at hpower
      exact Nat.pos_of_ne_zero hpower.1
    by_cases hend : imageLimit < alignUp b.cursor n
    · refine .inl ⟨.bufferOverflow (alignUp b.cursor n) imageLimit, fun b' hcursor => ?_⟩
      rw [← hcursor] at hend ⊢
      rw [align, hpower, if_neg (by decide), Op.bind_of_done (hgets b'), if_pos hend]
      rfl
    · refine .inr ⟨hpos, Nat.not_lt.mp hend, fun b' hcursor => ?_⟩
      rw [← hcursor] at hend
      rw [align, hpower, if_neg (by decide), Op.bind_of_done (hgets b'), if_neg hend]
      rfl
  · refine .inl ⟨.invalidAlignment n, fun b' _ => ?_⟩
    rw [Bool.not_eq_true] at hpower
    rw [align, hpower]
    rfl

/-- The ways in which an accepted use changes a builder. -/
inductive Accepted (b : CallBuilder) : BuilderUse → CallBuilder → Prop
  | prepared (signature : Signature) : Accepted b (.prepare signature) (fresh b.abi signature)
  | pushed {u : BuilderUse} {made : List NativeString} {call : PreparedCall} {ty : ForeignType}
    {data : List UInt8} (hpush : u.isPush = true) (hcopies : u.Copies made) (hnext : b.Next call ty)
    (room : b.Room ty data) : Accepted b u ((b.pushed call ty data room).keeping made)
  | aligned {n : Nat} (hpos : 0 < n) (hend : alignUp b.cursor n ≤ imageLimit) :
    Accepted b (.align n) (b.aligned n)
  | executed {returnType : ForeignType} {entry : List Scalar → Scalar} {args : List Scalar}
    (hargs : takeArguments returnType b = .done args b) :
    Accepted b (.execute returnType entry) (setOutput returnType (entry args) b)

/-- How a use of a builder ends. -/
inductive Ends (b : CallBuilder) (u : BuilderUse) : Outcome CallBuilder ForeignError Unit → Prop
  | accepted {b' : CallBuilder} (h : b.Accepted u b') : Ends b u (.done () b')
  | refused {made : List NativeString} (error : ForeignError) (hcopies : u.Copies made) :
    Ends b u (.failed error (b.keeping made))
  | stopped (stop : Stop) : Ends b u (.fatal stop b)

/-- A push of bytes after a copy was made ends in one of these ways. -/
theorem ends_of_pushBytes (hpush : u.isPush = true) {made : List NativeString}
    (hcopies : u.Copies made) (data : List UInt8) : b.Ends u (pushBytes data (b.keeping made)) := by
  rcases pushBytes_cases (b.keeping made) data with ⟨error, hfailed⟩ | ⟨call, ty, hnext, room, hdone⟩
  · rw [hfailed]
    exact .refused error hcopies
  · rw [hdone]
    have hsame : b.Next call ty := ⟨hnext.prepared, hnext.param⟩
    have hroom : b.Room ty data := ⟨room.size, room.ends⟩
    exact .accepted (.pushed hpush hcopies hsame hroom)

/-- Every use of a builder ends in one of these ways. -/
theorem op_ends (b : CallBuilder) (u : BuilderUse) : b.Ends u (u.op b) := by
  cases u with
  | prepare signature =>
    change b.Ends _ (CallBuilder.prepare signature b)
    rcases prepare_cases b signature with ⟨error, hfailed⟩ | hdone
    · rw [hfailed b rfl]
      exact .refused error .none
    · rw [hdone b rfl]
      exact .accepted (.prepared signature)
  | pushBytes data => exact ends_of_pushBytes rfl .none data
  | pushInt n => exact ends_of_pushBytes rfl .none _
  | pushArg heap address value =>
    change b.Ends _ (CallBuilder.pushArg heap address value b)
    rcases pushArg_cases b heap address value with
      ⟨error, hfailed⟩ | ⟨stop, hfatal⟩ | ⟨call, ty, declared, p, _, _, hp, heq⟩
    · rw [hfailed]
      exact .refused error .none
    · rw [hfatal]
      exact .stopped stop
    · rw [heq]
      refine ends_of_pushBytes rfl ?_ _
      cases p with
      | scalar s => exact .none
      | copy bytes => exact .text hp
  | align n =>
    change b.Ends _ (CallBuilder.align n b)
    rcases align_cases b n with ⟨error, hfailed⟩ | ⟨hpos, hend, hdone⟩
    · rw [hfailed b rfl]
      exact .refused error .none
    · rw [hdone b rfl]
      exact .accepted (.aligned hpos hend)
  | execute returnType entry =>
    have hop : (BuilderUse.execute returnType entry).op b =
        (CallBuilder.call returnType entry >>= fun _ => pure ()) b := rfl
    rcases takeArguments_cases b returnType with
      ⟨error, _, hfailed⟩ | ⟨stop, _, hfatal⟩ | ⟨args, _, _, _, hdone⟩
    · rw [hop, Op.bind_apply, CallBuilder.call, execute_of_failed hfailed]
      exact .refused error .none
    · rw [hop, Op.bind_apply, CallBuilder.call, execute_of_fatal hfatal]
      exact .stopped stop
    · rw [op_execute_of_done hdone]
      exact .accepted (.executed hdone)

/-- A use is accepted in one of these ways. -/
theorem accepted_of_done (h : u.op b = .done () b') : b.Accepted u b' := by
  have hends := b.op_ends u
  rw [h] at hends
  cases hends with
  | accepted haccepted => exact haccepted

/-- What a use leaves: an accepted one the next builder, any other one the same builder, which may
keep one more copy. -/
theorem after_cases (b : CallBuilder) (u : BuilderUse) :
    (∃ b', u.op b = .done () b' ∧ b.Accepted u b' ∧ b.after u = b') ∨
      (∀ b', u.op b ≠ .done () b') ∧ ∃ made, u.Copies made ∧ b.after u = b.keeping made := by
  have hends := b.op_ends u
  unfold after
  revert hends
  generalize u.op b = ending
  intro hends
  cases hends with
  | accepted haccepted => exact .inl ⟨_, rfl, haccepted, rfl⟩
  | refused error hcopies => exact .inr ⟨fun _ h => (by cases h), _, hcopies, rfl⟩
  | stopped stop => exact .inr ⟨fun _ h => (by cases h), [], .none, rfl⟩

/-! ## The accumulated bytes -/

/-- The image filled up with zeros to `length` bytes. -/
def padTo (image : List UInt8) (length : Nat) : List UInt8 :=
  image ++ List.replicate (length - image.length) 0

/-- Nothing was written behind the cursor. -/
structure Clean (b : CallBuilder) : Prop where
  cursor_le : b.cursor ≤ imageLimit
  zero {i : Nat} (hi : b.cursor ≤ i) (hlt : i < imageLimit) : b.buffer.bytes[i]? = some 0

/-- The accumulated bytes are those before the cursor. -/
theorem Clean.length_image (h : b.Clean) : b.image.length = b.cursor := by
  rw [image, List.length_take, b.buffer.length_bytes, Nat.min_eq_left h.cursor_le]

/-- From the start of the buffer to a place behind the cursor, the accumulated bytes are found, and
then zeros. -/
theorem Clean.take_bytes (h : b.Clean) {length : Nat} (hcursor : b.cursor ≤ length)
    (hlength : length ≤ imageLimit) : b.buffer.bytes.take length = padTo b.image length := by
  refine List.ext_getElem? fun i => ?_
  rw [padTo, List.getElem?_append, h.length_image, image]
  by_cases hbefore : i < b.cursor
  · rw [if_pos hbefore, List.getElem?_take_of_lt hbefore, List.getElem?_take_of_lt (by omega)]
  · rw [if_neg hbefore, List.getElem?_replicate]
    by_cases hi : i < length
    · rw [if_pos (by omega), List.getElem?_take_of_lt hi, h.zero (by omega) (by omega)]
    · rw [if_neg (by omega), List.getElem?_take_eq_none (by omega)]

/-- A push continues the accumulated bytes with zeros up to the alignment and with the argument. -/
theorem Clean.image_pushed (h : b.Clean) (room : b.Room ty data) :
    (b.pushed call ty data room).image = padTo b.image (alignUp b.cursor ty.align) ++ data := by
  have hstart := le_alignUp ty.align_pos b.cursor
  have hends := room.writable
  have hlength : (b.buffer.bytes.take (alignUp b.cursor ty.align)).length =
      alignUp b.cursor ty.align := by
    rw [List.length_take, b.buffer.length_bytes]
    omega
  have hbefore := h.take_bytes hstart (by omega)
  have hwritten : (b.pushed call ty data room).buffer.bytes =
      b.buffer.bytes.take (alignUp b.cursor ty.align) ++ data ++
        b.buffer.bytes.drop (alignUp b.cursor ty.align + data.length) := rfl
  have hcursor : (b.pushed call ty data room).cursor =
      (b.buffer.bytes.take (alignUp b.cursor ty.align) ++ data).length := by
    rw [List.length_append, hlength, room.size]
    rfl
  rw [image, hcursor, hwritten, List.take_left, hbefore]

/-- Moving the cursor continues the accumulated bytes with zeros. -/
theorem Clean.image_aligned (h : b.Clean) {n : Nat} (hpos : 0 < n)
    (hend : alignUp b.cursor n ≤ imageLimit) :
    (b.aligned n).image = padTo b.image (alignUp b.cursor n) :=
  h.take_bytes (le_alignUp hpos _) hend

/-- Nothing was written behind the cursor of a builder for a prepared call. -/
theorem fresh_clean (abi : Abi) (signature : Signature) : (fresh abi signature).Clean :=
  ⟨Nat.zero_le _, fun _ hlt => CallBuffer.getElem?_zeros hlt⟩

/-- A use writes nothing behind the cursor it leaves. -/
theorem Clean.after (h : b.Clean) (u : BuilderUse) : (b.after u).Clean := by
  rcases after_cases b u with ⟨b', _, haccepted, hafter⟩ | ⟨_, made, _, hafter⟩
  · rw [hafter]
    cases haccepted with
    | prepared signature => exact fresh_clean _ _
    | @pushed _ made call ty data _ _ _ room =>
      refine ⟨room.ends, fun {i} hi hlt => ?_⟩
      have hbehind : alignUp b.cursor ty.align + data.length ≤ i := by
        rw [room.size]
        exact hi
      have hcursor := le_alignUp ty.align_pos b.cursor
      change (b.buffer.write (alignUp b.cursor ty.align) data room.writable).bytes[i]? = some 0
      rw [CallBuffer.getElem?_write, if_neg (by omega)]
      exact h.zero (by omega) hlt
    | aligned hpos hend =>
      exact ⟨hend, fun hi hlt => h.zero (Nat.le_trans (le_alignUp hpos _) hi) hlt⟩
    | executed _ => exact ⟨h.cursor_le, h.zero⟩
  · rw [hafter]
    exact ⟨h.cursor_le, h.zero⟩

/-- Nothing is ever written behind the cursor. -/
theorem Clean.run (h : b.Clean) (uses : List BuilderUse) : (b.run uses).Clean := by
  induction uses generalizing b with
  | nil => exact h
  | cons u rest ih => exact ih (h.after u)

/-- A use that prepares no other call continues the accumulated bytes. -/
theorem Clean.image_after (h : b.Clean)
    (hkeeps : u.isPrepare = true → ∃ error b', u.op b = .failed error b') :
    b.image <+: (b.after u).image := by
  rcases after_cases b u with ⟨b', hdone, haccepted, hafter⟩ | ⟨_, made, _, hafter⟩
  · have hother := isPrepare_eq_false hkeeps hdone
    rw [hafter]
    cases haccepted with
    | prepared signature => cases hother
    | @pushed _ made call ty data _ _ _ room =>
      change b.image <+: (b.pushed call ty data room).image
      rw [h.image_pushed room, padTo, List.append_assoc]
      exact List.prefix_append _ _
    | aligned hpos hend =>
      rw [h.image_aligned hpos hend]
      exact List.prefix_append _ _
    | executed _ => exact List.prefix_rfl
  · rw [hafter]
    exact List.prefix_rfl

/-- What was accumulated for a call stays as long as no other call is prepared, and is only
continued. -/
theorem Clean.image_run (h : b.Clean) (hkeeps : b.KeepsCall uses) :
    b.image <+: (b.run uses).image := by
  induction uses generalizing b with
  | nil => exact List.prefix_rfl
  | cons u rest ih => exact (h.image_after hkeeps.1).trans (ih (h.after u) hkeeps.2)

end CallBuilder

end CallEngine
