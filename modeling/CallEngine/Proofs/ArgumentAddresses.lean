import CallEngine.Engine.ForeignCall
import CallEngine.Proofs.CallImage
import CallEngine.Proofs.SlotContents

/-!
# Addresses of arguments

Native code is given the address of every argument in the buffer of a call. A push makes sure that
an argument ends within the buffer, so an argument that takes bytes also starts there. An argument
of type `:void` takes none, and at the end of a full buffer it has no address: asking for it stops
the program. Here it is shown that no call stops in any other way. Signatures that are declared have
no such parameters, and what the engine marshals is never `:void`, so these calls do not stop. A
document may give a signature of any parameters, and it is shown for which of them there are pushes
after which the call stops.
-/

namespace CallEngine

/-! ## Signatures and their parameters -/

/-- Only `:void` takes no bytes. -/
theorem ForeignType.size_eq_zero {ty : ForeignType} : ty.size = 0 ↔ ty = .void := by
  cases ty <;> decide

/-- Promotion makes no other type `:void`. -/
theorem ForeignType.promoted_eq_void {ty : ForeignType} : ty.promoted = .void ↔ ty = .void := by
  cases ty <;> decide

/-- An argument of type `:void` ends where it could start. -/
theorem ForeignType.endFrom_void (start : Nat) : ForeignType.void.endFrom start = start := by
  simp [endFrom, align, size, kind, ScalarKind.align, ScalarKind.size, alignUp]

namespace Signature

variable {s s' : Signature} {given : Signature → Prop} {params : List ForeignType}
  {ret ty : ForeignType}

/-- Signatures that are declared, or are given, and what is made of them by choosing a convention
and a variadic start. -/
inductive Built (given : Signature → Prop) : Signature → Prop
  | given {s : Signature} (h : given s) : Built given s
  | made {params : List ForeignType} {ret : ForeignType} {s : Signature}
    (h : make params ret = .ok s) : Built given s
  | declared {params : List String} {ret convention : String} {s : Signature}
    (h : declare params ret convention = .ok s) : Built given s
  | convention {s : Signature} (h : Built given s) (convention : CallingConvention) :
    Built given { s with convention }
  | variadic {s s' : Signature} {start : Nat} (h : Built given s)
    (hstart : s.variadic start = .ok s') : Built given s'

/-- A signature that comes from declarations only. -/
def Declared (s : Signature) : Prop := s.Built fun _ => False

/-- A signature that comes from declarations or from a document. -/
def Available (s : Signature) : Prop := s.Built fun s => ∃ text, parse? text = some s

/-- A signature is made only of parameters that are passed. -/
theorem make_ok (h : make params ret = .ok s) : ∀ ty ∈ s.params, ty ≠ .void := by
  unfold make at h
  split at h
  · cases h
  · rename_i hfound
    cases h
    intro ty hty
    simpa using List.findIdx?_eq_none_iff.mp hfound ty hty

/-- No parameter of a declared signature is `:void`. -/
theorem Declared.ne_void (h : s.Declared) : ∀ ty ∈ s.params, ty ≠ .void := by
  induction h with
  | given h => exact h.elim
  | made h => exact make_ok h
  | declared h =>
    obtain ⟨params, _, h⟩ := bind_eq_ok.mp h
    obtain ⟨ret, _, h⟩ := bind_eq_ok.mp h
    obtain ⟨made, hmade, h⟩ := bind_eq_ok.mp h
    obtain ⟨convention, _, h⟩ := bind_eq_ok.mp h
    cases h
    exact fun ty hty => make_ok hmade ty hty
  | convention _ _ ih => exact ih
  | variadic _ hstart ih =>
    unfold Signature.variadic at hstart
    split at hstart
    · cases hstart
    · cases hstart
      exact ih

/-- Every parameter is passed. -/
theorem length_effectiveParams (s : Signature) : s.effectiveParams.length = s.params.length := by
  have hpromote (start : Nat) (types : List ForeignType) :
      (s.promoteFrom start types).length = types.length := by
    induction types generalizing start with
    | nil => rfl
    | cons ty rest ih => rw [promoteFrom, List.length_cons, List.length_cons, ih]
  exact hpromote 0 s.params

/-- A parameter is passed as `:void` if it is declared so. -/
theorem effectiveParams_void_iff {index : Nat} :
    s.effectiveParams[index]? = some .void ↔ s.params[index]? = some .void := by
  constructor
  · intro h
    obtain ⟨declared, hdeclared, hty⟩ := declared_of_effective h
    split at hty
    · rw [hdeclared, ForeignType.promoted_eq_void.mp hty.symm]
    · rw [hdeclared, ← hty]
  · intro h
    rw [effectiveParams, getElem?_promoteFrom, h, Option.map_some]
    split <;> rfl

/-- The signatures whose calls can stop the program: the last parameter is `:void`, and the arguments
take bytes, but not more than the buffer has. -/
structure CanStop (s : Signature) : Prop where
  last : s.params.getLast? = some .void
  takes : 0 < s.imageSize
  fits : s.imageSize ≤ imageLimit

/-- The last argument of such a call is empty, and those before it take all of the bytes. -/
theorem CanStop.exists_types (h : s.CanStop) : ∃ types, s.effectiveParams = types ++ [.void] ∧
    0 < layoutEnd 0 types ∧ layoutEnd 0 types ≤ imageLimit := by
  have hlast : s.effectiveParams.getLast? = some .void := by
    rw [List.getLast?_eq_getElem?, s.length_effectiveParams, effectiveParams_void_iff,
      ← List.getLast?_eq_getElem?]
    exact h.last
  obtain ⟨types, htypes⟩ := List.getLast?_eq_some_iff.mp hlast
  have hsize : s.imageSize = layoutEnd 0 types := by
    rw [imageSize, htypes, layoutEnd_concat, ForeignType.endFrom_void]
  exact ⟨types, htypes, hsize ▸ h.takes, hsize ▸ h.fits⟩

end Signature

namespace CallBuilder

variable {b b' : CallBuilder} {signature : Signature} {u : BuilderUse} {uses done : List BuilderUse}
  {returnType ty : ForeignType} {slot : ArgSlot}

/-! ## Calls that stop the program -/

/-- The checks of a call are passed with its result type and all of its arguments. -/
theorem checkReady_eq_ok
    (hprepared : b.prepared = some ⟨signature, signature.effectiveParams⟩) :
    b.checkReady returnType = .ok () ↔
      returnType = signature.ret ∧ b.slots.length = signature.params.length := by
  rw [checkReady, hprepared]
  dsimp only
  rw [signature.length_effectiveParams]
  by_cases hret : returnType = signature.ret
  · by_cases hcount : b.slots.length = signature.params.length
    · simp [hret, hcount]
    · simp [hret, hcount]
  · simp [hret]

/-- The reading of the arguments stops the program if the checks are passed and an argument starts
behind the buffer. -/
theorem takeArguments_of_behind (hready : b.checkReady returnType = .ok ()) (hslot : slot ∈ b.slots)
    (hbehind : imageLimit ≤ slot.offset) :
    takeArguments returnType b = .fatal (.panic .bounds) b := by
  have hany : b.slots.any (imageLimit ≤ ·.offset) = true :=
    List.any_eq_true.mpr ⟨slot, hslot, decide_eq_true hbehind⟩
  rw [takeArguments_of_ready hready, if_pos hany]

/-! ## Arguments within the buffer -/

/-- Every argument ends within the buffer. -/
theorem Laid.end_le (h : b.Laid signature done) (hslot : slot ∈ b.slots) :
    slot.offset + slot.ty.size ≤ imageLimit := by
  rw [← h.size hslot]
  exact Nat.le_trans (h.within hslot) h.bounded

/-- An argument starts within the buffer, or it takes no bytes and is at the end of it. -/
theorem Laid.limit_le_iff (h : b.Laid signature done) (hslot : slot ∈ b.slots) :
    imageLimit ≤ slot.offset ↔ slot.ty = .void ∧ slot.offset = imageLimit := by
  have hend := h.end_le hslot
  constructor
  · intro hstart
    exact ⟨ForeignType.size_eq_zero.mp (by omega), by omega⟩
  · rintro ⟨_, hoffset⟩
    exact Nat.le_of_eq hoffset.symm

/-- An argument is read from the buffer by its type. -/
theorem Laid.exists_argument (h : b.Laid signature done) (hslot : slot ∈ b.slots) :
    ∃ native, b.argument? slot = some native ∧ native.kind = slot.ty.kind := by
  have hend := h.end_le hslot
  have hroom : slot.ty.kind.size ≤ (b.buffer.bytes.drop slot.offset).length := by
    rw [List.length_drop, b.buffer.length_bytes]
    exact Nat.le_sub_of_add_le' hend
  rw [argument?, Scalar.ofBytes?, if_pos hroom]
  exact ⟨_, rfl, rfl⟩

/-- Arguments each of which is read are all read. -/
theorem exists_arguments {slots : List ArgSlot}
    (h : ∀ slot ∈ slots, ∃ native, b.argument? slot = some native ∧ native.kind = slot.ty.kind) :
    ∃ natives, slots.mapM b.argument? = some natives ∧
      natives.map Scalar.kind = slots.map (·.ty.kind) := by
  induction slots with
  | nil => exact ⟨[], rfl, rfl⟩
  | cons slot rest ih =>
    obtain ⟨native, hnative, hkind⟩ := h slot List.mem_cons_self
    obtain ⟨natives, hrest, hkinds⟩ := ih fun later hlater => h later (List.mem_cons_of_mem _ hlater)
    refine ⟨native :: natives, ?_, ?_⟩
    · rw [List.mapM_cons, hnative, hrest]
      rfl
    · rw [List.map_cons, List.map_cons, hkind, hkinds]

/-- How a call ends, and where its arguments are. -/
structure Addressed (signature : Signature) (b : CallBuilder) : Prop where
  /-- Every argument ends within the buffer. -/
  end_le {slot : ArgSlot} (hslot : slot ∈ b.slots) : slot.offset + slot.ty.size ≤ imageLimit
  /-- The checks are passed with the right result type and all arguments. -/
  ready_iff (returnType : ForeignType) : b.checkReady returnType = .ok () ↔
    returnType = signature.ret ∧ b.slots.length = signature.params.length
  /-- Where a check is not passed, its error is the result. -/
  refused {returnType : ForeignType} {error : ForeignError}
    (hready : b.checkReady returnType = .error error) {σ ε : Type} (refuse : ForeignError → ε)
    (code : List Scalar → Op σ ε Scalar) (s : σ) :
    execute refuse returnType code (b, s) = .failed (refuse error) (b, s)
  /-- If the checks are passed and an argument that takes no bytes is at the end of the full buffer,
  the program stops, and native code is not called. -/
  stops {returnType : ForeignType} (hready : b.checkReady returnType = .ok ()) {slot : ArgSlot}
    (hslot : slot ∈ b.slots) (hempty : slot.ty = .void) (hfull : slot.offset = imageLimit)
    {σ ε : Type} (refuse : ForeignError → ε) (code : List Scalar → Op σ ε Scalar) (s : σ) :
    execute refuse returnType code (b, s) = .fatal (.panic .bounds) (b, s)
  /-- If the checks are passed and there is no such argument, all arguments start within the buffer,
  and native code is called with them. -/
  passes {returnType : ForeignType} (hready : b.checkReady returnType = .ok ())
    (hnone : ∀ slot ∈ b.slots, slot.ty = .void → slot.offset ≠ imageLimit) :
    (∀ slot ∈ b.slots, slot.offset < imageLimit) ∧
    ∃ natives, b.arguments? = some natives ∧ natives.map Scalar.kind = b.slots.map (·.ty.kind) ∧
      ∀ {σ ε : Type} (refuse : ForeignError → ε) (code : List Scalar → Op σ ε Scalar) (s : σ),
        execute refuse returnType code (b, s) = finish returnType b (code natives s)

/-- The arguments of a call that is laid out are where they should be. -/
theorem Laid.addressed (h : b.Laid signature done) : b.Addressed signature := by
  constructor
  case end_le => exact h.end_le
  case ready_iff => exact fun _ => checkReady_eq_ok h.prepared
  case refused =>
    intro returnType error hready σ ε refuse code s
    exact execute_of_failed (takeArguments_of_refused hready) s
  case stops =>
    intro returnType hready slot hslot hempty hfull σ ε refuse code s
    exact execute_of_fatal (takeArguments_of_behind hready hslot (Nat.le_of_eq hfull.symm)) s
  case passes =>
    intro returnType hready hnone
    have hstart : ∀ slot ∈ b.slots, slot.offset < imageLimit := fun slot hslot => by
      refine Nat.not_le.mp fun hbehind => ?_
      obtain ⟨hempty, hfull⟩ := (h.limit_le_iff hslot).mp hbehind
      exact hnone slot hslot hempty hfull
    obtain ⟨natives, hnatives, hkinds⟩ :=
      exists_arguments fun slot hslot => h.exists_argument hslot
    refine ⟨hstart, natives, hnatives, hkinds, fun refuse code s => ?_⟩
    exact execute_of_done (takeArguments_of_start hready hstart hnatives) s

/-! ## Pushes after which a call stops -/

/-- Pushes of arguments and moves of the cursor, none of which is refused. -/
structure Fills (b : CallBuilder) (uses : List BuilderUse) : Prop where
  accepted : b.AcceptsAll uses
  plain : ∀ u ∈ uses, u.isPush = true ∨ u.isAlign = true

/-- Pushes and moves of the cursor prepare no other call. -/
theorem Fills.keepsCall (h : b.Fills uses) : b.KeepsCall uses := by
  refine keepsCall_of_forall (fun u hu => ?_) b
  cases u with
  | prepare signature => rcases h.plain _ hu with hpush | halign <;> contradiction
  | _ => rfl

/-- Uses that are accepted are followed by others that are. -/
theorem AcceptsAll.append {more : List BuilderUse} (h : b.AcceptsAll uses)
    (hmore : (b.run uses).AcceptsAll more) : b.AcceptsAll (uses ++ more) := by
  induction uses generalizing b with
  | nil => exact hmore
  | cons u rest ih =>
    obtain ⟨next, hop, hrest⟩ := h
    rw [CallBuilder.run, after_of_done hop] at hmore
    exact ⟨next, hop, ih hrest hmore⟩

/-- The push of an argument of which all bytes are zero. -/
def blank (ty : ForeignType) : BuilderUse := .pushBytes (List.replicate ty.size 0)

/-- A blank argument has the size of its type. -/
theorem Room.ofBlank (hend : ty.endFrom b.cursor ≤ imageLimit) :
    b.Room ty (List.replicate ty.size 0) := ⟨List.length_replicate, hend⟩

/-- Arguments that fit behind those in the image can be pushed. The induction is over the arguments
that are left. -/
theorem accepts_blank {types rest : List ForeignType}
    (hprepared : b.prepared = some ⟨signature, signature.effectiveParams⟩)
    (htypes : signature.effectiveParams.drop b.slots.length = types ++ rest)
    (hend : layoutEnd b.cursor types ≤ imageLimit) :
    b.AcceptsAll (types.map blank) ∧
      (b.run (types.map blank)).prepared = some ⟨signature, signature.effectiveParams⟩ ∧
      (b.run (types.map blank)).slots.length = b.slots.length + types.length ∧
      (b.run (types.map blank)).cursor = layoutEnd b.cursor types := by
  induction types generalizing b with
  | nil => exact ⟨trivial, hprepared, rfl, rfl⟩
  | cons ty types ih =>
    have hparam : signature.effectiveParams[b.slots.length]? = some ty := by
      rw [← List.head?_drop, htypes]
      rfl
    have hnext : b.Next ⟨signature, signature.effectiveParams⟩ ty := ⟨hprepared, hparam⟩
    have hroom := Room.ofBlank (b := b) (Nat.le_trans (le_layoutEnd (ty.endFrom b.cursor) types) hend)
    have hop : (blank ty).op b =
        .done () (b.pushed ⟨signature, signature.effectiveParams⟩ ty _ hroom) :=
      pushBytes_of_room hnext hroom
    have hdrop : signature.effectiveParams.drop (b.slots.length + 1) = types ++ rest := by
      rw [← List.drop_drop, htypes]
      rfl
    obtain ⟨haccepts, hprepared', hslots, hcursor⟩ := ih
      (b := b.pushed ⟨signature, signature.effectiveParams⟩ ty _ hroom) hprepared
      (by rw [length_slots_pushed]; exact hdrop) hend
    rw [List.map_cons, CallBuilder.run, after_of_done hop]
    refine ⟨⟨_, hop, haccepts⟩, hprepared', ?_, hcursor⟩
    rw [hslots, length_slots_pushed, List.length_cons]
    omega

/-- The cursor was only moved on if an argument takes bytes. -/
def Grown (signature : Signature) (b : CallBuilder) : Prop :=
  0 < b.cursor → 0 < layoutEnd 0 (signature.effectiveParams.take b.slots.length)

/-- A use of a builder moves the cursor from the start only for an argument that takes bytes. -/
theorem Grown.after (hgrown : b.Grown signature) (h : b.Building signature)
    (hkeeps : u.isPrepare = true → ∃ error b', u.op b = .failed error b') :
    (b.after u).Grown signature := by
  rcases after_cases b u with ⟨b', hdone, haccepted, hafter⟩ | ⟨_, made, _, hafter⟩
  · have hother := isPrepare_eq_false hkeeps hdone
    rw [hafter]
    cases haccepted with
    | prepared _ => cases hother
    | @pushed _ made call ty data _ _ hnext room =>
      intro hcursor
      change 0 < ty.endFrom b.cursor at hcursor
      change 0 < layoutEnd 0 (signature.effectiveParams.take
        (b.pushed call ty data room).slots.length)
      rw [layoutEnd_pushed h hnext]
      by_cases hempty : b.cursor = 0
      · rw [hempty] at hcursor
        exact Nat.lt_of_lt_of_le hcursor (ty.endFrom_mono (Nat.zero_le _))
      · exact Nat.lt_of_lt_of_le (hgrown (Nat.pos_of_ne_zero hempty)) (ty.le_endFrom _)
    | @aligned n hpos _ =>
      intro hcursor
      change 0 < alignUp b.cursor n at hcursor
      refine hgrown (Nat.pos_of_ne_zero fun hempty => ?_)
      rw [hempty, alignUp, Nat.zero_add, Nat.div_eq_of_lt (Nat.sub_lt hpos Nat.zero_lt_one),
        Nat.zero_mul] at hcursor
      exact Nat.lt_irrefl 0 hcursor
    | executed _ => exact hgrown
  · rw [hafter]
    exact hgrown

/-- The cursor is moved on only for arguments that take bytes, whatever is done with a prepared
call. -/
theorem Grown.run (hgrown : b.Grown signature) (h : b.Building signature)
    (hkeeps : b.KeepsCall uses) : (b.run uses).Grown signature := by
  induction uses generalizing b with
  | nil => exact hgrown
  | cons u rest ih => exact ih (hgrown.after h hkeeps.1) (h.after hkeeps.1) hkeeps.2

/-- Once the buffer is full, all later arguments are empty, down to the last one. -/
theorem Laid.last_void {last : ArgSlot} {init : List ArgSlot} (h : b.Laid signature done)
    (hslots : b.slots = init ++ [last]) (hslot : slot ∈ b.slots) (hfull : slot.offset = imageLimit) :
    last.ty = .void := by
  have hlast : last ∈ b.slots := by
    rw [hslots]
    exact List.mem_append_right _ (List.mem_singleton_self last)
  have hordered := h.ordered
  rw [hslots] at hordered hslot
  have hbehind : imageLimit ≤ last.offset := by
    rcases List.mem_append.mp hslot with hbefore | hsame
    · have hle := (List.pairwise_append.mp hordered).2.2 slot hbefore last
        (List.mem_singleton_self last)
      omega
    · rw [← List.mem_singleton.mp hsame]
      exact Nat.le_of_eq hfull.symm
  exact ((h.limit_le_iff hlast).mp hbehind).1

/-- Only calls of such signatures stop the program. -/
theorem canStop_of_behind (hprepare : prepare signature b = .done () b')
    (hkeeps : b'.KeepsCall uses) (hready : (b'.run uses).checkReady returnType = .ok ())
    (hslot : slot ∈ (b'.run uses).slots) (hbehind : imageLimit ≤ slot.offset) :
    signature.CanStop := by
  obtain ⟨hbuilding, _⟩ := Building.ofPrepare hprepare
  have hlaid := (Laid.ofPrepare hprepare).run hkeeps
  have hrun := hbuilding.run hkeeps
  have hgrown : (b'.run uses).Grown signature := by
    refine Grown.run (fun hcursor => ?_) hbuilding hkeeps
    rw [prepare_done hprepare] at hcursor
    cases hcursor
  obtain ⟨_, hcount⟩ := (checkReady_eq_ok hlaid.prepared).mp hready
  obtain ⟨_, hfull⟩ := (hlaid.limit_le_iff hslot).mp hbehind
  have hall : layoutEnd 0 (signature.effectiveParams.take (b'.run uses).slots.length) =
      signature.imageSize := by
    rw [hcount, ← signature.length_effectiveParams, List.take_length]
    rfl
  refine ⟨?_, ?_, ?_⟩
  · rcases List.eq_nil_or_concat' (b'.run uses).slots with hnone | ⟨init, last, hslots⟩
    · rw [hnone] at hslot
      cases hslot
    · have hplace : (b'.run uses).slots[init.length]? = some last := by
        rw [hslots, List.getElem?_concat_length]
      have hparam : signature.effectiveParams[init.length]? = some last.ty := hlaid.param hplace
      rw [hlaid.last_void hslots hslot hfull, Signature.effectiveParams_void_iff] at hparam
      rw [List.getLast?_eq_getElem?, ← hcount, hslots, List.length_append, List.length_singleton,
        Nat.add_sub_cancel]
      exact hparam
  · have hcursor : 0 < (b'.run uses).cursor := by
      have hwithin := hlaid.within hslot
      have hpos : 0 < imageLimit := by decide
      omega
    rw [← hall]
    exact hgrown hcursor
  · rw [← hall]
    exact Nat.le_trans hrun.covers hrun.bounded

/-- The cursor can be moved to the end of the buffer as soon as it is not at the start. -/
theorem align_limit (hpos : 0 < b.cursor) (hbounded : b.cursor ≤ imageLimit) :
    (BuilderUse.align imageLimit).op b = .done () (b.aligned imageLimit) ∧
      (b.aligned imageLimit).cursor = imageLimit := by
  have hlimit : imageLimit = 256 := rfl
  have hend : alignUp b.cursor imageLimit = imageLimit := by
    have hone : (b.cursor + imageLimit - 1) / imageLimit = 1 :=
      Nat.div_eq_of_lt_le (by omega) (by omega)
    rw [alignUp, hone, Nat.one_mul]
  refine ⟨?_, hend⟩
  have hgets : (Op.gets cursor : BuilderOp Nat) b = .done b.cursor b := rfl
  change align imageLimit b = _
  rw [align, if_neg (by decide), Op.bind_of_done hgets, hend, if_neg (Nat.lt_irrefl _), aligned, hend]
  rfl

/-- If only an empty argument is missing, it can be pushed at the end of the buffer, and then the call
stops the program. -/
theorem stops_of_last_void {types : List ForeignType}
    (hprepared : b.prepared = some ⟨signature, signature.effectiveParams⟩)
    (htypes : signature.effectiveParams = types ++ [.void]) (hslots : b.slots.length = types.length)
    (hpos : 0 < b.cursor) (hbounded : b.cursor ≤ imageLimit) :
    b.AcceptsAll [.align imageLimit, blank .void] ∧
      takeArguments signature.ret (b.run [.align imageLimit, blank .void]) =
        .fatal (.panic .bounds) (b.run [.align imageLimit, blank .void]) := by
  obtain ⟨hmove, hmoved⟩ := align_limit hpos hbounded
  have hnext : (b.aligned imageLimit).Next ⟨signature, signature.effectiveParams⟩ .void := by
    refine ⟨hprepared, ?_⟩
    change signature.effectiveParams[b.slots.length]? = some .void
    rw [htypes, hslots, List.getElem?_concat_length]
  have hroom : (b.aligned imageLimit).Room .void (List.replicate ForeignType.void.size 0) := by
    refine Room.ofBlank ?_
    rw [hmoved, ForeignType.endFrom_void]
  obtain ⟨full, hfull⟩ : ∃ full, full =
    (b.aligned imageLimit).pushed ⟨signature, signature.effectiveParams⟩ .void _ hroom := ⟨_, rfl⟩
  have hpush : (blank .void).op (b.aligned imageLimit) = .done () full :=
    hfull ▸ pushBytes_of_room hnext hroom
  have hrun : b.run [.align imageLimit, blank .void] = full := by
    rw [CallBuilder.run, after_of_done hmove, CallBuilder.run, after_of_done hpush, CallBuilder.run]
  have hstill : full.prepared = some ⟨signature, signature.effectiveParams⟩ := hfull ▸ hprepared
  have hready : full.checkReady signature.ret = .ok () := by
    refine (checkReady_eq_ok hstill).mpr ⟨rfl, ?_⟩
    rw [hfull, length_slots_pushed, ← signature.length_effectiveParams, htypes, List.length_append,
      List.length_singleton]
    exact congrArg (· + 1) hslots
  have hlast : (b.aligned imageLimit).nextSlot ⟨signature, signature.effectiveParams⟩ .void ∈
      full.slots := hfull ▸ List.mem_append_right _ (List.mem_singleton_self _)
  refine ⟨⟨_, hmove, _, hpush, trivial⟩, hrun ▸ takeArguments_of_behind hready hlast ?_⟩
  change imageLimit ≤ alignUp (b.aligned imageLimit).cursor _
  rw [hmoved]
  exact le_alignUp (ForeignType.align_pos .void) _

/-- A call of such a signature stops the program if the buffer is filled up before the last
argument. -/
theorem exists_stops (hprepare : prepare signature b = .done () b') (h : signature.CanStop) :
    ∃ uses, b'.Fills uses ∧
      takeArguments signature.ret (b'.run uses) = .fatal (.panic .bounds) (b'.run uses) := by
  obtain ⟨types, htypes, htakes, hfits⟩ := h.exists_types
  obtain rfl := prepare_done hprepare
  have hleft : signature.effectiveParams.drop (fresh b.abi signature).slots.length =
      types ++ [.void] := htypes
  obtain ⟨hblank, hprepared, hslots, hcursor⟩ := accepts_blank rfl hleft hfits
  have hcount : ((fresh b.abi signature).run (types.map blank)).slots.length = types.length :=
    hslots.trans (Nat.zero_add _)
  obtain ⟨hlast, hstops⟩ :=
    stops_of_last_void hprepared htypes hcount (hcursor ▸ htakes) (hcursor ▸ hfits)
  refine ⟨types.map blank ++ [.align imageLimit, blank .void], ⟨hblank.append hlast, ?_⟩, ?_⟩
  · intro u hu
    rcases List.mem_append.mp hu with hblank | hlater
    · obtain ⟨ty, _, rfl⟩ := List.mem_map.mp hblank
      exact .inl rfl
    · rcases List.mem_pair.mp hlater with rfl | rfl
      · exact .inr rfl
      · exact .inl rfl
  · rw [run_append]
    exact hstops

/-! ## Calls that the engine marshals -/

/-- What is marshaled is never `:void`. -/
theorem Laid.pushArg (h : b.Laid signature done) (htaking : ∀ slot ∈ b.slots, slot.ty ≠ .void)
    {heap : Heap} {address : Nat} {value : Value}
    (hpush : pushArg heap address value b = .done () b') :
    (∃ done, b'.Laid signature done) ∧ ∀ slot ∈ b'.slots, slot.ty ≠ .void := by
  have hop : (BuilderUse.pushArg heap address value).op b = .done () b' := hpush
  refine ⟨⟨_, h.accepted rfl hop⟩, fun slot hslot => ?_⟩
  obtain ⟨call, ty, data, made, room, _, hty, rfl, hleaves⟩ := leaves_of_op h.prepared rfl hop
  rcases mem_slots_pushed room hslot with hold | rfl
  · exact htaking slot hold
  · intro hvoid
    obtain rfl : ty = .void := hvoid
    cases hleaves with
    | value hdeclared hpassed _ =>
      rw [Signature.effectiveParams_void_iff.mp hty, Option.some.injEq] at hdeclared
      exact Marshal.ne_void_of_passed hpassed hdeclared.symm

/-- Values that are marshaled one after the other are never `:void`. -/
theorem Laid.pushArgs (h : b.Laid signature done) (htaking : ∀ slot ∈ b.slots, slot.ty ≠ .void)
    {heap : Heap} {memory : Memory} {values : List Value}
    (hpush : pushArgs heap memory values b = .done () b') :
    (∃ done, b'.Laid signature done) ∧ ∀ slot ∈ b'.slots, slot.ty ≠ .void := by
  induction values generalizing b done with
  | nil =>
    cases hpush
    exact ⟨⟨_, h⟩, htaking⟩
  | cons value rest ih =>
    obtain ⟨address, left, haddress, hrest⟩ := Op.bind_eq_done hpush
    cases haddress
    obtain ⟨_, next, hfirst, hrest⟩ := Op.bind_eq_done hrest
    obtain ⟨⟨_, hnext⟩, htaking'⟩ := h.pushArg htaking hfirst
    exact ih hnext htaking' hrest

/-- All arguments of calls without arguments of type `:void` have an address. -/
theorem Laid.start_lt (h : b.Laid signature done) (htaking : ∀ slot ∈ b.slots, slot.ty ≠ .void)
    (hslot : slot ∈ b.slots) : slot.offset < imageLimit :=
  Nat.not_le.mp fun hbehind => htaking slot hslot ((h.limit_le_iff hslot).mp hbehind).1

/-- A call that the engine builds from hosted values has addresses for all of its arguments, whatever
its signature. -/
theorem addressed_of_buildCall {args : List Value} {e e' : Engine}
    (h : Engine.buildCall signature args e = .done b e') :
    b.Addressed signature ∧ ∀ slot ∈ b.slots, slot.offset < imageLimit := by
  unfold Engine.buildCall at h
  dsimp only at h
  cases hbuild : ((do
      CallBuilder.prepare signature
      CallBuilder.pushArgs e.heap e.memory args : BuilderOp Unit) (create .host)) with
  | failed error left =>
    rw [hbuild] at h
    cases h
  | fatal stop left =>
    rw [hbuild] at h
    cases h
  | done _ built =>
    rw [hbuild] at h
    cases h
    obtain ⟨_, prepared, hprepare, hpush⟩ := Op.bind_eq_done hbuild
    have hnone : ∀ slot ∈ prepared.slots, slot.ty ≠ .void := by
      rw [prepare_done hprepare]
      exact fun slot hslot => nomatch hslot
    obtain ⟨⟨_, hlaid⟩, htaking⟩ := (Laid.ofPrepare hprepare).pushArgs hnone hpush
    exact ⟨hlaid.addressed, fun slot hslot => hlaid.start_lt htaking hslot⟩

/-! ## All calls -/

/-- Every argument of a call ends within the buffer, and also starts there unless it is `:void` and
the buffer is full. The program stops at such an argument, and in no other case: otherwise a failed
check is reported, or native code is called with all arguments. Calls of declared signatures never
have such an argument. Of the others it is told which ones can stop the program, and that some pushes
and moves of the cursor lead to it. -/
theorem calls_stop_at_empty_arguments (hprepare : prepare signature b = .done () b') :
    (∀ uses, b'.KeepsCall uses → (b'.run uses).Addressed signature) ∧
    (signature.Declared → ∀ uses, b'.KeepsCall uses →
      ∀ slot ∈ (b'.run uses).slots, slot.ty ≠ .void ∧ slot.offset < imageLimit) ∧
    (signature.CanStop ↔ ∃ uses, b'.Fills uses ∧
      ∀ (σ ε : Type) (refuse : ForeignError → ε) (code : List Scalar → Op σ ε Scalar) (s : σ),
        execute refuse signature.ret code (b'.run uses, s) =
          .fatal (.panic .bounds) (b'.run uses, s)) := by
  have hlaid (uses : List BuilderUse) (hkeeps : b'.KeepsCall uses) :
      (b'.run uses).Laid signature (b'.pushes uses) := (Laid.ofPrepare hprepare).run hkeeps
  refine ⟨fun uses hkeeps => (hlaid uses hkeeps).addressed, fun hdeclared uses hkeeps => ?_,
    fun hstop => ?_, ?_⟩
  · have htaking : ∀ slot ∈ (b'.run uses).slots, slot.ty ≠ .void := fun slot hslot hvoid => by
      obtain ⟨i, hi⟩ := List.mem_iff_getElem?.mp hslot
      have hparam := (hlaid uses hkeeps).param hi
      rw [hvoid, Signature.effectiveParams_void_iff] at hparam
      exact hdeclared.ne_void _ (List.mem_of_getElem? hparam) rfl
    exact fun slot hslot => ⟨htaking slot hslot, (hlaid uses hkeeps).start_lt htaking hslot⟩
  · obtain ⟨uses, hfills, hstops⟩ := exists_stops hprepare hstop
    exact ⟨uses, hfills, fun σ ε refuse code s => execute_of_fatal hstops s⟩
  · rintro ⟨uses, hfills, hstops⟩
    -- Native code that returns at once does not stop the program, so the arguments do.
    have hpanics := hstops Unit ForeignError id (fun _ => pure .void) ()
    rcases takeArguments_cases (b'.run uses) signature.ret with
      ⟨error, _, hfailed⟩ | ⟨stop, hready, _⟩ | ⟨args, _, _, _, hdone⟩
    · rw [execute_of_failed hfailed] at hpanics
      cases hpanics
    · have haddressed := (hlaid uses hfills.keepsCall).addressed
      by_contra hnever
      have hnone : ∀ slot ∈ (b'.run uses).slots, slot.ty = .void → slot.offset ≠ imageLimit :=
        fun slot hslot _ hfull => hnever
          (canStop_of_behind hprepare hfills.keepsCall hready hslot (Nat.le_of_eq hfull.symm))
      obtain ⟨_, natives, _, _, hpasses⟩ := haddressed.passes hready hnone
      rw [hpasses] at hpanics
      cases hpanics
    · rw [execute_of_done hdone] at hpanics
      cases hpanics

/-- A signature with `:void` behind a character, as a document may give it. -/
def emptyLast : Signature := { params := [.char, .void], ret := .void }

/-- An integer and a double are pushed as they are declared. -/
def narrowUses : List BuilderUse := [.pushInt 7, .pushBytes (List.replicate 8 1)]

/-- A declared call of an integer and a double is made with both of them. A call that ends with
`:void` stops the program after some pushes. -/
theorem narrow_call_passes :
    (∃ b', prepare narrow (create .host) = .done () b' ∧ narrow.Declared ∧
      b'.KeepsCall narrowUses ∧
      ∃ natives, (b'.run narrowUses).arguments? = some natives ∧
        natives.map Scalar.kind = [.i32, .f64] ∧
        ∀ {σ ε : Type} (refuse : ForeignError → ε) (code : List Scalar → Op σ ε Scalar) (s : σ),
          execute refuse .void code (b'.run narrowUses, s) =
            finish .void (b'.run narrowUses) (code natives s)) ∧
    ∃ b', prepare emptyLast (create .host) = .done () b' ∧ emptyLast.CanStop ∧
      ∃ uses, b'.Fills uses ∧
        ∀ (σ ε : Type) (refuse : ForeignError → ε) (code : List Scalar → Op σ ε Scalar) (s : σ),
          execute refuse .void code (b'.run uses, s) = .fatal (.panic .bounds) (b'.run uses, s) := by
  constructor
  · have hprepare : prepare narrow (create .host) = .done () (fresh .host narrow) := rfl
    obtain ⟨haddressed, hdeclares, _⟩ := calls_stop_at_empty_arguments hprepare
    have hkeeps : (fresh .host narrow).KeepsCall narrowUses := keepsCall_of_forall (by decide) _
    have hdeclared : narrow.Declared :=
      .made (show Signature.make [.int, .double] .void = .ok narrow from rfl)
    have hready := ((haddressed _ hkeeps).ready_iff .void).mpr ⟨rfl, rfl⟩
    obtain ⟨_, natives, hnatives, hkinds, hpasses⟩ := (haddressed _ hkeeps).passes hready
      fun slot hslot hvoid => absurd hvoid (hdeclares hdeclared _ hkeeps slot hslot).1
    exact ⟨_, hprepare, hdeclared, hkeeps, natives, hnatives, hkinds, hpasses⟩
  · have hprepare : prepare emptyLast (create .host) = .done () (fresh .host emptyLast) := rfl
    obtain ⟨_, _, hstops⟩ := calls_stop_at_empty_arguments hprepare
    have hstop : emptyLast.CanStop := ⟨rfl, by decide, by decide⟩
    exact ⟨_, hprepare, hstop, hstops.mp hstop⟩

/-- The document of a signature with `:void` behind a character. -/
def emptyLastDocument : String :=
  "\x7b\"params\":[\":char\",\":void\"],\"ret\":\":void\",\"convention\":\"default\",\"variadic_from\":null\x7d"

/-- The character is pushed, the cursor is moved to the end of the buffer, and no bytes are pushed for
the second parameter. -/
def fillingUses : List BuilderUse := [.pushBytes [7], .align 256, .pushBytes []]

/-- A signature is read from a document, nothing is refused, and yet the second argument starts
behind the buffer and the call stops the program. -/
theorem document_call_stops : ∃ signature b', Signature.parse? emptyLastDocument = some signature ∧
    prepare signature (create .host) = .done () b' ∧ b'.Fills fillingUses ∧
    (b'.run fillingUses).checkReady .void = .ok () ∧
    (b'.run fillingUses).slots.map ArgSlot.offset = [0, imageLimit] ∧
    (∀ (σ ε : Type) (refuse : ForeignError → ε) (code : List Scalar → Op σ ε Scalar) (s : σ),
      execute refuse .void code (b'.run fillingUses, s) =
        .fatal (.panic .bounds) (b'.run fillingUses, s)) ∧
    ¬ ∀ signature : Signature, signature.Available → ∀ (abi : Abi) (b' : CallBuilder),
      prepare signature (create abi) = .done () b' → ∀ uses, b'.Fills uses → ∀ returnType,
        (b'.run uses).checkReady returnType = .ok () →
          ∀ slot ∈ (b'.run uses).slots, slot.offset < imageLimit := by
  have hparse : Signature.parse? emptyLastDocument = some emptyLast := by decide +kernel
  have hprepare : prepare emptyLast (create .host) = .done () (fresh .host emptyLast) := rfl
  have hfills : (fresh .host emptyLast).Fills fillingUses :=
    ⟨⟨_, rfl, _, (align_limit (by decide) (by decide)).1, _, rfl, trivial⟩, by decide⟩
  have hready : ((fresh .host emptyLast).run fillingUses).checkReady .void = .ok () := rfl
  have hoffsets : ((fresh .host emptyLast).run fillingUses).slots.map ArgSlot.offset =
      [0, imageLimit] := rfl
  have hbehind : ∃ slot ∈ ((fresh .host emptyLast).run fillingUses).slots,
      slot.offset = imageLimit := by
    refine List.mem_map.mp ?_
    rw [hoffsets]
    decide
  obtain ⟨slot, hslot, hoffset⟩ := hbehind
  have hlimit : imageLimit ≤ slot.offset := Nat.le_of_eq hoffset.symm
  refine ⟨emptyLast, _, hparse, hprepare, hfills, hready, hoffsets,
    fun σ ε refuse code s => execute_of_fatal (takeArguments_of_behind hready hslot hlimit) s,
    fun hclaim => ?_⟩
  have hlt := hclaim emptyLast (.given ⟨_, hparse⟩) .host _ hprepare fillingUses hfills .void
    hready slot hslot
  exact absurd hlt (Nat.not_lt.mpr hlimit)

end CallBuilder

end CallEngine
