import CallEngine.Proofs.CallImage
import CallEngine.Proofs.BuilderReplay
import CallEngine.Proofs.Crossing

/-!
# Arguments that cross into native code

The arguments of a native call are marshaled one after the other and pushed to a call image. If the
image has room for them, the scalars that native code finds in it are those the arguments were
marshaled to. If native code hands these scalars to a callback of the same signature, every argument
means what it meant before.
-/

namespace CallEngine

namespace Heap

variable {heap heap' : Heap}

/-- The text of a string is the same when the heap has grown. -/
theorem Grows.string (hgrows : heap.Grows heap') {handle : Handle} {text : String}
    (h : heap.string handle = .ok text) : heap'.string handle = .ok text := by
  obtain ⟨bytes, hread, h⟩ := bind_eq_ok.mp h
  split at h
  · rename_i found hfound
    cases h
    exact string_of_readAs (hgrows.readAs hread) hfound
  · cases h

/-- A value denotes the same integer when the heap has grown. -/
theorem Grows.asInteger (hgrows : heap.Grows heap') {value : Value} {n : Int}
    (h : value.asInteger heap = .ok (some n)) : value.asInteger heap' = .ok (some n) := by
  cases value with
  | fixnum m => exact h
  | object handle =>
    obtain ⟨tag, htag, h⟩ := bind_eq_ok.mp h
    obtain ⟨object, hobject, rfl⟩ := map_eq_ok.mp htag
    by_cases hbignum : object.tag = .bignum
    · rw [if_pos hbignum] at h
      obtain ⟨b, hload, h⟩ := bind_eq_ok.mp h
      have hload' : Bignum.load heap' handle = .ok b := by
        obtain ⟨bytes, hread, hbytes⟩ := bind_eq_ok.mp hload
        rw [Bignum.load, hgrows.readAs hread]
        exact hbytes
      rw [Value.asInteger_object (hgrows.object hobject) hbignum hload']
      exact h
    · rw [if_neg hbignum] at h
      cases h
  | _ => cases h

end Heap

namespace Marshal

variable {heap heap' : Heap} {memory memory' : Memory} {ty : ForeignType} {value value' : Value}
  {p : Passed} {types : List ForeignType} {values : List Value} {natives : List Scalar}

/-- Values that mean the same still do when the heap of the second has grown. -/
theorem Same.grows {grown : Heap} (h : Same heap heap' ty value value') (hgrows : heap'.Grows grown) :
    Same heap grown ty value value' := by
  cases h with
  | same hobject =>
    exact .same fun handle object hvalue hfound => hgrows.object (hobject handle object hvalue hfound)
  | integer hty h h' => exact .integer hty h (hgrows.asInteger h')
  | string h h' => exact .string h (hgrows.string h')
  | null => exact .null

/-! ## Values that are passed one after the other -/

/-- The scalars that values are passed as, and native memory once all of them were placed. -/
inductive Passes (heap : Heap) : Memory → List ForeignType → List Value → List Scalar → Memory → Prop
  | nil {memory : Memory} : Passes heap memory [] [] [] memory
  | cons {memory memory' : Memory} {ty : ForeignType} {types : List ForeignType} {value : Value}
    {values : List Value} {p : Passed} {natives : List Scalar}
    (hp : passed heap ty value = .ok p)
    (hrest : Passes heap (place memory p).2 types values natives memory') :
    Passes heap memory (ty :: types) (value :: values) ((place memory p).1 :: natives) memory'

/-- How many bytes of native memory the copy of a value takes. -/
def copied (heap : Heap) (ty : ForeignType) (value : Value) : Nat :=
  match passed heap ty value with
  | .ok (.copy bytes) => bytes.length + 1
  | _ => 0

/-- How many bytes of native memory the copies of values take. -/
def copiedAll (heap : Heap) (types : List ForeignType) (values : List Value) : Nat :=
  (List.zipWith (copied heap) types values).sum

/-- What is placed takes as many bytes as its copy. -/
theorem nextAddress_place (hp : passed heap ty value = .ok p) (memory : Memory) :
    (place memory p).2.nextAddress = memory.nextAddress + copied heap ty value := by
  rw [copied, hp]
  cases p with
  | scalar s => rfl
  | copy bytes => rfl

/-- Placing what is passed leaves the strings there are. -/
theorem place_grows (memory : Memory) (p : Passed) : memory.Grows (place memory p).2 := by
  cases p with
  | scalar s => exact .refl memory
  | copy bytes => exact memory.place_grows bytes

/-- Values that may be passed are. -/
theorem passes_of_accepts (h : List.Forall₂ (Accepts heap) types values) (memory : Memory) :
    ∃ natives memory', Passes heap memory types values natives memory' := by
  induction h generalizing memory with
  | nil => exact ⟨[], memory, .nil⟩
  | @cons ty value types values haccepts _ ih =>
    obtain ⟨p, hp⟩ := haccepts.passed
    obtain ⟨natives, memory', hrest⟩ := ih (place memory p).2
    exact ⟨_, memory', .cons hp hrest⟩

namespace Passes

/-- Passing values leaves the strings there are. -/
theorem grows (h : Passes heap memory types values natives memory') : memory.Grows memory' := by
  induction h with
  | nil => exact .refl _
  | cons hp _ ih => exact (place_grows _ _).trans ih

/-- Passing values takes as many bytes as their copies. -/
theorem nextAddress (h : Passes heap memory types values natives memory') :
    memory'.nextAddress = memory.nextAddress + copiedAll heap types values := by
  induction h with
  | nil => rfl
  | cons hp _ ih =>
    rw [ih, nextAddress_place hp]
    simp only [copiedAll, List.zipWith_cons_cons, List.sum_cons]
    omega

/-- There is one scalar for each type. -/
theorem length_natives (h : Passes heap memory types values natives memory') :
    natives.length = types.length := by
  induction h with
  | nil => rfl
  | cons _ _ ih => rw [List.length_cons, List.length_cons, ih]

end Passes

end Marshal

/-! ## Arguments in the image -/

namespace Signature

/-- Without variadic arguments, parameters are passed as they are declared. -/
theorem effectiveParams_eq {s : Signature} (h : s.variadicFrom = none) :
    s.effectiveParams = s.params := by
  refine List.ext_getElem? fun index => ?_
  rw [effectiveParams, getElem?_promoteFrom]
  simp [isVariadic, h]

end Signature

namespace CallBuilder

variable {b b' : CallBuilder} {signature : Signature} {heap : Heap} {memory memory' : Memory}
  {ty : ForeignType} {types : List ForeignType} {value : Value} {values : List Value} {p : Passed}
  {natives : List Scalar}

/-- The arguments that were pushed so far are found in the image, which holds nothing else. -/
structure Filled (signature : Signature) (natives : List Scalar) (b : CallBuilder) : Prop where
  building : b.Building signature
  tight : b.Tight signature
  seated : b.Seated
  starts : ∀ slot ∈ b.slots, slot.offset < imageLimit
  reads : List.Forall₂ (fun slot native => b.argument? slot = some native) b.slots natives

/-- A call that was just prepared has no arguments. -/
theorem Filled.ofPrepare (h : prepare signature (create .host) = .done () b) :
    b.Filled signature [] := by
  obtain ⟨hbuilding, htight⟩ := Building.ofPrepare h
  have hseated : b.Seated := by
    have hop : (BuilderUse.prepare signature).op (create .host) = .done () b := h
    rw [← after_of_done hop]
    exact (create_seated .host).after _
  obtain rfl := prepare_done h
  exact ⟨hbuilding, htight, hseated, fun slot hslot => (nomatch hslot), .nil⟩

/-- The next argument of a call without variadic arguments is passed as it is declared. -/
theorem Filled.next (h : b.Filled signature natives) (hplain : signature.variadicFrom = none)
    (hty : signature.params[natives.length]? = some ty) :
    b.Next ⟨signature, signature.effectiveParams⟩ ty ∧
      signature.params[b.slots.length]? = some ty := by
  rw [← h.reads.length_eq] at hty
  exact ⟨⟨h.building.prepared, (Signature.effectiveParams_eq hplain).symm ▸ hty⟩, hty⟩

/-- The bytes that are pushed next are found in the image, behind the arguments that were pushed
before. -/
theorem Filled.pushed (h : b.Filled signature natives)
    (hnext : b.Next ⟨signature, signature.effectiveParams⟩ ty) (hvoid : ty ≠ .void)
    {data : List UInt8} (room : b.Room ty data) {native : Scalar}
    (hread : Scalar.ofBytes? ty.kind data = some native) :
    (b.pushed ⟨signature, signature.effectiveParams⟩ ty data room).Filled signature
      (natives ++ [native]) := by
  have hdone : (BuilderUse.pushBytes data).op b =
      .done () (b.pushed ⟨signature, signature.effectiveParams⟩ ty data room) :=
    pushBytes_of_room hnext room
  have hkeeps (hprepare : (BuilderUse.pushBytes data).isPrepare = true) :
      ∃ error left, (BuilderUse.pushBytes data).op b = .failed error left := by
    cases hprepare
  have hbuilding := h.building.after hkeeps
  have htight := h.tight.after h.building hkeeps rfl
  have hseated := h.seated.after (.pushBytes data)
  rw [after_of_done hdone] at hbuilding htight hseated
  refine ⟨hbuilding, htight, hseated, fun slot hslot => ?_, ?_⟩
  · rcases List.mem_append.mp hslot with hold | hnew
    · exact h.starts slot hold
    · have hsize : 0 < ty.size := by
        cases ty with
        | void => exact absurd rfl hvoid
        | _ => decide
      have hends : alignUp b.cursor ty.align + ty.size ≤ imageLimit := room.ends
      rw [List.mem_singleton.mp hnew]
      change alignUp b.cursor ty.align < imageLimit
      omega
  · -- The arguments pushed before are not touched, and the new one is read back from its bytes.
    have hkept (slot : ArgSlot) (hslot : slot ∈ b.slots) :=
      h.seated.argument?_pushed ⟨signature, signature.effectiveParams⟩ room hslot
    have hbefore := ((List.forall₂_and_left _ _).mpr ⟨hkept, h.reads⟩).imp
      fun _ _ hsame => hsame.1.trans hsame.2
    exact List.rel_append hbefore (.cons ((argument?_nextSlot _ room).trans hread) .nil)

/-- Copies that are kept do not change the arguments. -/
theorem Filled.keeping (h : b.Filled signature natives) (made : List NativeString) :
    (b.keeping made).Filled signature natives :=
  ⟨{ h.building with }, h.tight, ⟨h.seated.params, h.seated.slots⟩, h.starts, h.reads⟩

/-- A value that may be passed is pushed if the image has room for all arguments, and the copy that
was made for it is kept. -/
theorem Filled.pushArg (h : b.Filled signature natives) (hplain : signature.variadicFrom = none)
    (hfits : signature.imageSize ≤ imageLimit) (hty : signature.params[natives.length]? = some ty)
    (hp : Marshal.passed heap ty value = .ok p) (address : Nat) :
    ∃ b', pushArg heap address value b = .done () b' ∧ b'.copies = p.copies address ++ b.copies ∧
      b'.Filled signature (natives ++ [p.native address]) := by
  obtain ⟨hnext, hdeclared⟩ := h.next hplain hty
  have hkeeping := h.keeping (p.copies address)
  have hnext' : (b.keeping (p.copies address)).Next ⟨signature, signature.effectiveParams⟩ ty :=
    ⟨hnext.prepared, hnext.param⟩
  have hend : ty.endFrom b.cursor ≤ imageLimit := by
    rw [h.tight, ← layoutEnd_take_succ (h.building.param hnext) 0]
    exact Nat.le_trans (layoutEnd_take_le 0 _ _) hfits
  have hroom : (b.keeping (p.copies address)).Room ty (passedBytes ty ty (p.native address)) :=
    ⟨length_passedBytes ty ty _, hend⟩
  have hread : Scalar.ofBytes? ty.kind (passedBytes ty ty (p.native address)) =
      some (p.native address) := by
    have hbytes := Scalar.ofBytes?_toBytes (p.native address) []
    rw [List.append_nil, Marshal.kind_native hp address] at hbytes
    rw [passedBytes, if_pos rfl]
    exact hbytes
  refine ⟨_, (pushArg_of_passed hnext hdeclared hp).trans (pushBytes_of_room hnext' hroom), rfl, ?_⟩
  exact hkeeping.pushed hnext' (Marshal.ne_void_of_passed hp) hroom hread

/-- Values that may be passed are pushed if the image has room for all arguments, and their copies
are kept behind the strings that are in native memory. The induction is over the values that are
left. -/
theorem Filled.pushArgs (h : b.Filled signature natives) (hplain : signature.variadicFrom = none)
    (hfits : signature.imageSize ≤ imageLimit) {more : List Scalar}
    (hpasses : Marshal.Passes heap (b.memoryIn memory) types values more memory')
    (htypes : signature.params.drop natives.length = types) :
    ∃ b', pushArgs heap memory values b = .done () b' ∧ b'.memoryIn memory = memory' ∧
      b'.Filled signature (natives ++ more) := by
  generalize hmemory : b.memoryIn memory = now at hpasses
  induction hpasses generalizing b natives with
  | nil => exact ⟨b, rfl, hmemory, by rwa [List.append_nil]⟩
  | @cons now memory' ty types value values p more hp _ ih =>
    have hty : signature.params[natives.length]? = some ty := by
      rw [← List.head?_drop, htypes, List.head?_cons]
    obtain ⟨next, hpush, hcopies, hnext⟩ := h.pushArg hplain hfits hty hp now.nextAddress
    have hdrop : signature.params.drop (natives ++ [p.native now.nextAddress]).length = types := by
      rw [List.length_append, ← List.drop_drop, htypes]
      rfl
    have hplaced : next.memoryIn memory = (Marshal.place now p).2 := by
      rw [Marshal.place_eq, ← hmemory, memoryIn, hcopies, List.append_assoc, ← hmemory]
      rfl
    obtain ⟨b', hrest, hleft, hfilled⟩ := ih hnext hdrop hplaced
    rw [List.append_assoc, List.singleton_append] at hfilled
    have haddress : (Op.gets fun b => (b.memoryIn memory).nextAddress : BuilderOp Nat) b =
        .done now.nextAddress b := by
      rw [← hmemory]
      rfl
    refine ⟨b', ?_, hleft, (Marshal.place_eq now p) ▸ hfilled⟩
    rw [CallBuilder.pushArgs, Op.bind_of_done haddress, Op.bind_of_done hpush]
    exact hrest

/-- The arguments of a call are those that were pushed. -/
theorem Filled.arguments? (h : b.Filled signature natives) : b.arguments? = some natives := by
  have hread {slots : List ArgSlot} {natives : List Scalar}
      (h : List.Forall₂ (fun slot native => b.argument? slot = some native) slots natives) :
      slots.mapM b.argument? = some natives := by
    induction h with
    | nil => rfl
    | cons hfirst _ ih =>
      rw [List.mapM_cons, hfirst, ih]
      rfl
  exact hread h.reads

/-- A call with all of its arguments is ready, and native code is given what was pushed. -/
theorem Filled.takeArguments (h : b.Filled signature natives)
    (hplain : signature.variadicFrom = none) (hall : natives.length = signature.params.length) :
    takeArguments signature.ret b = .done natives b := by
  have hready : b.checkReady signature.ret = .ok () := by
    have hslots : b.slots.length = signature.effectiveParams.length := by
      rw [h.reads.length_eq, Signature.effectiveParams_eq hplain, hall]
    simp [checkReady, h.building.prepared, hslots]
  exact takeArguments_of_start hready h.starts h.arguments?

end CallBuilder

end CallEngine
