import CallEngine.Proofs.BuilderUses

/-!
# Call images

The arguments of a native call are laid out one after the other, each at its natural alignment, in
an image of limited size. Here it is shown that a call whose arguments do not fit is never made. The
cursor may be moved forward and pushes may be refused in between, but neither makes the arguments
end earlier, so the last of them is never pushed and control does not pass to native code. A call
whose arguments fit can be pushed to its end.
-/

namespace CallEngine

/-! ## Layouts -/

/-- Where arguments end that are laid out in order from `start` on, each at its natural
alignment. -/
def layoutEnd (start : Nat) : List ForeignType → Nat
  | [] => start
  | ty :: rest => layoutEnd (ty.endFrom start) rest

/-- A layout does not end before it starts. -/
theorem le_layoutEnd (start : Nat) (types : List ForeignType) : start ≤ layoutEnd start types := by
  induction types generalizing start with
  | nil => exact Nat.le_refl start
  | cons ty rest ih => exact Nat.le_trans (ty.le_endFrom start) (ih _)

/-- One more argument ends behind the ones before it. -/
theorem layoutEnd_concat (start : Nat) (types : List ForeignType) (ty : ForeignType) :
    layoutEnd start (types ++ [ty]) = ty.endFrom (layoutEnd start types) := by
  induction types generalizing start with
  | nil => rfl
  | cons first rest ih => exact ih _

/-- A part of a layout ends within the whole of it. -/
theorem layoutEnd_take_le (start count : Nat) (types : List ForeignType) :
    layoutEnd start (types.take count) ≤ layoutEnd start types := by
  induction types generalizing start count with
  | nil => simp
  | cons ty rest ih =>
    cases count with
    | zero => exact le_layoutEnd start (ty :: rest)
    | succ count => exact ih _ count

/-- With the next argument, a part of a layout grows by that argument. -/
theorem layoutEnd_take_succ {types : List ForeignType} {index : Nat} {ty : ForeignType}
    (hty : types[index]? = some ty) (start : Nat) :
    layoutEnd start (types.take (index + 1)) = ty.endFrom (layoutEnd start (types.take index)) := by
  rw [List.take_add_one, hty, Option.toList_some, layoutEnd_concat]

/-- The size of the arguments of a call as they are passed, each at its natural alignment. -/
def Signature.imageSize (signature : Signature) : Nat := layoutEnd 0 signature.effectiveParams

namespace CallBuilder

variable {b b' : CallBuilder} {u : BuilderUse} {call : PreparedCall} {ty : ForeignType}
  {data : List UInt8} {signature : Signature} {error : ForeignError}

/-! ## The layout of a call in progress -/

/-- A push of the right size for the next parameter: that many bytes, a 32-bit integer where the
parameter has that size, or a value that can be marshaled as the parameter is declared. -/
inductive Sized (b : CallBuilder) (call : PreparedCall) (ty : ForeignType) : BuilderUse → Prop
  | bytes {data : List UInt8} (hsize : data.length = ty.size) : Sized b call ty (.pushBytes data)
  | int (n : Int32) (hsize : ty.size = 4) : Sized b call ty (.pushInt n)
  | arg {heap : Heap} {value : Value} {declared : ForeignType} {p : Passed} (address : Nat)
    (hdeclared : call.signature.params[b.slots.length]? = some declared)
    (hpassed : Marshal.passed heap declared value = .ok p) :
    Sized b call ty (.pushArg heap address value)

/-- Only the end of the argument decides whether a push of the right size is accepted. -/
theorem op_of_sized (hnext : b.Next call ty) (hsized : b.Sized call ty u) :
    ∃ made, u.Copies made ∧
      (imageLimit < ty.endFrom b.cursor →
        u.op b = .failed (.bufferOverflow (ty.endFrom b.cursor) imageLimit) (b.keeping made)) ∧
      (ty.endFrom b.cursor ≤ imageLimit → ∃ data, ∃ room : b.Room ty data,
        u.op b = .done () ((b.pushed call ty data room).keeping made)) := by
  -- The bytes are pushed once a copy was made, which changes neither the cursor nor the slots.
  have hbytes {made : List NativeString} {data : List UInt8} (hcopies : u.Copies made)
      (hsize : data.length = ty.size) (hop : u.op b = pushBytes data (b.keeping made)) :
      ∃ made, u.Copies made ∧
        (imageLimit < ty.endFrom b.cursor →
          u.op b = .failed (.bufferOverflow (ty.endFrom b.cursor) imageLimit) (b.keeping made)) ∧
        (ty.endFrom b.cursor ≤ imageLimit → ∃ data, ∃ room : b.Room ty data,
          u.op b = .done () ((b.pushed call ty data room).keeping made)) := by
    have hnext' : (b.keeping made).Next call ty := ⟨hnext.prepared, hnext.param⟩
    refine ⟨made, hcopies, fun hover => ?_, fun hends => ⟨data, ⟨hsize, hends⟩, ?_⟩⟩
    · have hbehind : ¬ ty.endFrom (b.keeping made).cursor ≤ imageLimit := Nat.not_le.mpr hover
      rw [hop, pushBytes_of_next hnext', dif_pos hsize, dif_neg hbehind]
      rfl
    · have hroom : (b.keeping made).Room ty data := ⟨hsize, hends⟩
      rw [hop, pushBytes_of_room hnext' hroom]
      rfl
  cases hsized with
  | bytes hsize => exact hbytes .none hsize rfl
  | int n hsize =>
    have hlength : (Binary.octets 4 n.toUInt32.toNat).length = ty.size := by
      rw [Binary.length_octets, hsize]
    exact hbytes .none hlength rfl
  | @arg heap value declared p address hdeclared hpassed =>
    refine hbytes ?_ (length_passedBytes declared ty (p.native address))
      (pushArg_of_passed hnext hdeclared hpassed)
    cases p with
    | scalar s => exact .none
    | copy bytes => exact .text hpassed

/-- A call of this signature is being built: the cursor has left room for the arguments pushed so
far, and is within the buffer. -/
structure Building (signature : Signature) (b : CallBuilder) : Prop where
  prepared : b.prepared = some ⟨signature, signature.effectiveParams⟩
  count : b.slots.length ≤ signature.effectiveParams.length
  covers : layoutEnd 0 (signature.effectiveParams.take b.slots.length) ≤ b.cursor
  bounded : b.cursor ≤ imageLimit

/-- The cursor is just behind the arguments pushed so far. -/
def Tight (signature : Signature) (b : CallBuilder) : Prop :=
  b.cursor = layoutEnd 0 (signature.effectiveParams.take b.slots.length)

/-- A call that was just prepared is being built, and its image is tight. -/
theorem Building.ofPrepare (h : prepare signature b = .done () b') :
    b'.Building signature ∧ b'.Tight signature := by
  rw [prepare_done h]
  exact ⟨⟨rfl, Nat.zero_le _, Nat.le_refl 0, Nat.zero_le _⟩, rfl⟩

/-- The next parameter of a call that is being built is one of its signature. -/
theorem Building.param (h : b.Building signature) (hnext : b.Next call ty) :
    signature.effectiveParams[b.slots.length]? = some ty := by
  have hcall := h.prepared.symm.trans hnext.prepared
  rw [Option.some.injEq] at hcall
  rw [← hnext.param, ← hcall]

/-- Pushing an argument adds one to the arguments that the image covers. -/
theorem layoutEnd_pushed (h : b.Building signature) (hnext : b.Next call ty)
    (room : b.Room ty data) :
    layoutEnd 0 (signature.effectiveParams.take (b.pushed call ty data room).slots.length) =
      ty.endFrom (layoutEnd 0 (signature.effectiveParams.take b.slots.length)) := by
  rw [length_slots_pushed, layoutEnd_take_succ (h.param hnext)]

/-- A use that prepares no other call goes on with this one. Arguments that are pushed behind a
moved cursor end no earlier than in the layout. -/
theorem Building.after (h : b.Building signature)
    (hkeeps : u.isPrepare = true → ∃ error b', u.op b = .failed error b') :
    (b.after u).Building signature := by
  rcases after_cases b u with ⟨b', hdone, haccepted, hafter⟩ | ⟨_, made, _, hafter⟩
  · have hother := isPrepare_eq_false hkeeps hdone
    rw [hafter]
    cases haccepted with
    | prepared _ => cases hother
    | @pushed _ made call ty data _ _ hnext room =>
      obtain ⟨hcount, _⟩ := List.getElem?_eq_some_iff.mp (h.param hnext)
      have hcovers : layoutEnd 0 (signature.effectiveParams.take
          (b.pushed call ty data room).slots.length) ≤ ty.endFrom b.cursor := by
        rw [layoutEnd_pushed h hnext]
        exact ty.endFrom_mono h.covers
      refine ⟨h.prepared, ?_, hcovers, room.ends⟩
      change (b.pushed call ty data room).slots.length ≤ _
      rw [length_slots_pushed]
      exact hcount
    | aligned hpos hend =>
      exact ⟨h.prepared, h.count, Nat.le_trans h.covers (le_alignUp hpos _), hend⟩
    | executed _ => exact ⟨h.prepared, h.count, h.covers, h.bounded⟩
  · rw [hafter]
    exact ⟨h.prepared, h.count, h.covers, h.bounded⟩

/-- The image stays tight as long as the cursor is not moved. -/
theorem Tight.after (htight : b.Tight signature) (h : b.Building signature)
    (hkeeps : u.isPrepare = true → ∃ error b', u.op b = .failed error b')
    (halign : u.isAlign = false) : (b.after u).Tight signature := by
  rcases after_cases b u with ⟨b', hdone, haccepted, hafter⟩ | ⟨_, made, _, hafter⟩
  · have hother := isPrepare_eq_false hkeeps hdone
    rw [hafter]
    cases haccepted with
    | prepared _ => cases hother
    | @pushed _ made call ty data _ _ hnext room =>
      change ty.endFrom b.cursor = layoutEnd 0 (signature.effectiveParams.take
        (b.pushed call ty data room).slots.length)
      rw [layoutEnd_pushed h hnext, ← htight]
    | aligned _ _ => cases halign
    | executed _ => exact htight
  · rw [hafter]
    exact htight

/-- Any uses that prepare no other call go on with this one. -/
theorem Building.run {uses : List BuilderUse} (h : b.Building signature)
    (hkeeps : b.KeepsCall uses) : (b.run uses).Building signature := by
  induction uses generalizing b with
  | nil => exact h
  | cons u rest ih => exact ih (h.after hkeeps.1) hkeeps.2

/-- The image stays tight through any uses that do not move the cursor. -/
theorem Tight.run {uses : List BuilderUse} (htight : b.Tight signature)
    (h : b.Building signature) (hkeeps : b.KeepsCall uses)
    (halign : ∀ u ∈ uses, u.isAlign = false) : (b.run uses).Tight signature := by
  induction uses generalizing b with
  | nil => exact htight
  | cons u rest ih =>
    have hstep := htight.after h hkeeps.1 (halign u List.mem_cons_self)
    exact ih hstep (h.after hkeeps.1) hkeeps.2 fun v hv => halign v (List.mem_cons_of_mem u hv)

/-! ## Calls that do not fit -/

/-- A call that does not fit the image never has all its arguments. -/
theorem Building.slots_lt (h : b.Building signature) (hsize : imageLimit < signature.imageSize) :
    b.slots.length < signature.effectiveParams.length := by
  refine Nat.lt_of_le_of_ne h.count fun hall => ?_
  have hcovers := h.covers
  rw [hall, List.take_length] at hcovers
  exact absurd (Nat.le_trans hcovers h.bounded) (Nat.not_le.mpr hsize)

/-- Why a call of this signature is not made with too few arguments. -/
def refusal (signature : Signature) (returnType : ForeignType) (pushed : Nat) : ForeignError :=
  if returnType = signature.ret then .arityMismatch signature.effectiveParams.length pushed
  else .returnTypeMismatch signature.ret returnType

/-- A call without all of its arguments is refused before native code is called, whatever that code
could do, and nothing is changed. -/
theorem Building.execute_eq {σ ε : Type} (h : b.Building signature)
    (hslots : b.slots.length ≠ signature.effectiveParams.length) (returnType : ForeignType)
    (refuse : ForeignError → ε) (code : List Scalar → Op σ ε Scalar) (s : σ) :
    execute refuse returnType code (b, s) =
      .failed (refuse (refusal signature returnType b.slots.length)) (b, s) := by
  have hrefused : b.checkReady returnType =
      .error (refusal signature returnType b.slots.length) := by
    by_cases hret : returnType = signature.ret
    · simp [checkReady, refusal, h.prepared, hret, hslots]
    · simp [checkReady, refusal, h.prepared, hret]
  exact execute_of_failed (takeArguments_of_refused hrefused) s

/-- A call of a signature is made only if its arguments fit the image, at their natural alignment.
If they do not, then whatever is pushed and however the cursor is moved, every attempt to make the
call is refused before native code is called. If they do, pushes of the right size are all accepted
as long as the cursor is not moved. In every state, a push of the right size is refused exactly if
the argument would end behind the image, and the refusal names that end. -/
theorem calls_fit_image {b b' : CallBuilder} {signature : Signature}
    (hprepare : prepare signature b = .done () b') :
    (imageLimit < signature.imageSize → ∀ uses, b'.KeepsCall uses → ∀ returnType,
      ∃ pushed < signature.effectiveParams.length,
        ∀ (σ ε : Type) (refuse : ForeignError → ε) (code : List Scalar → Op σ ε Scalar) (s : σ),
          execute refuse returnType code (b'.run uses, s) =
            .failed (refuse (refusal signature returnType pushed)) (b'.run uses, s)) ∧
    (signature.imageSize ≤ imageLimit → ∀ uses, b'.KeepsCall uses →
      (∀ u ∈ uses, u.isAlign = false) → ∀ call ty u, (b'.run uses).Next call ty →
        (b'.run uses).Sized call ty u → ∃ next, u.op (b'.run uses) = .done () next) ∧
    ∀ (state : CallBuilder) call ty u, state.Next call ty → state.Sized call ty u →
      ((∃ next, u.op state = .done () next) ↔ ty.endFrom state.cursor ≤ imageLimit) ∧
      ((∃ error left, u.op state = .failed error left) ↔ imageLimit < ty.endFrom state.cursor) ∧
      (imageLimit < ty.endFrom state.cursor → ∃ left,
        u.op state = .failed (.bufferOverflow (ty.endFrom state.cursor) imageLimit) left) := by
  obtain ⟨hbuilding, htight⟩ := Building.ofPrepare hprepare
  refine ⟨fun hsize uses hkeeps returnType => ?_, fun hsize uses hkeeps halign call ty u hnext
    hsized => ?_, fun state call ty u hnext hsized => ?_⟩
  · have hrun := hbuilding.run hkeeps
    have hslots := hrun.slots_lt hsize
    exact ⟨_, hslots, fun σ ε refuse code s =>
      hrun.execute_eq (Nat.ne_of_lt hslots) returnType refuse code s⟩
  · have hrun := hbuilding.run hkeeps
    have hend := layoutEnd_take_succ (hrun.param hnext) 0
    rw [← htight.run hbuilding hkeeps halign] at hend
    have hfits : ty.endFrom (b'.run uses).cursor ≤ imageLimit := by
      rw [← hend]
      exact Nat.le_trans (layoutEnd_take_le 0 _ _) hsize
    obtain ⟨made, _, _, haccepted⟩ := op_of_sized hnext hsized
    obtain ⟨data, room, hdone⟩ := haccepted hfits
    exact ⟨_, hdone⟩
  · obtain ⟨made, _, hrefused, haccepted⟩ := op_of_sized hnext hsized
    by_cases hend : imageLimit < ty.endFrom state.cursor
    · have hfailed := hrefused hend
      refine ⟨iff_of_false ?_ (Nat.not_le.mpr hend), iff_of_true ⟨_, _, hfailed⟩ hend,
        fun _ => ⟨_, hfailed⟩⟩
      rintro ⟨next, hdone⟩
      rw [hfailed] at hdone
      cases hdone
    · obtain ⟨data, room, hdone⟩ := haccepted (Nat.not_lt.mp hend)
      refine ⟨iff_of_true ⟨_, hdone⟩ (Nat.not_lt.mp hend), iff_of_false ?_ hend,
        fun h => absurd h hend⟩
      rintro ⟨error, left, hfailed⟩
      rw [hdone] at hfailed
      cases hfailed

/-- A signature of 33 doubles, which take 264 bytes. -/
def wide : Signature := { params := List.replicate 33 .double, ret := .void }

/-- A signature of an integer and a double, which take 16 bytes. -/
def narrow : Signature := { params := [.int, .double], ret := .void }

/-- A moved cursor and forty arguments of eight bytes. -/
def tries : List BuilderUse := .align 16 :: List.replicate 40 (.pushBytes (List.replicate 8 0))

/-- The wide call is never made, though 40 arguments are tried, and the narrow one takes its second
argument. -/
theorem wide_call_refused :
    (∃ b, prepare wide (create .host) = .done () b ∧ imageLimit < wide.imageSize ∧
      ∃ pushed < 33, ∀ (σ ε : Type) (refuse : ForeignError → ε)
        (code : List Scalar → Op σ ε Scalar) (s : σ),
        execute refuse .void code (b.run tries, s) =
          .failed (refuse (.arityMismatch 33 pushed)) (b.run tries, s)) ∧
    ∃ b, prepare narrow (create .host) = .done () b ∧ narrow.imageSize ≤ imageLimit ∧
      ∃ next, (BuilderUse.pushBytes (List.replicate 8 1)).op (b.run [.pushInt 7]) =
        .done () next := by
  constructor
  · have hprepare : prepare wide (create .host) = .done () (fresh .host wide) := rfl
    obtain ⟨hrefused, _, _⟩ := calls_fit_image hprepare
    have hsize : imageLimit < wide.imageSize := by decide +kernel
    have hkeeps : ∀ u ∈ tries, u.isPrepare = false := by simp [tries, BuilderUse.isPrepare]
    exact ⟨_, hprepare, hsize, hrefused hsize _ (keepsCall_of_forall hkeeps _) .void⟩
  · have hprepare : prepare narrow (create .host) = .done () (fresh .host narrow) := rfl
    obtain ⟨_, haccepted, _⟩ := calls_fit_image hprepare
    have hsize : narrow.imageSize ≤ imageLimit := by decide
    have hkeeps : ∀ u ∈ [BuilderUse.pushInt 7], u.isPrepare = false := by decide
    have halign : ∀ u ∈ [BuilderUse.pushInt 7], u.isAlign = false := by decide
    exact ⟨_, hprepare, hsize, haccepted hsize _ (keepsCall_of_forall hkeeps _) halign _ .double _
      ⟨rfl, rfl⟩ (.bytes rfl)⟩

end CallBuilder

end CallEngine
