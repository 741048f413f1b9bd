import CallEngine.Proofs.Creation
import CallEngine.Proofs.SessionCalls

/-!
# Round trips through native code

The code of a foreign function may be a trampoline of the same signature. A call of the function
then leaves hosted code and comes back to it at once. Its arguments are marshaled, laid out in the
call image, read by native code, marshaled back and put into the frame of a callee, and the value of
the callee takes the way back.

The callee runs exactly once, on arguments that mean what the arguments of the call mean, and the
call returns a value that means what the value of the callee means. For the way back it matters that
hosted code cannot move the calls in progress: their context is not dropped while interrupts are
disabled on it, and a frame that is still open has the same frames below it.
-/

namespace CallEngine

/-! ## What hosted code leaves in place -/

namespace Engine

variable {e e' : Engine} {number : Nat} {c : Context}

/-- Regions without interrupts are opened and closed in pairs, and where one is open, the context
stays. The limit of the heap is never changed. -/
structure Holds (e e' : Engine) : Prop where
  limit : e'.heap.limit = e.heap.limit
  regions (number : Nat) : e'.regions number = e.regions number
  stays {number : Nat} {c : Context} (hc : e.context? number = some c)
    (hopen : c.guard.disabled ≠ 0) : ∃ c', e'.context? number = some c' ∧ c.Stays c'

namespace Holds

/-- A use of an engine leaves everything in place. -/
theorem ofHeeds {quiet : Prop} (h : Heeds quiet e e') : Holds e e' := ⟨h.limit, h.regions, h.stays⟩

/-- Nothing has happened. -/
theorem refl (e : Engine) : Holds e e := ⟨rfl, fun _ => rfl, fun hc _ => ⟨_, hc, .refl _⟩⟩

/-- One after the other. -/
theorem trans {a b c : Engine} (hab : Holds a b) (hbc : Holds b c) : Holds a c where
  limit := hbc.limit.trans hab.limit
  regions number := (hbc.regions number).trans (hab.regions number)
  stays {number ca} hca hopen := by
    obtain ⟨cb, hcb, hstays⟩ := hab.stays hca hopen
    have hregions := disabled_of_regions hca hcb (hab.regions number)
    obtain ⟨cc, hcc, hstays'⟩ := hbc.stays hcb (hregions ▸ hopen)
    exact ⟨cc, hcc, hstays.trans hstays'⟩

/-- What is done while a region is open on a context, with the region opened before and closed
after. -/
theorem bracket {c' : Context} (hc : e.context? number = some c)
    (hbody : Holds (e.putContext number c.disableInterrupts) e')
    (hc' : e'.context? number = some c') : Holds e (e'.putContext number c'.enableInterrupts) := by
  have hopened (other : Nat) : (e.putContext number c.disableInterrupts).context? other =
      if other = number then some { c.disableInterrupts with journal := [] }
      else e.context? other := context?_putContext hc _ other
  have hclosed (other : Nat) : (e'.putContext number c'.enableInterrupts).context? other =
      if other = number then some { c'.enableInterrupts with journal := [] }
      else e'.context? other := context?_putContext hc' _ other
  have hcount : c'.guard.disabled = c.guard.disabled + 1 :=
    disabled_of_regions (by rw [hopened, if_pos rfl]) hc' (hbody.regions number)
  refine ⟨?_, fun other => ?_, fun {other d} hd hopen => ?_⟩
  · have hlimit := hbody.limit
    rw [putContext_eq] at hlimit ⊢
    exact hlimit
  · rw [regions_putContext hc']
    by_cases hother : other = number
    · rw [if_pos hother, hother, Engine.regions, hc]
      change c'.guard.disabled - 1 = c.guard.disabled
      omega
    · have hkept := hbody.regions other
      rw [regions_putContext hc, if_neg hother] at hkept
      rw [if_neg hother, hkept]
  · by_cases hother : other = number
    · subst hother
      obtain rfl : c = d := Option.some.inj (hc.symm.trans hd)
      obtain ⟨d, hd', hstays⟩ := hbody.stays ((hopened other).trans (if_pos rfl))
        (Nat.succ_ne_zero _)
      obtain rfl : d = c' := Option.some.inj (hd'.symm.trans hc')
      have hopens : c.Stays { c.disableInterrupts with journal := [] } := .same rfl rfl rfl rfl rfl
      have hcloses : d.Stays { d.enableInterrupts with journal := [] } := .same rfl rfl rfl rfl rfl
      exact ⟨_, (hclosed other).trans (if_pos rfl), (hopens.trans hstays).trans hcloses⟩
    · have hbefore := ((hopened other).trans (if_neg hother)).trans hd
      obtain ⟨d', hd', hstays⟩ := hbody.stays hbefore hopen
      exact ⟨d', ((hclosed other).trans (if_neg hother)).trans hd', hstays⟩

end Holds

end Engine

namespace Script

namespace Session

variable {α : Type} {s : Session} {number : Nat} {c : Context}

/-- A change of a context that is alive. -/
theorem run_modify (hc : s.engine.context? number = some c) (f : Context → Context) :
    (inside.context number).run (Op.modify f) s =
      .done () { s with engine := s.engine.putContext number (f c) } := by
  change ((Engine.onContext number _ s.engine).mapState fun engine => { s with engine }) = _
  rw [Engine.onContext, hc]
  rfl

/-- A change of a context that is not alive is refused. -/
theorem run_unknown (hc : s.engine.context? number = none) (f : Context → Context) :
    (inside.context number).run (Op.modify f) s =
      .failed (.signalled s!"unknown context {number}") s := by
  change ((Engine.onContext number _ s.engine).mapState fun engine => { s with engine }) = _
  rw [Engine.onContext, hc]
  rfl

/-- Everything that hosted code does leaves the calls in progress in place. -/
theorem custom : Custom inside fun s s' => s.engine.Holds s'.engine where
  refl s := .refl s.engine
  trans hab hbc := hab.trans hbc
  use u s := Outcome.settles_mapState.mpr ((u.heeds s.engine).imp fun _ h => .ofHeeds h)
  region number body hbody s := by
    rw [Within.withoutInterrupts, Op.bind_apply]
    cases hc : s.engine.context? number with
    | none =>
      rw [run_unknown hc]
      exact .refl s.engine
    | some c =>
      rw [run_modify hc]
      refine Op.settles_thenAlways.mpr ((hbody _).imp fun s₂ hholds => ?_)
      obtain ⟨c', hc', _⟩ := hholds.stays
        ((Engine.context?_putContext hc c.disableInterrupts number).trans (if_pos rfl))
        (Nat.succ_ne_zero _)
      rw [run_modify hc']
      exact .bracket hc hholds hc'
  entering number body hbody s := by
    have hentered (f : List Nat → List Nat) (s : Session) :
        s.engine.Holds { s.engine with entered := f s.engine.entered } :=
      ⟨rfl, fun _ => rfl, fun hc _ => ⟨_, hc, .refl _⟩⟩
    have henter : inside.run (Op.modify fun e => { e with entered := number :: e.entered }) s =
        .done () { s with engine := { s.engine with entered := number :: s.engine.entered } } := rfl
    rw [Inside.entering, Op.bind_of_done henter]
    refine Op.settles_thenAlways.mpr ((hbody _).imp fun s₂ hholds => ?_)
    exact ((hentered (number :: ·) s).trans hholds).trans (hentered (·.drop 1) s₂)

/-- The calls in progress on a context are in place: the context is still there, and so are the
frames up to every frame that is open. The heap has the same limit. -/
structure Held (number : Nat) (s s' : Session) : Prop where
  limit : s'.engine.heap.limit = s.engine.heap.limit
  stays {c : Context} (hc : s.engine.context? number = some c) :
    ∃ c', s'.engine.context? number = some c' ∧ c.Stays c'

/-- The context that is there afterwards is the one that was there before. -/
theorem Held.stays_eq {s' : Session} {c' : Context} (h : Held number s s')
    (hc : s.engine.context? number = some c) (hc' : s'.engine.context? number = some c') :
    c.Stays c' := by
  obtain ⟨found, hfound, hstays⟩ := h.stays hc
  obtain rfl : found = c' := Option.some.inj (hfound.symm.trans hc')
  exact hstays

/-- Hosted code that runs inside of a foreign call leaves the calls in progress in place. -/
theorem held_of_activity (hc : s.engine.context? number = some c) (hopen : c.guard.disabled ≠ 0)
    (a : Activity α) : (a.run inside s).Settles (Held number s) := by
  refine (custom.run a s).imp fun s' hholds => ⟨hholds.limit, fun {c'} hc' => ?_⟩
  obtain rfl : c = c' := Option.some.inj (hc.symm.trans hc')
  exact hholds.stays hc hopen

/-! ## Round trips -/

/-- A foreign function whose code is a trampoline of the same signature. Native calls of the
signature are supported, and its arguments fit the call image. -/
structure Loops (s : Session) (function : ForeignFunction) (index : Nat) (t : Trampoline) :
    Prop where
  code : Code.ofAddress? s.engine.codeOrigin function.entry = some (.trampoline index)
  trampoline : s.trampolines[index]? = some t
  created : Callback.create function.signature t.callee.name = .ok t.callback
  prepares : ∃ b, CallBuilder.prepare function.signature (.create .host) = .done () b
  fits : function.signature.imageSize ≤ imageLimit
  params : .float ∉ function.signature.params
  ret : function.signature.ret ≠ .float

/-- A callback is created for signatures without variadic arguments, and has that signature. -/
theorem signature_of_create {signature : Signature} {name : String} {callback : Callback}
    (h : Callback.create signature name = .ok callback) :
    signature.variadicFrom = none ∧ callback.signature = signature := by
  unfold Callback.create at h
  split at h
  · cases h
  · rename_i hplain
    cases h
    exact ⟨Option.not_isSome_iff_eq_none.mp hplain, rfl⟩

/-- What a call of such a function needs to pass its arguments to the callee of the trampoline. The
context was created from settings that pass their check. There are no more arguments than calls may
have, they may be passed, and there is room for them: in two frames, in native memory and on the
heap. No interrupt is pending. -/
structure Ready (s : Session) (number : Nat) (types : List ForeignType) (args : List Value)
    (c : Context) : Prop where
  context : s.engine.context? number = some c
  created : ∃ (settings : Settings) (id : Nat) (stack : OperandStack), settings.validate = .ok () ∧
    (Context.create id settings.limits stack).Stays c
  quiet : c.guard.pending.Encodes ∅
  unlimited : s.engine.heap.limit = none
  accepts : List.Forall₂ (Marshal.Accepts s.engine.heap) types args
  fits : args.length ≤ c.callArgumentsLimit
  room : c.HasRoom args.length 2
  memory : s.engine.memory.nextAddress + Marshal.copiedAll s.engine.heap types args ≤ 2 ^ 64
  objects : s.engine.heap.objects.size + args.length ≤ 2 ^ 64

/-- Small frames fit into the buffer of the context, which has room for a value. -/
theorem Ready.sized {types : List ForeignType} {args : List Value}
    (h : s.Ready number types args c) :
    c.smallCallThreshold ≤ c.values.capacity ∧ 0 < c.values.capacity := by
  obtain ⟨settings, id, stack, hvalid, hstays⟩ := h.created
  have hthreshold : c.smallCallThreshold = settings.smallCallThreshold := hstays.threshold
  have hcapacity : c.values.capacity = max settings.multipleValuesLimit 1 :=
    hstays.capacity.trans Array.size_replicate
  have hsmall := (Settings.threshold_of_validate hvalid).2
  omega

/-- What the callee of the trampoline finds. Its arguments mean what the arguments of the call mean.
The calls in progress are in place, its frame is the innermost one, no interrupt is pending, and the
trampolines are what they were. The copies of strings are in native memory, and each argument may
have become a new object. -/
structure Called (s : Session) (number : Nat) (types : List ForeignType) (args : List Value)
    (frame : Frame) (s₁ : Session) (c₁ : Context) : Prop where
  context : s₁.engine.context? number = some c₁
  holds : ∃ values, c₁.args frame = .ok values ∧ values.length = args.length ∧
    SameArguments s.engine.heap s₁.engine.heap types args values
  held : Held number s s₁
  innermost : c₁.Innermost frame
  quiet : c₁.guard.pending.Encodes ∅
  trampolines : s₁.trampolines = s.trampolines
  memory : s₁.engine.memory.nextAddress =
    s.engine.memory.nextAddress + Marshal.copiedAll s.engine.heap types args
  objects : s₁.engine.heap.objects.size ≤ s.engine.heap.objects.size + args.length

/-- The way to the callee of the trampoline and back. The frames of the call and of the callee are
the innermost ones, interrupts are disabled, and what is done before and after the callee runs does
not depend on the callee. -/
structure Passage (s : Session) (number : Nat) (function : ForeignFunction) (index : Nat)
    (t : Trampoline) (args : List Value) (c : Context) (outer frame : Frame) (b : CallBuilder)
    (s₁ : Session) (c₁ : Context) : Prop where
  called : s.Called number function.signature.params args frame s₁ c₁
  filled : ∃ natives, b.Filled function.signature natives
  outerIndex : outer.index = c.serials.length
  frameIndex : frame.index = (c.serials ++ [outer.serial]).length
  serials : c₁.serials = (c.serials ++ [outer.serial]) ++ [frame.serial]
  serial : frame.serial < c₁.nextSerial
  disabled : c₁.guard.disabled ≠ 0
  runs (exec : Exec) (invoke : Invoke) :
    (within number).funcall (call exec invoke number (.foreign function)) args s =
      leave number outer (conclude number function.signature.ret b
        (answer number index t.callback frame (invoke number t.callee frame s₁)))

variable {function : ForeignFunction} {index : Nat} {t : Trampoline} {args : List Value}

/-- The callee of the trampoline is reached. -/
theorem Loops.exists_passage (hloops : s.Loops function index t)
    (hready : s.Ready number function.signature.params args c) :
    ∃ outer frame b s₁ c₁, s.Passage number function index t args c outer frame b s₁ c₁ := by
  obtain ⟨hplain, hsignature⟩ := signature_of_create hloops.created
  obtain ⟨prepared, hprepare⟩ := hloops.prepares
  obtain ⟨hsized, _⟩ := hready.sized
  obtain ⟨natives, memory, hpasses⟩ := Marshal.passes_of_accepts hready.accepts s.engine.memory
  -- The call enters its frame.
  have hat : s.At number c s.surroundings := ⟨hready.context, rfl⟩
  have hroom : c.HasRoom args.length 1 := hready.room.le (by decide)
  obtain ⟨outer, c₁, s₁, hentered₁, h₁, hcall⟩ :=
    hat.funcall hready.quiet hready.fits hsized hroom
  -- The foreign function passes the arguments to native code.
  have hargc : outer.argc = function.signature.params.length :=
    hentered₁.argc.trans hready.accepts.length_eq.symm
  obtain ⟨b, s₂, hfilled, h₂, hinvoke⟩ :=
    h₁.invoke hargc hentered₁.holds hprepare hplain hloops.fits hpasses
  -- The trampoline gets them from there and enters the frame of its callee.
  have hsized₁ : c₁.smallCallThreshold ≤ c₁.values.capacity := by
    rw [hentered₁.stays.threshold, hentered₁.stays.capacity]
    exact hsized
  have hquiet₁ : c₁.guard.pending.Encodes ∅ := hentered₁.pending ▸ hready.quiet
  have hfits₁ : args.length ≤ c₁.callArgumentsLimit := hentered₁.limit ▸ hready.fits
  have hhanded : Handed s.engine.heap function.signature.params args natives
      { s.surroundings with memory, entered := number :: s.surroundings.entered } := {
    passes := ⟨_, memory, hpasses, .refl _⟩
    accepts := hready.accepts
    types := hloops.params
    grows := .refl _
    limit := hready.unlimited
    objects := hready.objects
    memory := hpasses.nextAddress ▸ hready.memory }
  obtain ⟨frame, c₃, s₃, ⟨values, heap, hentered₃, hcount, h₃, hgrows, hsize, hsame⟩, hrun⟩ :=
    h₂.callCode hloops.code hloops.trampoline rfl (hsignature ▸ hhanded) hquiet₁ hfits₁ hsized₁
      (hentered₁.room hready.room)
  have hheap : s₃.engine.heap = heap := congrArg Surroundings.heap h₃.surroundings
  have hmemory₃ : s₃.engine.memory = memory := congrArg Surroundings.memory h₃.surroundings
  have hstays {found : Context} (hfound : s.engine.context? number = some found) :
      found.Stays c₃ := by
    obtain rfl : c = found := Option.some.inj (hready.context.symm.trans hfound)
    have hopens : c₁.Stays (native c₁) := .same rfl rfl rfl rfl rfl
    exact (hentered₁.stays.trans hopens).trans hentered₃.stays
  have hserials : c₃.serials = (c.serials ++ [outer.serial]) ++ [frame.serial] :=
    hentered₁.serials ▸ hentered₃.serials
  have hindex : frame.index = (c.serials ++ [outer.serial]).length :=
    hentered₁.serials ▸ hentered₃.index
  obtain ⟨hrecord, hlast⟩ := Context.exists_record hserials hindex
  have hcalled : s.Called number function.signature.params args frame s₃ c₃ := {
    context := h₃.context
    holds := ⟨values, hentered₃.holds, hcount, hheap ▸ hsignature ▸ hsame⟩
    held := ⟨hheap ▸ hgrows.limit, fun hc => ⟨c₃, h₃.context, hstays hc⟩⟩
    innermost := ⟨Option.isSome_iff_exists.mpr hrecord, hlast⟩
    quiet := hentered₃.pending ▸ hquiet₁
    trampolines := congrArg Surroundings.trampolines h₃.surroundings
    memory := hmemory₃ ▸ hpasses.nextAddress
    objects := hheap ▸ hsize }
  refine ⟨outer, frame, b, s₃, c₃, ?_⟩
  exact {
    called := hcalled
    filled := ⟨natives, hfilled⟩
    outerIndex := hentered₁.index
    frameIndex := hindex
    serials := hserials
    serial := hentered₃.serial
    disabled := hentered₃.disabled ▸ Nat.succ_ne_zero _
    runs := fun exec invoke => by
      rw [hcall]
      change leave number outer (function.invoke inside (callCode invoke) number outer s₁) = _
      rw [hinvoke, hrun] }

/-- How the callee of a trampoline has returned. The calls in progress are in place, no interrupt is
pending, and native code can be given its primary value, for which native memory and the heap have
room. -/
structure Returned (number : Nat) (ret : ForeignType) (s s' : Session) (c : Context) : Prop where
  held : Held number s s'
  context : s'.engine.context? number = some c
  quiet : c.guard.pending.Encodes ∅
  accepts : Marshal.Accepts s'.engine.heap ret c.values.primary
  memory : s'.engine.memory.nextAddress +
    Marshal.copied s'.engine.heap ret c.values.primary ≤ 2 ^ 64
  objects : s'.engine.heap.objects.size < 2 ^ 64

/-- If its frame is the innermost one, a callee that has returned a value is left, and so is the
call. The call returns that value. -/
theorem Passage.returns {outer frame : Frame} {b : CallBuilder} {s₁ s₂ : Session}
    {c₁ c₂ : Context} (hloops : s.Loops function index t)
    (hready : s.Ready number function.signature.params args c)
    (h : s.Passage number function index t args c outer frame b s₁ c₁)
    (hreturned : Returned number function.signature.ret s₁ s₂ c₂)
    (hinnermost : c₂.Innermost frame) (count : Nat) :
    ∃ s₃ c₃, leave number outer (conclude number function.signature.ret b
        (answer number index t.callback frame (.done count s₂))) = .done 1 s₃ ∧
      s₃.engine.context? number = some c₃ ∧ c₃.values.count = 1 ∧
      Marshal.Same s₂.engine.heap s₃.engine.heap function.signature.ret c₂.values.primary
        c₃.values.primary ∧
      s₃.trampolines = s₂.trampolines := by
  obtain ⟨_, hsignature⟩ := signature_of_create hloops.created
  obtain ⟨natives, hfilled⟩ := h.filled
  obtain ⟨p, hp⟩ := hreturned.accepts.passed
  have hstays := hreturned.held.stays_eq h.called.context hreturned.context
  have hserials : c₂.serials = (c.serials ++ [outer.serial]) ++ [frame.serial] :=
    (hstays.rests.serials_eq h.serials h.frameIndex h.serial hinnermost).trans h.serials
  have hcapacity : 0 < c₂.values.capacity := by
    rw [hstays.capacity, (h.called.held.stays_eq hready.context h.called.context).capacity]
    exact hready.sized.2
  -- The trampoline hands the value to native code.
  have hat : s₂.At number c₂ s₂.surroundings := ⟨hreturned.context, rfl⟩
  obtain ⟨c₃, s₃, hanswer, hleft₃, h₃⟩ := hat.answer hserials h.frameIndex hreturned.quiet
    (hsignature ▸ Marshal.ne_void_of_passed hp) (hsignature ▸ hp) index count
  -- The foreign function gets it back from there.
  have hbound : (Marshal.place s₂.engine.memory p).2.nextAddress ≤ 2 ^ 64 :=
    Marshal.nextAddress_place hp _ ▸ hreturned.memory
  have hlimit : s₂.engine.heap.limit = none :=
    hreturned.held.limit.trans (h.called.held.limit.trans hready.unlimited)
  obtain ⟨value, heap, hback, hgrows, _, hsame⟩ := Marshal.crosses hloops.ret hreturned.accepts hp
    (.refl _) hlimit hreturned.objects (.refl _) hbound
  obtain ⟨c₄, s₄, hconclude, h₄, hvalues₄, hserials₄, hpending₄⟩ :=
    h₃.conclude hfilled (Marshal.kind_place hp _) hback
  have hquiet₄ : c₄.guard.pending.Encodes ∅ :=
    (hpending₄.trans hleft₃.pending) ▸ hreturned.quiet
  obtain ⟨c₅, s₅, hleave, hleft₅, h₅⟩ :=
    h₄.leave (hserials₄.trans hleft₃.serials) h.outerIndex hquiet₄ 1
  have hvalues₅ : c₅.values = c₂.values.setSingle value := by
    rw [hleft₅.values, hvalues₄, hleft₃.values]
  refine ⟨s₅, c₅, ?_, h₅.context, by rw [hvalues₅]; rfl, ?_, ?_⟩
  · have hmemory : s₂.surroundings.memory = s₂.engine.memory := rfl
    rw [hanswer, hmemory, hconclude, hleave]
  · have hheap : s₅.engine.heap = heap := congrArg Surroundings.heap h₅.surroundings
    rw [hheap, hvalues₅, c₂.values.primary_setSingle hcapacity]
    exact hsame
  · exact congrArg Surroundings.trampolines h₅.surroundings

/-- If its frame is not the innermost one when the callee has returned, the engine stops. -/
theorem answer_fatal {frame : Frame} (hc : s.engine.context? number = some c)
    (hother : ¬ c.Innermost frame) (index : Nat) (callback : Callback) (count : Nat) :
    ∃ message s', answer number index callback frame (.done count s) = .fatal message s' := by
  obtain ⟨message, s', hleave⟩ := At.leave_fatal ⟨hc, rfl⟩ hother count
  refine ⟨message, s', ?_⟩
  rw [answer, hleave]
  rfl

/-- A call of a foreign function whose code is a trampoline of the same signature runs the callee of
the trampoline exactly once, on arguments that mean what the arguments of the call mean: what the
call does is a function of how the callee ends, and the callee starts in one state whatever it is.
If the callee is done and has closed the frames that it has opened, the call returns one value,
which means what the primary value of the callee means, and the trampoline keeps no error. If it has
not closed them, the engine stops. Nothing that hosted code does moves the calls in progress. -/
theorem trampolines_round_trip (hloops : s.Loops function index t)
    (hready : s.Ready number function.signature.params args c) :
    ∃ (frame : Frame) (s₁ : Session) (c₁ : Context)
      (rest : Outcome Session EngineError Nat → Outcome Session EngineError Nat),
      s.Called number function.signature.params args frame s₁ c₁ ∧ Outcome.Strict rest ∧
      (∀ exec invoke, (within number).funcall (call exec invoke number (.foreign function)) args s =
        rest (invoke number t.callee frame s₁)) ∧
      (∀ count s₂ c₂, Returned number function.signature.ret s₁ s₂ c₂ →
        (¬ c₂.Innermost frame → (rest (.done count s₂)).isFatal = true) ∧
        (c₂.Innermost frame → ∃ s₃ c₃, rest (.done count s₂) = .done 1 s₃ ∧
          s₃.engine.context? number = some c₃ ∧ c₃.values.count = 1 ∧
          Marshal.Same s₂.engine.heap s₃.engine.heap function.signature.ret c₂.values.primary
            c₃.values.primary ∧
          s₃.trampolines = s₂.trampolines)) ∧
      ∀ (α : Type) (a : Activity α), (a.run inside s₁).Settles (Held number s₁) := by
  obtain ⟨outer, frame, b, s₁, c₁, hpassage⟩ := hloops.exists_passage hready
  refine ⟨frame, s₁, c₁, fun o => leave number outer (conclude number function.signature.ret b
    (answer number index t.callback frame o)), hpassage.called, fun _ _ => rfl, hpassage.runs,
    fun count s₂ c₂ hreturned => ⟨fun hother => ?_, fun hinnermost =>
      hpassage.returns hloops hready hreturned hinnermost count⟩,
    fun α a => held_of_activity hpassage.called.context hpassage.disabled a⟩
  obtain ⟨message, s', hanswer⟩ :=
    answer_fatal hreturned.context hother index t.callback count
  dsimp only
  rw [hanswer]
  rfl

/-- A foreign function of a string and an integer whose code is the first trampoline. -/
def measure : ForeignFunction where
  name := "measure"
  entry := (Code.trampoline 0).address (Code.originAt 0)
  signature := { params := [.cstring, .int], ret := .unsignedLong }

/-- A trampoline of the same signature. -/
def measured : Trampoline where
  name := "measure"
  callback := { signature := measure.signature, label := "measure " ++ measure.signature.text }
  callee := .hosted (.mk "measure" 2 (some 2) [] none)

/-- A session with a small context, the string "hi" on its heap, and the trampoline. -/
def measuring : Session where
  engine :=
    { machine := .bounded true 0x10000000000
      settings := .small
      libraries := LibraryLoader.create {} Settings.small.libraryPaths
      heap := CallBuilder.greeting
      nextContext := 2
      registered := [1]
      contexts := #[some Tracked.small.context] }
  trampolines := #[measured]

/-- Hosted code that reports an integer. -/
def reporting (number : Nat) (n : Int64) : Activity Nat :=
  .use (.onContext number (.setValue (.fixnum n))) fun answer _ => .finish answer

/-- The integer is reported as the one value, and nothing else is changed. -/
theorem reporting_done (hc : s.engine.context? number = some c) (n : Int64) :
    ∃ s', (reporting number n).run inside s = .done 1 s' ∧
      s'.At number { c with
        values := c.values.setSingle (.fixnum n)
        journal := [] } s.surroundings := by
  have hsets : (Context.setValue (.fixnum n) : ContextOp EngineError Nat) c =
      .done 1 { c with values := c.values.setSingle (.fixnum n) } := rfl
  obtain ⟨s', hset, h'⟩ := At.onContext ⟨hc, rfl⟩ hsets
  refine ⟨s', ?_, h'⟩
  change (((within number).run (Context.setValue (.fixnum n))).attempt >>= fun answer => _) s = _
  rw [Op.bind_eq_andThen, Op.attempt_eq_attempted, hset]
  rfl

/-- The trampoline is the code of the foreign function. -/
theorem measuring_loops : measuring.Loops measure 0 measured where
  code := by decide +kernel
  trampoline := rfl
  created := rfl
  prepares := ⟨_, rfl⟩
  fits := by decide
  params := by decide
  ret := by decide

/-- The foreign function can be called with the string and an integer. -/
theorem measuring_ready : measuring.Ready 0 measure.signature.params [.object 0, .fixnum (-3)]
    Tracked.small.context := by
  have hstring : Marshal.passed CallBuilder.greeting .cstring (.object 0) =
      .ok (.copy [104, 105]) := Marshal.passed_eq_ok.mpr (.string (by cbv))
  have hinteger : Marshal.passed CallBuilder.greeting .int (.fixnum (-3)) =
      .ok (.scalar (.wrapInteger .i32 (-3))) := rfl
  have hrange (n : Int64) (hn : Value.fixnum (-3) = .fixnum n) : Value.isFixnum n.toInt = true := by
    obtain rfl := Value.fixnum.inj hn
    decide
  have hcopied : Marshal.copiedAll CallBuilder.greeting [.cstring, .int]
      [.object 0, .fixnum (-3)] = 3 := by
    simp [Marshal.copiedAll, Marshal.copied, hstring, hinteger]
  have hmemory : Native.memory.nextAddress + Marshal.copiedAll CallBuilder.greeting [.cstring, .int]
      [.object 0, .fixnum (-3)] ≤ 2 ^ 64 := by
    rw [hcopied]
    decide +kernel
  exact {
    context := rfl
    created := ⟨.small, 1, _, rfl, .refl _⟩
    quiet := .empty
    unlimited := rfl
    accepts := .cons ⟨⟨_, hstring⟩, by simp, by simp⟩ (.cons ⟨⟨_, hinteger⟩, hrange, by simp⟩ .nil)
    fits := by decide
    room := .inr (by decide)
    memory := hmemory
    objects := by decide }

/-- The foreign function is called with the string "hi" and the integer -3, and returns the integer
that the callee reports. -/
theorem measured_round_trip :
    measuring.Loops measure 0 measured ∧
    measuring.Ready 0 measure.signature.params [.object 0, .fixnum (-3)] Tracked.small.context ∧
    ∃ s' c', (within 0).funcall (call (exec 0) (fun number _ _ => (reporting number 5).run inside) 0
        (.foreign measure)) [.object 0, .fixnum (-3)] measuring = .done 1 s' ∧
      s'.engine.context? 0 = some c' ∧ c'.values.primary.asInteger s'.engine.heap = .ok (some 5) ∧
      s'.trampolines = measuring.trampolines := by
  obtain ⟨frame, s₁, c₁, rest, hcalled, _, hruns, hreturns, hheld⟩ :=
    trampolines_round_trip measuring_loops measuring_ready
  obtain ⟨s₂, hdone, h₂⟩ := reporting_done hcalled.context 5
  have hcapacity : 0 < c₁.values.capacity := by
    rw [(hcalled.held.stays_eq measuring_ready.context hcalled.context).capacity]
    exact measuring_ready.sized.2
  have hprimary := c₁.values.primary_setSingle hcapacity (.fixnum 5)
  have hpassed : Marshal.passed s₂.engine.heap measure.signature.ret (.fixnum 5) =
      .ok (.scalar (.wrapInteger .u64 5)) := rfl
  have hrange (n : Int64) (hn : Value.fixnum 5 = .fixnum n) : Value.isFixnum n.toInt = true := by
    obtain rfl := Value.fixnum.inj hn
    decide
  have hheap : s₂.engine.heap = s₁.engine.heap := congrArg Surroundings.heap h₂.surroundings
  have hmemory : s₂.engine.memory = s₁.engine.memory := congrArg Surroundings.memory h₂.surroundings
  have htable : s₂.trampolines = s₁.trampolines :=
    congrArg Surroundings.trampolines h₂.surroundings
  have hreturned : Returned 0 measure.signature.ret s₁ s₂
      { c₁ with
        values := c₁.values.setSingle (.fixnum 5)
        journal := [] } := {
    held := by
      have hsettles := hheld Nat (reporting 0 5)
      rwa [hdone] at hsettles
    context := h₂.context
    quiet := hcalled.quiet
    accepts := hprimary.symm ▸ ⟨⟨_, hpassed⟩, hrange, nofun⟩
    memory := by
      dsimp only
      rw [hprimary, Marshal.copied, hpassed, hmemory, hcalled.memory]
      exact measuring_ready.memory
    objects := hheap ▸ Nat.lt_of_le_of_lt hcalled.objects (by decide) }
  obtain ⟨s₃, c₃, hreturn, hc₃, _, hsame, htrampolines⟩ :=
    (hreturns 1 s₂ _ hreturned).2 ⟨hcalled.innermost.isOpen, hcalled.innermost.last⟩
  refine ⟨measuring_loops, measuring_ready, s₃, c₃, ?_, hc₃, ?_,
    htrampolines.trans (htable.trans hcalled.trampolines)⟩
  · rw [hruns, hdone, hreturn]
  · dsimp only at hsame
    rw [hprimary] at hsame
    generalize c₃.values.primary = value at hsame ⊢
    cases hsame with
    | same _ => rfl
    | integer _ h h' =>
      cases h
      exact h'

end Session
end Script
end CallEngine
