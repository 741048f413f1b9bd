import CallEngine.Proofs.CallArguments
import CallEngine.Proofs.CallPassage
import CallEngine.Proofs.EngineUses
import CallEngine.Script.Run

/-!
# Calls of a session

A foreign call whose code is a trampoline passes through many operations before the callee of the
trampoline runs, and through many more after it has returned. Here the way in and the way out are
followed step by step. On the way in, no operation is refused if there is room for the frames and the
arguments may be passed. What is done on the way out is a function of how the callee ended.
-/

namespace CallEngine

/-! ## What follows an outcome -/

namespace Outcome

variable {σ ε δ α β : Type}

/-- Go on with `f` if it was done. -/
def andThen (o : Outcome σ ε α) (f : α → Op σ ε β) : Outcome σ ε β :=
  Op.bind (fun _ => o) f o.state

/-- Go on with a last step whether it was done or failed, and end as it ended. -/
def always (o : Outcome σ ε α) (last : Op σ ε Unit) : Outcome σ ε α :=
  Op.thenAlways (fun _ => o) last o.state

/-- What was done stays done after a last step that is done. -/
theorem always_of_done {a : α} {s s' : σ} {last : Op σ ε Unit} (h : last s = .done () s') :
    (done a s : Outcome σ ε α).always last = .done a s' := by
  unfold always Op.thenAlways
  dsimp only
  rw [h]

/-- Hand a failure over as a value. -/
def attempted (o : Outcome σ ε α) : Outcome σ δ (Except ε α) :=
  Op.attempt (fun _ => o) o.state

/-- What is fatal stays so, and nothing is done after it. -/
def Strict (rest : Outcome σ ε α → Outcome σ ε β) : Prop := ∀ m s, rest (fatal m s) = fatal m s

end Outcome

namespace Op

variable {σ ε δ α β : Type} {x : Op σ ε α} {s s' : σ} {a : α}

/-- A sequence is its first operation and what follows it. -/
theorem bind_eq_andThen (x : Op σ ε α) (f : α → Op σ ε β) (s : σ) :
    (x >>= f) s = (x s).andThen f := rfl

/-- An operation with a last step is the operation and the last step. -/
theorem thenAlways_eq_always (x : Op σ ε α) (last : Op σ ε Unit) (s : σ) :
    x.thenAlways last s = (x s).always last := rfl

/-- An operation whose failures are handled is the operation with its failure handed over. -/
theorem attempt_eq_attempted (x : Op σ ε α) (s : σ) :
    (x.attempt : Op σ δ (Except ε α)) s = (x s).attempted := rfl

/-- Another type of error does not matter to an operation that is done. -/
theorem mapError_of_done (h : x s = .done a s') (f : ε → δ) : x.mapError f s = .done a s' := by
  rw [mapError, h]

end Op

namespace Script

/-! ## Single steps -/

/-- What a call depends on beside its context. -/
structure Surroundings where
  heap : Heap
  memory : Memory
  /-- The contexts of the foreign calls in progress, the innermost first. -/
  entered : List Nat
  codeOrigin : Nat
  trampolines : Array Trampoline

namespace Session

variable {α : Type} {s : Session} {number : Nat} {c c' : Context} {v : Surroundings}

/-- The surroundings of the calls of a session. -/
def surroundings (s : Session) : Surroundings where
  heap := s.engine.heap
  memory := s.engine.memory
  entered := s.engine.entered
  codeOrigin := s.engine.codeOrigin
  trampolines := s.trampolines

/-- A context of a session, and its surroundings. -/
structure At (s : Session) (number : Nat) (c : Context) (v : Surroundings) : Prop where
  context : s.engine.context? number = some c
  surroundings : s.surroundings = v

namespace At

/-- An operation of the context changes only the context, and its events are collected. -/
theorem onContext (h : s.At number c v) {op : ContextOp EngineError α} {a : α}
    (hop : op c = .done a c') :
    ∃ s', (within number).run op s = .done a s' ∧ s'.At number { c' with journal := [] } v := by
  refine ⟨{ s with engine := s.engine.putContext number c' }, ?_, ?_, ?_⟩
  · change ((Engine.onContext number op s.engine).mapState fun engine => { s with engine }) = _
    rw [Engine.onContext, h.context]
    dsimp only
    rw [hop]
    rfl
  · rw [Engine.context?_putContext h.context, if_pos rfl]
  · rw [← h.surroundings, Engine.putContext_eq]
    rfl

/-- A frame operation changes only the context. -/
theorem frame (h : s.At number c v) {op : ContextOp FrameError α} {a : α} (hop : op c = .done a c') :
    ∃ s', (within number).frame op s = .done a s' ∧ s'.At number { c' with journal := [] } v :=
  h.onContext (Op.mapError_of_done hop _)

/-- A safe point where nothing is pending changes only the context. -/
theorem safePoint (h : s.At number c v) (hop : Context.safePoint c = .done () c') :
    ∃ s', (within number).safePoint s = .done () s' ∧ s'.At number { c' with journal := [] } v :=
  h.onContext (Op.mapError_of_done hop _)

/-- Recording an event changes neither the context nor its surroundings. -/
theorem record (h : s.At number c v) (event : Event) :
    ∃ s', inside.run (Engine.record event) s = .done () s' ∧ s'.At number c v := by
  refine ⟨{ s with engine := s.engine.note event }, rfl, ?_⟩
  unfold Engine.note
  split
  · exact ⟨h.context, h.surroundings⟩
  · exact h

/-- Entering and leaving foreign calls changes the calls in progress. -/
theorem enter (h : s.At number c v) (f : List Nat → List Nat) :
    ∃ s', inside.run (Op.modify fun e => { e with entered := f e.entered }) s = .done () s' ∧
      s'.At number c { v with entered := f v.entered } := by
  refine ⟨_, rfl, h.context, ?_⟩
  rw [← h.surroundings]
  rfl

/-- Marshaling a scalar changes the heap. -/
theorem toHosted (h : s.At number c v) {ty : ForeignType} {raw : Scalar} {value : Option Value}
    {heap : Heap} (hmarshal : Marshal.toHosted v.heap v.memory ty raw = .ok (value, heap)) :
    ∃ s', inside.run (Engine.toHosted ty raw) s = .done value s' ∧
      s'.At number c { v with heap } := by
  have hengine : Marshal.toHosted s.engine.heap s.engine.memory ty raw = .ok (value, heap) := by
    rw [← h.surroundings] at hmarshal
    exact hmarshal
  refine ⟨{ s with engine := { s.engine with heap } }, ?_, h.context, ?_⟩
  · change ((Engine.toHosted ty raw s.engine).mapState fun engine => { s with engine }) = _
    rw [Engine.toHosted, Op.transition, hengine]
    rfl
  · rw [← h.surroundings]
    rfl

/-- Marshaling a value changes native memory. -/
theorem toForeign (h : s.At number c v) {ty : ForeignType} {value : Value} {p : Passed}
    (hp : Marshal.passed v.heap ty value = .ok p) :
    ∃ s', inside.run (Engine.toForeign ty value) s = .done (Marshal.place v.memory p).1 s' ∧
      s'.At number c { v with memory := (Marshal.place v.memory p).2 } := by
  have hengine : Marshal.toForeign s.engine.heap s.engine.memory ty value =
      .ok (Marshal.place v.memory p) := by
    rw [← h.surroundings] at hp ⊢
    rw [Marshal.toForeign]
    change (Marshal.passed s.surroundings.heap ty value).map _ = _
    rw [hp]
    rfl
  refine ⟨{ s with engine := { s.engine with memory := (Marshal.place v.memory p).2 } }, ?_,
    h.context, ?_⟩
  · change ((Engine.toForeign ty value s.engine).mapState fun engine => { s with engine }) = _
    rw [Engine.toForeign, Op.transition, hengine]
    rfl
  · rw [← h.surroundings]
    rfl

/-- Building a call changes native memory. -/
theorem buildCall (h : s.At number c v) {signature : Signature} {args : List Value}
    {prepared b : CallBuilder}
    (hprepare : CallBuilder.prepare signature (.create .host) = .done () prepared)
    (hpush : CallBuilder.pushArgs v.heap v.memory args prepared = .done () b) :
    ∃ s', inside.run (Engine.buildCall signature args) s = .done b s' ∧
      s'.At number c { v with memory := b.memoryIn v.memory } := by
  have hengine : CallBuilder.pushArgs s.engine.heap s.engine.memory args prepared =
      .done () b := by
    rw [← h.surroundings] at hpush
    exact hpush
  refine ⟨{ s with engine := { s.engine with memory := b.memoryIn v.memory } }, ?_, h.context, ?_⟩
  · change ((Engine.buildCall signature args s.engine).mapState fun engine => { s with engine }) = _
    rw [Engine.buildCall, Op.bind_of_done hprepare, hengine, ← h.surroundings]
    rfl
  · rw [← h.surroundings]
    rfl

end At

/-! ## Calling hosted code -/

/-- What is done on a context once a callee has ended: its frame is closed, and pending interrupts
are delivered. -/
def leave (number : Nat) (f : Frame) (o : Outcome Session EngineError Nat) :
    Outcome Session EngineError Nat :=
  (o.always ((within number).run (Context.closeFrame f))).andThen fun count => do
    (within number).safePoint
    return count

/-- A call that finds room runs its callee on a frame that holds the arguments. -/
theorem At.funcall (h : s.At number c v) (hquiet : c.guard.pending.Encodes ∅) {args : List Value}
    (hlimit : args.length ≤ c.callArgumentsLimit)
    (hsized : c.smallCallThreshold ≤ c.values.capacity) (hroom : c.HasRoom args.length 1) :
    ∃ f c' s', c.Entered args f c' ∧ s'.At number c' v ∧
      ∀ callee, (within number).funcall callee args s = leave number f (callee f s') := by
  obtain ⟨s₁, hpoint, h₁⟩ := h.safePoint (Context.safePoint_idle hquiet (.inr rfl))
  obtain ⟨f, opened, active, hopen, hactivate, hentered⟩ :=
    Context.exists_entered hlimit hsized hroom
  obtain ⟨s₂, hframe, h₂⟩ := h₁.frame hopen
  obtain ⟨s₃, hactive, h₃⟩ := h₂.frame hactivate
  refine ⟨f, _, s₃, hentered, h₃, fun callee => ?_⟩
  have happly : (within number).apply callee f s₂ = leave number f (callee f s₃) := by
    rw [Within.apply, Op.bind_eq_andThen, Op.thenAlways_eq_always, Op.bind_of_done hactive]
    rfl
  rw [Within.funcall, Op.bind_of_done hpoint, Op.bind_of_done hframe, happly]

/-- A callee that is done and has left its frame the innermost one is left. -/
theorem At.leave (h : s.At number c v) {f : Frame} {outer : List Nat}
    (hserials : c.serials = outer ++ [f.serial]) (hindex : f.index = outer.length)
    (hquiet : c.guard.pending.Encodes ∅) (count : Nat) :
    ∃ c' s', Session.leave number f (.done count s) = .done count s' ∧ c.Left outer c' ∧
      s'.At number c' v := by
  obtain ⟨closed, final, hclose, hpoint, hleft⟩ :=
    Context.exists_left (ε := EngineError) hserials hindex hquiet
  obtain ⟨s₁, hclosed, h₁⟩ := h.onContext hclose
  obtain ⟨s₂, hpassed, h₂⟩ := h₁.safePoint hpoint
  refine ⟨_, s₂, ?_, hleft, h₂⟩
  rw [Session.leave, Outcome.always_of_done hclosed]
  change ((within number).safePoint >>= fun _ => pure count) s₁ = _
  rw [Op.bind_of_done hpassed]
  rfl

/-- A callee that is done and has not left its frame the innermost one stops the engine. -/
theorem At.leave_fatal (h : s.At number c v) {f : Frame} (hother : ¬ c.Innermost f) (count : Nat) :
    ∃ message s', Session.leave number f (.done count s) = .fatal message s' := by
  obtain ⟨message, hclose⟩ := Context.closeFrame_fatal (ε := EngineError) hother
  refine ⟨message, { s with engine := s.engine.putContext number c }, ?_⟩
  have hclosed : (within number).run (Context.closeFrame f) s =
      .fatal message { s with engine := s.engine.putContext number c } := by
    change ((Engine.onContext number _ s.engine).mapState fun engine => { s with engine }) = _
    rw [Engine.onContext, h.context]
    dsimp only
    rw [hclose]
    rfl
  unfold Session.leave Outcome.always Op.thenAlways
  dsimp only
  rw [hclosed]
  rfl

/-! ## Calling native code -/

/-- A built call keeps what native code has returned. -/
def executed (ret : ForeignType) (b : CallBuilder) (o : Outcome Session EngineError Scalar) :
    Outcome Session EngineError (Scalar × CallBuilder) :=
  o.andThen fun result => pure (.ofWord ret.kind result.toWord, b.setOutput ret result)

/-- The result of a built call becomes the one reported value. -/
def reportResult (number : Nat) : Scalar × CallBuilder → SessionOp Nat
  | (_, b) => do
    let result ← inside.run (Engine.toHosted b.returnType b.output)
    ForeignFunction.report inside number result

/-- What a foreign function does once native code has ended: the foreign call is left, interrupts
are enabled again, and the result is reported. -/
def conclude (number : Nat) (ret : ForeignType) (b : CallBuilder)
    (o : Outcome Session EngineError Scalar) : Outcome Session EngineError Nat :=
  (((executed ret b o).always
      (inside.run (Op.modify fun e => { e with entered := e.entered.drop 1 }))).always
    ((within number).run (Op.modify Context.enableInterrupts))).andThen (reportResult number)

/-- The context of a foreign call while native code runs. -/
def native (c : Context) : Context := { c.disableInterrupts with journal := [] }

/-- A foreign function on a frame with its arguments passes the scalars they are marshaled to to
native code. -/
theorem At.invoke (h : s.At number c v) {function : ForeignFunction} {frame : Frame}
    {args : List Value} (hargc : frame.argc = function.signature.params.length)
    (hargs : c.args frame = .ok args) {prepared : CallBuilder}
    (hprepare : CallBuilder.prepare function.signature (.create .host) = .done () prepared)
    (hplain : function.signature.variadicFrom = none)
    (hfits : function.signature.imageSize ≤ imageLimit) {natives : List Scalar} {memory : Memory}
    (hpasses : Marshal.Passes v.heap v.memory function.signature.params args natives memory) :
    ∃ b s', b.Filled function.signature natives ∧
      s'.At number (native c) { v with memory, entered := number :: v.entered } ∧
      ∀ code, function.invoke inside code number frame s =
        conclude number function.signature.ret b (code function.entry natives s') := by
  have hempty : prepared.memoryIn v.memory = v.memory := by
    rw [CallBuilder.prepare_done hprepare]
    rfl
  rw [← hempty] at hpasses
  obtain ⟨b, hpush, rfl, hfilled⟩ :=
    (CallBuilder.Filled.ofPrepare hprepare).pushArgs hplain hfits hpasses rfl
  have hlength : natives.length = function.signature.params.length := hpasses.length_natives
  have hreads : (Op.read (·.args frame) : ContextOp FrameError (List Value)) c = .done args c := by
    rw [Op.read, hargs]
  have hdisables : (Op.modify Context.disableInterrupts : ContextOp EngineError Unit)
      { c with journal := [] } = .done () { c with journal := [] }.disableInterrupts := rfl
  obtain ⟨s₁, hread, h₁⟩ := h.frame hreads
  obtain ⟨s₂, hbuild, h₂⟩ := h₁.buildCall hprepare hpush
  obtain ⟨s₃, hrecord, h₃⟩ := h₂.record (.foreignCall function.name args.length)
  obtain ⟨s₄, hdisable, h₄⟩ := h₃.onContext hdisables
  obtain ⟨s₅, henter, h₅⟩ := h₄.enter (number :: ·)
  refine ⟨b, s₅, hfilled, h₅, fun code => ?_⟩
  have hentering : inside.entering number
      ((CallBuilder.execute .foreign function.signature.ret (code function.entry)).beside b) s₄ =
      (executed function.signature.ret b (code function.entry natives s₅)).always
        (inside.run (Op.modify fun e => { e with entered := e.entered.drop 1 })) := by
    rw [Inside.entering, Op.bind_of_done henter, Op.thenAlways_eq_always,
      CallBuilder.execute_beside_of_done (hfilled.takeArguments hplain hlength)]
    rfl
  have hregion : (within number).withoutInterrupts (inside.entering number
      ((CallBuilder.execute .foreign function.signature.ret (code function.entry)).beside b)) s₃ =
      ((executed function.signature.ret b (code function.entry natives s₅)).always
        (inside.run (Op.modify fun e => { e with entered := e.entered.drop 1 }))).always
        ((within number).run (Op.modify Context.enableInterrupts)) := by
    rw [Within.withoutInterrupts, Op.bind_of_done hdisable, Op.thenAlways_eq_always, hentering]
  have hwithin : inside.context number = within number := rfl
  unfold ForeignFunction.invoke
  dsimp only
  rw [if_neg (not_not.mpr hargc), hwithin, Op.bind_of_done hread, Op.bind_of_done hbuild,
    Op.bind_of_done hrecord, Op.bind_eq_andThen, hregion]
  rfl

/-- What native code returns becomes the one reported value. -/
theorem At.conclude (h : s.At number c v) {signature : Signature} {natives : List Scalar}
    {b : CallBuilder} (hfilled : b.Filled signature natives) {result : Scalar}
    (hkind : result.kind = signature.ret.kind) {value : Value} {heap : Heap}
    (hback : Marshal.toHosted v.heap v.memory signature.ret result = .ok (some value, heap)) :
    ∃ c' s', Session.conclude number signature.ret b (.done result s) = .done 1 s' ∧
      s'.At number c' { v with heap, entered := v.entered.drop 1 } ∧
      c'.values = c.values.setSingle value ∧ c'.serials = c.serials ∧
      c'.guard.pending = c.guard.pending := by
  have hreturn : (b.setOutput signature.ret result).returnType = signature.ret := by
    change (b.prepared.map (·.signature.ret)).getD .void = _
    rw [hfilled.building.prepared]
    rfl
  have houtput : (b.setOutput signature.ret result).output = result := by
    change Scalar.ofWord signature.ret.kind result.toWord = result
    rw [← hkind, Scalar.ofWord_toWord]
  have henables : (Op.modify Context.enableInterrupts : ContextOp EngineError Unit) c =
      .done () c.enableInterrupts := rfl
  obtain ⟨s₁, hleave, h₁⟩ := h.enter (·.drop 1)
  obtain ⟨s₂, henable, h₂⟩ := h₁.onContext henables
  obtain ⟨s₃, hhosted, h₃⟩ := h₂.toHosted hback
  have hsets : (Context.setValue value : ContextOp EngineError Nat)
      { c.enableInterrupts with journal := [] } = .done 1 { c.enableInterrupts with
        values := c.values.setSingle value
        journal := [] } := rfl
  obtain ⟨s₄, hset, h₄⟩ := h₃.onContext hsets
  refine ⟨_, s₄, ?_, h₄, rfl, rfl, rfl⟩
  have hexecuted : executed signature.ret b (.done result s) =
      .done (.ofWord signature.ret.kind result.toWord, b.setOutput signature.ret result) s := rfl
  rw [Session.conclude, hexecuted, Outcome.always_of_done hleave, Outcome.always_of_done henable]
  change (inside.run (Engine.toHosted (b.setOutput signature.ret result).returnType
    (b.setOutput signature.ret result).output) >>= ForeignFunction.report inside number) s₂ = _
  rw [hreturn, houtput, Op.bind_of_done hhosted]
  exact hset

/-! ## Calling back -/

/-- What native code is to get from a callback: the primary value of its callee. -/
def fetch (number : Nat) (ret : ForeignType) : SessionOp Scalar :=
  if ret = .void then return .void
  else do
    let primary ← (within number).run (Op.gets (·.values.primary))
    inside.run (Engine.toForeign ret primary)

/-- What native code gets from a callback that has ended, with the error if it failed. -/
def settle (callback : Callback) :
    Except EngineError Scalar → SessionOp (Scalar × Option EngineError)
  | .ok result => return (result, none)
  | .error error => callback.failed inside error

/-- The error of a trampoline is kept. -/
def keepError (index : Nat) (answer : Scalar × Option EngineError) : SessionOp Scalar := do
  if answer.2.isSome then
    Op.modify fun s =>
      { s with
        trampolines := s.trampolines.modify index fun t => { t with lastError := answer.2 } }
  return answer.1

/-- What a trampoline does once its callee has ended. -/
def answer (number index : Nat) (callback : Callback) (f : Frame)
    (o : Outcome Session EngineError Nat) : Outcome Session EngineError Scalar :=
  (((leave number f o).andThen fun _ => fetch number callback.signature.ret).attempted.andThen
    (settle callback)).andThen (keepError index)

/-- Arguments that mean the same, by the types they were passed as. -/
def SameArguments (heap heap' : Heap) (types : List ForeignType) (args values : List Value) : Prop :=
  List.Forall₂ (fun declared value => Marshal.Same heap heap' declared.1 declared.2 value)
    (types.zip args) values

/-- Native code was handed the scalars that arguments were passed as. Since then, the heap has only
grown and native memory has kept the copies of strings. There is room for the values that the
scalars are marshaled back to. -/
structure Handed (heap : Heap) (types : List ForeignType) (args : List Value)
    (natives : List Scalar) (v : Surroundings) : Prop where
  passes : ∃ memory memory', Marshal.Passes heap memory types args natives memory' ∧
    memory'.Grows v.memory
  accepts : List.Forall₂ (Marshal.Accepts heap) types args
  types : .float ∉ types
  grows : heap.Grows v.heap
  limit : v.heap.limit = none
  objects : v.heap.objects.size + args.length ≤ 2 ^ 64
  memory : v.memory.nextAddress ≤ 2 ^ 64

/-- The scalars that arguments were passed as are marshaled back to arguments that mean the same.
The induction is over the arguments, each of which may add an object to the heap. -/
theorem At.decode (h : s.At number c v) {heap : Heap} {types : List ForeignType}
    {args : List Value} {natives : List Scalar} (hhanded : Handed heap types args natives v) :
    ∃ values heap' s', Callback.decode inside types natives s = .done values s' ∧
      s'.At number c { v with heap := heap' } ∧ v.heap.Grows heap' ∧
      heap'.objects.size ≤ v.heap.objects.size + args.length ∧
      SameArguments heap heap' types args values := by
  obtain ⟨memory, memory', hpasses, hkept⟩ := hhanded.passes
  induction hpasses generalizing s v with
  | nil => exact ⟨[], v.heap, s, rfl, h, .refl _, Nat.le_refl _, .nil⟩
  | @cons memory memory' ty types value args p natives hp hrest ih =>
    obtain ⟨haccept, haccepts⟩ := List.forall₂_cons.mp hhanded.accepts
    obtain ⟨hty, htypes⟩ := not_or.mp (List.mem_cons.not.mp hhanded.types)
    have hsize := hhanded.objects
    rw [List.length_cons] at hsize
    obtain ⟨value', heap₁, hback, hgrows, hcount, hsame⟩ := Marshal.crosses (Ne.symm hty) haccept hp
      hhanded.grows hhanded.limit (by omega) (hrest.grows.trans hkept) hhanded.memory
    obtain ⟨s₁, hhosted, h₁⟩ := h.toHosted hback
    have hhanded₁ : Handed heap types args natives { v with heap := heap₁ } := {
      passes := ⟨_, memory', hrest, hkept⟩
      accepts := haccepts
      types := htypes
      grows := hhanded.grows.trans hgrows
      limit := hgrows.limit.trans hhanded.limit
      objects := show heap₁.objects.size + _ ≤ _ by omega
      memory := hhanded.memory }
    obtain ⟨values, heap₂, s₂, hdecode, h₂, hgrows₂, hcount₂, hvalues⟩ := ih h₁ hhanded₁ hkept
    have hcount₂ : heap₂.objects.size ≤ heap₁.objects.size + args.length := hcount₂
    refine ⟨value' :: values, heap₂, s₂, ?_, h₂, hgrows.trans hgrows₂,
      by rw [List.length_cons]; omega, .cons (hsame.grows hgrows₂) hvalues⟩
    have hword : Scalar.ofWord ty.kind (Marshal.place memory p).1.toWord =
        (Marshal.place memory p).1 := by
      rw [← Marshal.kind_place hp memory, Scalar.ofWord_toWord]
    change (inside.run (Engine.toHosted ty (Scalar.ofWord ty.kind
      (Marshal.place memory p).1.toWord)) >>= fun value => _) s = _
    rw [hword, Op.bind_of_done hhosted]
    change (Callback.decode inside types natives >>= fun values => pure (value' :: values)) s₁ = _
    rw [Op.bind_of_done hdecode]
    rfl

/-- The frame of a callee holds arguments that mean the same as those that were passed, each of
which may be a new object. -/
def Receives (heap : Heap) (types : List ForeignType) (args : List Value) (number : Nat)
    (c : Context) (v : Surroundings) (f : Frame) (c' : Context) (s' : Session) : Prop :=
  ∃ values heap', c.Entered values f c' ∧ values.length = args.length ∧
    s'.At number c' { v with heap := heap' } ∧ v.heap.Grows heap' ∧
    heap'.objects.size ≤ v.heap.objects.size + args.length ∧
    SameArguments heap heap' types args values

section

variable {heap : Heap} {args : List Value} {natives : List Scalar}

/-- A callback runs its callee on a frame with the arguments that native code passes. -/
theorem At.perform (h : s.At number c v) {callback : Callback}
    (hhanded : Handed heap callback.signature.params args natives v)
    (hquiet : c.guard.pending.Encodes ∅) (hfits : args.length ≤ c.callArgumentsLimit)
    (hsized : c.smallCallThreshold ≤ c.values.capacity) (hroom : c.HasRoom args.length 1) :
    ∃ f c' s', Receives heap callback.signature.params args number c v f c' s' ∧
      ∀ callee, callback.perform inside callee number natives s =
        (Session.leave number f (callee f s')).andThen fun _ =>
          fetch number callback.signature.ret := by
  obtain ⟨values, heap', s₁, hdecode, h₁, hgrows, hsize, hvalues⟩ := h.decode hhanded
  have hcount : values.length = args.length := by
    have hzip := hvalues.length_eq
    rw [List.length_zip, hhanded.accepts.length_eq, Nat.min_self] at hzip
    exact hzip.symm
  obtain ⟨s₂, hrecord, h₂⟩ := h₁.record (.callbackInvoked callback.label)
  rw [← hcount] at hfits hroom
  obtain ⟨f, c', s₃, hentered, h₃, hcall⟩ := h₂.funcall hquiet hfits hsized hroom
  refine ⟨f, c', s₃, ⟨values, heap', hentered, hcount, h₃, hgrows, hsize, hvalues⟩,
    fun callee => ?_⟩
  have hwithin : inside.context number = within number := rfl
  unfold Callback.perform
  rw [Op.bind_of_done hdecode, Op.bind_of_done hrecord, Op.bind_eq_andThen, hwithin, hcall]
  rfl

/-- The code of a trampoline of this signature runs its callee on a frame with the arguments that
native code passes, on the context of the innermost foreign call. -/
theorem At.callCode (h : s.At number c v) {entry : EntryPoint} {index : Nat} {t : Trampoline}
    (hcode : Code.ofAddress? v.codeOrigin entry = some (.trampoline index))
    (htrampoline : v.trampolines[index]? = some t) (hentered : v.entered.head? = some number)
    (hhanded : Handed heap t.callback.signature.params args natives v)
    (hquiet : c.guard.pending.Encodes ∅) (hfits : args.length ≤ c.callArgumentsLimit)
    (hsized : c.smallCallThreshold ≤ c.values.capacity) (hroom : c.HasRoom args.length 1) :
    ∃ f c' s', Receives heap t.callback.signature.params args number c v f c' s' ∧
      ∀ invoke, callCode invoke entry natives s =
        answer number index t.callback f (invoke number t.callee f s') := by
  obtain ⟨f, c', s', hreceives, hperform⟩ := h.perform hhanded hquiet hfits hsized hroom
  refine ⟨f, c', s', hreceives, fun invoke => ?_⟩
  have hsurroundings := h.surroundings
  subst hsurroundings
  have hhead : s.engine.entered.head? = some number := hentered
  have htable : s.trampolines[index]? = some t := htrampoline
  have horigin : Code.ofAddress? s.engine.codeOrigin entry = some (.trampoline index) := hcode
  have hgets : inside.run (Op.gets (·.entered)) s = .done s.engine.entered s := rfl
  have hget : (Op.get : SessionOp Session) s = .done s s := rfl
  have hrun : t.callback.run inside (fun number => invoke number t.callee) natives s =
      ((Session.leave number f (invoke number t.callee f s')).andThen fun _ =>
        fetch number t.callback.signature.ret).attempted.andThen (settle t.callback) := by
    unfold Callback.run
    rw [Op.bind_of_done hgets, hhead]
    dsimp only
    rw [Op.bind_eq_andThen, Op.attempt_eq_attempted, hperform]
    refine congrArg (Outcome.andThen _) (funext fun answer => ?_)
    cases answer <;> rfl
  have htrampoline : runTrampoline invoke index natives s =
      Session.answer number index t.callback f (invoke number t.callee f s') := by
    unfold runTrampoline
    rw [Op.bind_of_done hget, htable]
    dsimp only
    rw [Op.bind_eq_andThen, hrun]
    rfl
  unfold Session.callCode
  rw [Op.bind_of_done hget, horigin]
  exact htrampoline

end

/-- Native code gets the primary value of a callee that is done, and no error is kept. -/
theorem At.answer (h : s.At number c v) {f : Frame} {outer : List Nat}
    (hserials : c.serials = outer ++ [f.serial]) (hindex : f.index = outer.length)
    (hquiet : c.guard.pending.Encodes ∅) {callback : Callback}
    (hvoid : callback.signature.ret ≠ .void) {p : Passed}
    (hp : Marshal.passed v.heap callback.signature.ret c.values.primary = .ok p)
    (index count : Nat) :
    ∃ c' s', Session.answer number index callback f (.done count s) =
        .done (Marshal.place v.memory p).1 s' ∧ c.Left outer c' ∧
      s'.At number c' { v with memory := (Marshal.place v.memory p).2 } := by
  obtain ⟨c₁, s₁, hleave, hleft, h₁⟩ := h.leave hserials hindex hquiet count
  have hgets : (Op.gets (·.values.primary) : ContextOp EngineError Value) c₁ =
      .done c.values.primary c₁ := by
    rw [← hleft.values]
    rfl
  obtain ⟨s₂, hprimary, h₂⟩ := h₁.onContext hgets
  obtain ⟨s₃, hforeign, h₃⟩ := h₂.toForeign hp
  refine ⟨{ c₁ with journal := [] }, s₃, ?_, ⟨hleft.serials, hleft.values, hleft.pending⟩, h₃⟩
  have hfetch : fetch number callback.signature.ret s₁ =
      .done (Marshal.place v.memory p).1 s₃ := by
    rw [fetch, if_neg hvoid, Op.bind_of_done hprimary, hforeign]
  rw [Session.answer, hleave]
  change ((fetch number callback.signature.ret s₁).attempted.andThen (settle callback)).andThen
    (keepError index) = _
  rw [hfetch]
  rfl

end Session

end Script

end CallEngine
