import CallEngine.Proofs.CourseEffects

/-!
# Failures of callbacks are contained

Errors cannot pass through native code. When a callback fails, native code gets a zero and goes on.
The failure is recorded, and its trampoline keeps the error until somebody takes it.

Callbacks run inside of foreign calls, and foreign calls inside of callbacks, on whatever context is
at hand. What courses tend to decides the ways in which a call of a trampoline can end, and what it
leaves behind on the context that it has run on.
-/

namespace CallEngine

namespace Script

namespace Chronicle

variable {s s' : Chronicle} {α : Type} {number index : Nat} {c : Context} {t : Trampoline}

/-! ## Contexts that are restored -/

/-- A context is alive, with the chain of frames, the top of the operand stack and the regions that
`c` has. -/
def Restores (number : Nat) (c : Context) (s : Chronicle) : Prop :=
  ∃ c', s.engine.context? number = some c' ∧ c.Restored c'

/-- A context that is put back is restored. -/
theorem Restores.put (hc : s.engine.context? number = some c) {c₀ c' : Context}
    (h : c₀.Restored c') : Restores number c₀ (s.put number c') :=
  ⟨_, context?_put hc c', h.chain, h.top, h.disabled⟩

/-- A context is restored after an operation that restores it. -/
theorem Restores.run {op : ContextOp EngineError α} (h : Restores number c s)
    (hop : ∀ c, (op c).Settles c.Restored) :
    ((aboard.inside.context number).run op s).Settles (Restores number c) := by
  obtain ⟨c₁, hc₁, hrestored⟩ := h
  rw [run_context hc₁]
  exact Outcome.settles_mapState.mpr ((hop c₁).imp fun c₂ h₂ => .put hc₁ (hrestored.trans h₂))

/-- A safe point restores a context. -/
theorem Restores.safePoint (h : Restores number c s) :
    ((aboard.inside.context number).safePoint s).Settles (Restores number c) :=
  h.run fun c => Op.settles_mapError.mpr (c.safePoint_quiet.imp fun _ => .quiet)

/-- Whatever hosted code does, a call of it restores a context on which a region is open. -/
theorem Restores.funcall {callee : Frame → Op Chronicle EngineError Nat}
    (hcallee : ∀ f s, (callee f s).Settles (Tends s)) (h : Restores number c s)
    (hopen : c.guard.disabled ≠ 0) (args : List Value) :
    ((aboard.inside.context number).funcall callee args s).Settles (Restores number c) := by
  refine Op.settles_bind_of_keeps h.safePoint fun _ s₁ h₁ => ?_
  obtain ⟨c₁, hc₁, hrestored⟩ := h₁
  rw [Op.bind_apply]
  rcases openFrameWith_cases hc₁ args with ⟨f, c₂, hdone, hopened⟩ | ⟨error, c₂, hfailed, hquiet⟩ |
    ⟨message, s', hfatal⟩
  · rw [hdone]
    have hbody := Tends.bind (Tends.onContext number (.activate f) (s₁.put number c₂))
      fun _ s' => hcallee f s'
    refine Op.settles_bind_of_keeps (Op.settles_thenAlways.mpr (hbody.imp fun s₃ h₃ => ?_))
      fun _ _ h₄ => Op.settles_bind_of_keeps h₄.safePoint fun _ _ h₅ => h₅
    -- The region keeps the context alive, whatever was called.
    have hc₂ := context?_put hc₁ c₂
    have hfate := h₃.carries.fate number (Engine.lt_size_of_context? hc₂)
    rw [hc₂] at hfate
    have hstill : c₂.guard.disabled ≠ 0 := by
      rw [hopened.disabled, hrestored.disabled]
      exact hopen
    obtain ⟨c₃, hc₃, hupholds, hdisabled⟩ := hfate.of_open hstill
    have hput : c₂.Upholds { c₂ with journal := [] } := .same rfl rfl rfl
    have hclosed := hopened.closeFrame (ε := EngineError) (hput.trans hupholds) hdisabled
    rw [run_context hc₃]
    exact Outcome.settles_mapState.mpr (hclosed.imp fun c₄ h₄ => .put hc₃ (hrestored.trans h₄))
  · rw [hfailed]
    exact .put hc₁ (hrestored.trans (.quiet hquiet))
  · rw [hfatal]
    trivial

/-! ## Callbacks -/

/-- A context is restored by what has nothing to do with contexts. -/
theorem Restores.marshal {op : EngineOp α} (h : Restores number c s)
    (hop : ∀ e, (op e).Settles e.Marshals) :
    (aboard.inside.run op s).Settles (Restores number c) := by
  rw [run_engine]
  apply Outcome.settles_mapState.mpr
  apply (hop s.engine).imp
  rintro e' ⟨heap, memory, added, _, _, rfl⟩
  exact h

/-- A context is restored when the arguments of a callback are marshaled. -/
theorem Restores.decode (h : Restores number c s) (types : List ForeignType)
    (args : List Scalar) :
    (Callback.decode aboard.inside types args s).Settles (Restores number c) := by
  induction types generalizing args s with
  | nil => exact h
  | cons ty types ih =>
    apply Op.settles_bind_of_keeps (h.marshal (Engine.toHosted_marshals _ _))
    intro value s₁ h₁
    apply Op.settles_bind_of_keeps (ih h₁ _)
    intro values s₂ h₂
    exact h₂

/-- The hosted call of a callback: arguments are marshaled, then hosted code is called with them. -/
def hostedCall (callback : Callback) (callee : Frame → Op Chronicle EngineError Nat) (number : Nat)
    (args : List Scalar) : Op Chronicle EngineError Nat := do
  let values ← Callback.decode aboard.inside callback.signature.params args
  aboard.inside.run (Engine.record (.callbackInvoked callback.label))
  (aboard.inside.context number).funcall callee values

/-- A callback is its hosted call, after which the primary value is marshaled. -/
theorem perform_eq (callback : Callback) (callee : Frame → Op Chronicle EngineError Nat)
    (number : Nat) (args : List Scalar) (s : Chronicle) :
    callback.perform aboard.inside callee number args s =
      (do
        let _ ← hostedCall callback callee number args
        if callback.signature.ret = .void then return .void
        let primary ← (aboard.inside.context number).run (Op.gets (·.values.primary))
        aboard.inside.run (Engine.toForeign callback.signature.ret primary) :
          Op Chronicle EngineError Scalar) s := by
  simp only [Callback.perform, hostedCall, Op.bind_apply]
  cases Callback.decode aboard.inside callback.signature.params args s with
  | done values s₁ =>
    dsimp only
    cases aboard.inside.run (Engine.record (.callbackInvoked callback.label)) s₁ <;> rfl
  | failed error s₁ => rfl
  | fatal message s₁ => rfl

section

variable {callee : Frame → Op Chronicle EngineError Nat}

/-- The hosted call of a callback tends to what hosted code tends to. -/
theorem hostedCall_tends (hcallee : ∀ f s, (callee f s).Settles (Tends s)) (callback : Callback)
    (number : Nat) (args : List Scalar) (s : Chronicle) :
    (hostedCall callback callee number args s).Settles (Tends s) := by
  apply Tends.bind (habit.decode _ args s)
  intro values s₁
  apply Tends.bind (habit.marshal (Engine.record_marshals rfl) s₁)
  intro _ s₂
  exact funcall_tends hcallee number values s₂

/-- The hosted call of a callback restores a context on which a region is open. -/
theorem Restores.hostedCall (hcallee : ∀ f s, (callee f s).Settles (Tends s))
    (h : Restores number c s) (hopen : c.guard.disabled ≠ 0) (callback : Callback)
    (args : List Scalar) :
    (Chronicle.hostedCall callback callee number args s).Settles (Restores number c) := by
  apply Op.settles_bind_of_keeps (h.decode _ args)
  intro values s₁ h₁
  apply Op.settles_bind_of_keeps (h₁.marshal (Engine.record_marshals rfl))
  intro _ s₂ h₂
  exact h₂.funcall hcallee hopen values

/-- A callback restores the context of the foreign call that it runs in, however it ends. -/
theorem Restores.perform (hcallee : ∀ f s, (callee f s).Settles (Tends s))
    (h : Restores number c s) (hopen : c.guard.disabled ≠ 0) (callback : Callback)
    (args : List Scalar) :
    (callback.perform aboard.inside callee number args s).Settles (Restores number c) := by
  rw [perform_eq]
  apply Op.settles_bind_of_keeps (h.hostedCall hcallee hopen callback args)
  intro count s₁ h₁
  by_cases hvoid : callback.signature.ret = .void
  · rw [if_pos hvoid]
    exact h₁
  · rw [if_neg hvoid]
    have hread (c : Context) :
        ((Op.gets (·.values.primary) : ContextOp EngineError Value) c).Settles c.Restored := .refl c
    apply Op.settles_bind_of_keeps (h₁.run hread)
    intro primary s₂ h₂
    exact h₂.marshal (Engine.toForeign_marshals _ primary)

end

/-- The ways in which a callback can end on a context: its arguments cannot be marshaled or the
hosted call fails, there is nothing to give back, the primary value cannot be marshaled, or it is
given back. -/
inductive Performs (callback : Callback) (callee : Frame → Op Chronicle EngineError Nat)
    (number : Nat) (args : List Scalar) (s : Chronicle) :
    Except EngineError Scalar → Chronicle → Prop
  | uncalled {error : EngineError} {s' : Chronicle}
    (hcalled : hostedCall callback callee number args s = .failed error s') :
    Performs callback callee number args s (.error error) s'
  | void {count : Nat} {s' : Chronicle}
    (hcalled : hostedCall callback callee number args s = .done count s')
    (hvoid : callback.signature.ret = .void) :
    Performs callback callee number args s (.ok .void) s'
  | unmarshaled {count : Nat} {s' : Chronicle} {c : Context} {error : MarshalError}
    (hcalled : hostedCall callback callee number args s = .done count s')
    (hvalue : callback.signature.ret ≠ .void) (hc : s'.engine.context? number = some c)
    (hmarshaled : Marshal.toForeign s'.engine.heap s'.engine.memory callback.signature.ret
      c.values.primary = .error error) :
    Performs callback callee number args s (.error (.marshal error)) s'
  | marshaled {count : Nat} {s' : Chronicle} {c : Context} {result : Scalar} {memory : Memory}
    (hcalled : hostedCall callback callee number args s = .done count s')
    (hvalue : callback.signature.ret ≠ .void) (hc : s'.engine.context? number = some c)
    (hmarshaled : Marshal.toForeign s'.engine.heap s'.engine.memory callback.signature.ret
      c.values.primary = .ok (result, memory)) :
    Performs callback callee number args s (.ok result) (s'.withEngine { s'.engine with memory })

/-- A context that is put back unchanged changes nothing, if its events were collected. -/
theorem put_self (h : s.Sound) (hc : s.engine.context? number = some c) : s.put number c = s := by
  have hjournal := h.collected number c hc
  have hsame : ({ c with journal := [] } : Context) = c := by rw [← hjournal]
  have hcontexts : s.engine.contexts.setIfInBounds number (some c) = s.engine.contexts := by
    rw [Engine.context?, Option.join_eq_some_iff] at hc
    obtain ⟨hlt, hget⟩ := Array.getElem?_eq_some_iff.mp hc
    rw [Array.setIfInBounds, dif_pos hlt, ← hget, Array.set_getElem_self]
  rw [put, Engine.putContext_eq, hsame, hcontexts, hjournal, List.nil_append, ite_self]
  rfl

/-- Reading off a context changes nothing. -/
theorem run_gets (h : s.Sound) (hc : s.engine.context? number = some c) (read : Context → α) :
    (aboard.inside.context number).run (Op.gets read) s = .done (read c) s := by
  rw [run_context hc]
  change Outcome.done (read c) (s.put number c) = _
  rw [put_self h hc]

/-- A callback that runs on a context with a region ends in one of the known ways. -/
theorem perform_cases {callee : Frame → Op Chronicle EngineError Nat}
    (hcallee : ∀ f s, (callee f s).Settles (Tends s)) (hs : s.Sound)
    (hc : s.engine.context? number = some c) (hopen : c.guard.disabled ≠ 0) (callback : Callback)
    (args : List Scalar) :
    (∃ result s', callback.perform aboard.inside callee number args s = .done result s' ∧
      Performs callback callee number args s (.ok result) s') ∨
    (∃ error s', callback.perform aboard.inside callee number args s = .failed error s' ∧
      Performs callback callee number args s (.error error) s') ∨
    ∃ message s', callback.perform aboard.inside callee number args s = .fatal message s' := by
  have hrestored : Restores number c s := ⟨c, hc, .refl c⟩
  have hhosted := (hostedCall_tends hcallee callback number args s).and
    (hrestored.hostedCall hcallee hopen callback args)
  simp only [perform_eq]
  rw [Op.bind_apply]
  cases hcalled : hostedCall callback callee number args s with
  | failed error s' => exact .inr (.inl ⟨error, s', rfl, .uncalled hcalled⟩)
  | fatal message s' => exact .inr (.inr ⟨message, s', rfl⟩)
  | done count s' =>
    rw [hcalled] at hhosted
    obtain ⟨htends, c', hc', _⟩ := hhosted
    dsimp only
    by_cases hvoid : callback.signature.ret = .void
    · rw [if_pos hvoid]
      exact .inl ⟨.void, s', rfl, .void hcalled hvoid⟩
    · rw [if_neg hvoid, Op.bind_apply, run_gets (htends.sound hs) hc']
      dsimp only
      rw [run_engine, Engine.toForeign, Op.transition]
      cases hmarshaled : Marshal.toForeign s'.engine.heap s'.engine.memory callback.signature.ret
          c'.values.primary with
      | error error =>
        exact .inr (.inl ⟨_, s', rfl, .unmarshaled hcalled hvoid hc' hmarshaled⟩)
      | ok marshaled =>
        obtain ⟨result, memory⟩ := marshaled
        exact .inl ⟨result, _, rfl, .marshaled hcalled hvoid hc' hmarshaled⟩

/-! ## Moments -/

/-- A moment at which these foreign calls are in progress, each on the context with its number, the
innermost first. A session has started, courses have run on it, and regions and foreign calls were
begun that have not ended yet. A moment in the middle of a call of hosted code is the end of
a shorter course, which has opened and activated the frame of the call and done a part of it. -/
inductive Moment : List Nat → Chronicle → Prop
  | start {machine : Machine} {settings : Settings} {files : FileSystem} {heap : Heap}
    {recording : Bool} {engine : Engine}
    (hstart : Engine.start machine settings files heap recording = .ok engine)
    {session : Session} (hengine : ∃ codeOrigin, session.engine = { engine with codeOrigin })
    (hnone : session.trampolines = #[]) : Moment [] { session }
  | played {calls : List Nat} {s : Chronicle} (hs : Moment calls s) {α : Type} (p : Course α)
    (hreturns : (p.run aboard s).isFatal = false) : Moment calls (p.run aboard s).state
  | region {calls : List Nat} {s : Chronicle} (hs : Moment calls s) {number : Nat} {c : Context}
    (hc : s.engine.context? number = some c) : Moment calls (s.opened number c)
  | call {calls : List Nat} {s : Chronicle} (hs : Moment calls s) {number : Nat} {c : Context}
    (hc : s.engine.context? number = some c) :
    Moment (number :: calls) ((s.opened number c).entered number)

/-- The foreign calls in progress are known to the engine, and a region keeps the context of each
alive. -/
structure Calling (calls : List Nat) (s : Chronicle) : Prop where
  entered : s.engine.entered = calls
  alive {number : Nat} (h : number ∈ calls) :
    ∃ c, s.engine.context? number = some c ∧ c.guard.disabled ≠ 0

/-- Foreign calls stay in progress while a course runs. -/
theorem Calling.tends {calls : List Nat} (h : Calling calls s) (htends : Tends s s') :
    Calling calls s' := by
  refine ⟨htends.carries.entered.trans h.entered, fun {number} hnumber => ?_⟩
  obtain ⟨c, hc, hopen⟩ := h.alive hnumber
  have hfate := htends.carries.fate number (Engine.lt_size_of_context? hc)
  rw [hc] at hfate
  obtain ⟨c', hc', _, hdisabled⟩ := hfate.of_open hopen
  exact ⟨c', hc', hdisabled ▸ hopen⟩

/-- Foreign calls stay in progress when a region is opened. -/
theorem Calling.opened {calls : List Nat} (h : Calling calls s)
    (hc : s.engine.context? number = some c) : Calling calls (s.opened number c) := by
  refine ⟨by simpa [Chronicle.opened] using h.entered, fun {other} hother => ?_⟩
  obtain ⟨d, hd, hopen⟩ := h.alive hother
  rw [Chronicle.opened, engine_put, Engine.context?_putContext hc]
  split
  · exact ⟨_, rfl, Nat.succ_ne_zero _⟩
  · exact ⟨d, hd, hopen⟩

/-- A foreign call is in progress once it was entered. -/
theorem Calling.called {calls : List Nat} (h : Calling calls s)
    (hc : s.engine.context? number = some c) :
    Calling (number :: calls) ((s.opened number c).entered number) := by
  have hopened := h.opened hc
  refine ⟨congrArg (number :: ·) hopened.entered, fun {other} hother => ?_⟩
  rcases List.mem_cons.mp hother with rfl | hother
  · exact ⟨_, context?_put hc c.disableInterrupts, Nat.succ_ne_zero _⟩
  · exact hopened.alive hother

/-- A session that has just started has no contexts, no trampolines and no failures. -/
theorem Sound.start {machine : Machine} {settings : Settings} {files : FileSystem} {heap : Heap}
    {recording : Bool} {e : Engine}
    (hstart : Engine.start machine settings files heap recording = .ok e) {session : Session}
    {codeOrigin : Nat} (hengine : session.engine = { e with codeOrigin })
    (hnone : session.trampolines = #[]) :
    Sound { session } ∧ Calling [] { session } := by
  obtain ⟨libraries, log, hloading, rfl⟩ := Engine.eq_of_start hstart
  have hfailures := List.filterMap_eq_nil_iff.mpr fun event hevent =>
    Event.failedCallback_of_isLoading (hloading event hevent)
  refine ⟨⟨fun number c hc => ?_, fun index => ?_, fun _ => ?_⟩, ?_, nofun⟩
  · rw [engine, hengine] at hc
    cases hc
  · rw [hnone]
    rfl
  · rw [engine, hengine]
    exact hfailures
  · rw [engine, hengine]

/-- At every moment, the tale is true and the foreign calls in progress are known. -/
theorem Moment.sound {calls : List Nat} (h : Moment calls s) : s.Sound ∧ Calling calls s := by
  induction h with
  | start hstart hengine hnone =>
    obtain ⟨codeOrigin, hengine⟩ := hengine
    exact Sound.start hstart hengine hnone
  | played _ p hreturns ih =>
    have htends := (course_tends p _).state hreturns
    exact ⟨htends.sound ih.1, ih.2.tends htends⟩
  | region _ hc ih => exact ⟨ih.1.put hc _, ih.2.opened hc⟩
  | call _ hc ih =>
    obtain ⟨hcollected, herrors, hrecorded⟩ := ih.1.put hc _
    exact ⟨⟨hcollected, herrors, hrecorded⟩, ih.2.called hc⟩

/-! ## Failures are contained -/

/-- What can be seen of trampolines at a moment: the foreign calls in progress, the errors that can
be taken, and the failures that are recorded. -/
structure Attested (calls : List Nat) (s : Chronicle) : Prop where
  entered : s.engine.entered = calls
  taken {name : String} {index : Nat} (h : s.session.trampolineIndex? name = some index) :
    Session.takeError name s.session =
      .done (.lastError (s.tale.latest index)) (s.taken index).session
  recorded (h : s.engine.recording = true) : s.engine.failures = s.tale.failures

/-- The ways in which a call of a trampoline can end. Without a foreign call in progress it fails,
and otherwise it is performed on the context of the innermost one. -/
inductive Invocation (callback : Callback) (callee : Nat → Frame → Op Chronicle EngineError Nat)
    (args : List Scalar) (s : Chronicle) :
    List Nat → Except EngineError Scalar → Chronicle → Prop
  | outside : Invocation callback callee args s [] (.error (.foreign .noContext)) s
  | inside {number : Nat} {calls : List Nat} {outcome : Except EngineError Scalar}
    {s' : Chronicle} (h : Performs callback (callee number) number args s outcome s') :
    Invocation callback callee args s (number :: calls) outcome s'

/-- What native code gets, and what is recorded and kept, once a call of a trampoline has ended and
left the chronicle `after`. -/
inductive Concludes (index : Nat) (t : Trampoline) (after : Chronicle) :
    Except EngineError Scalar → Scalar → Chronicle → Prop
  | answered {value : Scalar} {s' : Chronicle} (hsession : s'.session = after.session)
    (htale : s'.tale = .invoked index t.callback.label none :: after.tale) :
    Concludes index t after (.ok value) value s'
  | failed {error : EngineError} {s' : Chronicle}
    (hrecorded : s'.engine = after.engine.note (.callbackFailed t.callback.label error.message))
    (hkept : s'.session.trampolines[index]?.bind (·.lastError) = some error)
    (htale : s'.tale = .invoked index t.callback.label (some error) :: after.tale) :
    Concludes index t after (.error error) (.ofBits t.callback.signature.ret.kind 0) s'

/-- A chronicle is attested if its tale is true. -/
theorem Moment.attested {calls : List Nat} (h : Moment calls s) : Attested calls s := by
  obtain ⟨hsound, hcalling⟩ := h.sound
  refine ⟨hcalling.entered, fun {name index} hname => ?_, hsound.recorded⟩
  rw [(takeError_of_known hname).1, hsound.errors]

/-- A failure that was recorded and kept concludes a call. -/
theorem Concludes.ofFailed (hindex : index < s.session.trampolines.size) (error : EngineError) :
    Concludes index t s (.error error) (.ofBits t.callback.signature.ret.kind 0)
      (s.failed index t.callback.label error) := by
  refine .failed rfl ?_ rfl
  rw [Chronicle.failed, lastError_modify, if_pos rfl, Array.getElem?_eq_getElem hindex]
  rfl

/-- A context stays restored when a failure is recorded. -/
theorem Restores.failed (h : Restores number c s) (index : Nat) (label : String)
    (error : EngineError) : Restores number c (s.failed index label error) := by
  obtain ⟨c', hc', hrestored⟩ := h
  refine ⟨c', ?_, hrestored⟩
  rw [engine_failed, Engine.note_eq]
  exact hc'

/-- A call of a trampoline that ends is concluded, and has restored the context of the innermost
foreign call. -/
theorem runTrampoline_concludes {calls : List Nat} (hsound : s.Sound) (hcalling : Calling calls s)
    {callee : Nat → Target → Frame → Op Chronicle EngineError Nat}
    (hcallee : ∀ number t f s, (callee number t f s).Settles (Tends s))
    (ht : s.session.trampolines[index]? = some t) (args : List Scalar)
    (hreturns : (aboard.runTrampoline callee index args s).isFatal = false) :
    ∃ outcome after result s',
      Invocation t.callback (fun number => callee number t.callee) args s calls outcome after ∧
      aboard.runTrampoline callee index args s = .done result s' ∧
      Concludes index t after outcome result s' ∧
      ∀ number ∈ calls.head?, ∃ c, s.engine.context? number = some c ∧ Restores number c s' := by
  obtain ⟨hlt, _⟩ := Array.getElem?_eq_some_iff.mp ht
  cases calls with
  | nil =>
    refine ⟨_, s, _, _, .outside, runTrampoline_outside ht hcalling.entered args,
      .ofFailed hlt _, nofun⟩
  | cons number calls =>
    obtain ⟨c, hc, hopen⟩ := hcalling.alive List.mem_cons_self
    have hrestored : Restores number c s := ⟨c, hc, .refl c⟩
    have htends := habit.perform (hcallee number t.callee) t.callback number args s
    have hperform := hrestored.perform (hcallee number t.callee) hopen t.callback args
    have hrun := runTrampoline_inside callee ht hcalling.entered args
    rcases perform_cases (hcallee number t.callee) hsound hc hopen t.callback args with
      ⟨result, s', hdone, hperforms⟩ | ⟨error, s', hfailed, hperforms⟩ | ⟨message, s', hfatal⟩
    · rw [hdone] at hrun hperform
      refine ⟨_, s', _, _, .inside hperforms, hrun, .answered rfl rfl, fun n hn => ?_⟩
      cases hn
      exact ⟨c, hc, hperform⟩
    · rw [hfailed] at hrun hperform htends
      refine ⟨_, s', _, _, .inside hperforms, hrun,
        .ofFailed (Nat.lt_of_lt_of_le hlt htends.trampolines) error, fun n hn => ?_⟩
      cases hn
      exact ⟨c, hc, hperform.failed index _ error⟩
    · rw [hrun, hfatal] at hreturns
      cases hreturns

/-- Failures of callbacks are contained. At every moment, the error of a trampoline that can be
taken is that of the latest call that has failed since one was taken, and the failures that are
recorded are those of all calls that have failed. And whatever is called, with whatever arguments, a
call of a trampoline that ends gives native code the marshaled primary value, or a zero if anything
has failed on the way; a failure is recorded once and kept. Either way, it has run on the context of
the innermost foreign call in progress, and has left its frames, its operand stack and its regions
as they were. -/
theorem failures_contained {calls : List Nat} (hs : Moment calls s) :
    Attested calls s ∧
    ∀ (index : Nat) (t : Trampoline) (callee : Nat → Target → Frame → Course Nat)
      (args : List Scalar), s.session.trampolines[index]? = some t →
      (Session.runTrampoline (fun number t f => (callee number t f).run .itself) index args
        s.session).isFatal = false →
      ∃ outcome after result s',
        Invocation t.callback (fun number f => (callee number t.callee f).run aboard) args s calls
          outcome after ∧
        Session.runTrampoline (fun number t f => (callee number t f).run .itself) index args
          s.session = .done result s'.session ∧
        Concludes index t after outcome result s' ∧ Moment calls s' ∧
        ∀ number ∈ calls.head?, ∃ c, s.engine.context? number = some c ∧ Restores number c s' := by
  obtain ⟨hsound, hcalling⟩ := hs.sound
  refine ⟨hs.attested, fun index t callee args ht hreturns => ?_⟩
  have herases := Erases.runTrampoline (fun number t f => erases_course (callee number t f)) index
    args s
  rw [Aboard.runTrampoline_itself] at herases
  rw [← herases, Outcome.isFatal_mapState] at hreturns
  rw [← herases]
  obtain ⟨outcome, after, result, s', hinvocation, hdone, hconcludes, hrestored⟩ :=
    runTrampoline_concludes hsound hcalling (fun number t f => course_tends (callee number t f)) ht
      args hreturns
  have hplayed : (Course.trampoline index callee args fun answer _ => .finish answer).run aboard s =
      .done result s' := by
    rw [Course.run, Op.bind_apply, Op.attempt, hdone]
    rfl
  have hmoment := hs.played (.trampoline index callee args fun answer _ => .finish answer)
    (by rw [hplayed]; rfl)
  rw [hplayed] at hmoment
  refine ⟨outcome, after, result, s', hinvocation, ?_, hconcludes, hmoment, hrestored⟩
  rw [hdone]
  rfl

/-- A foreign call was begun on a context, if it is alive. -/
def begun (s : Chronicle) (number : Nat) : Chronicle :=
  match s.engine.context? number with
  | some c => (s.opened number c).entered number
  | none => s

/-- A foreign call that was begun is in progress. -/
theorem Moment.begun {calls : List Nat} (hs : Moment calls s)
    (halive : (s.engine.context? number).isSome = true) :
    Moment (number :: calls) (s.begun number) := by
  obtain ⟨c, hc⟩ := Option.isSome_iff_exists.mp halive
  simp only [Chronicle.begun, hc]
  exact hs.call hc

/-- An engine with small contexts was just started. -/
def fresh : Chronicle where
  session.engine :=
    { machine := .bounded true 0x10000000000, settings := .small
      libraries := LibraryLoader.create {} Settings.small.libraryPaths }

/-- Create two contexts, and a trampoline for a function that returns an integer. -/
def preparation : Course Unit :=
  .use .createContext fun _ _ => .use .createContext fun _ _ =>
  .use (.apart (Session.newTrampoline "t" (.names [] ":int" ":default" none)
    (.function (.mk "f" 0 none [] none))) (Session.Apart.newTrampoline _ _ _)) fun _ _ =>
  .finish (.ok ())

/-- A foreign call on the first context has led to one on the second. -/
def inner : Chronicle := (((preparation.run aboard fresh).state.begun 0).begun 1)

/-- Hosted code that calls other hosted code, which raises an interrupt and fails. -/
def failing (number : Nat) : Course Nat :=
  .funcall number (fun _ =>
    .use (.onContext number (.raiseInterrupt .user)) fun _ _ => .finish (.error .shutDown))
    [.fixnum 3] fun answer _ => .finish answer

/-- How a call of the trampoline ends there. -/
def answer : Outcome Session EngineError Scalar :=
  Session.runTrampoline (fun number _ _ => (failing number).run .itself) 0 [] inner.session

/-- Native code gets a zero, the error of the hosted code is kept, and the second context is
restored. -/
theorem failing_callback_contained :
    ∃ s', answer = .done (.ofBits .i32 0) s'.session ∧ Moment [1, 0] s' ∧
      s'.session.trampolines[0]?.bind (·.lastError) = some .shutDown ∧
      ∃ c, inner.engine.context? 1 = some c ∧ Restores 1 c s' := by
  have hstart : Engine.start (.bounded true 0x10000000000) .small {} {} true = .ok fresh.engine := rfl
  have hprepared : Moment [] (preparation.run aboard fresh).state :=
    (Moment.start hstart ⟨_, rfl⟩ rfl).played preparation (by decide +kernel)
  have hinner : Moment [1, 0] inner :=
    (hprepared.begun (by decide +kernel)).begun (by decide +kernel)
  have hmade : (inner.session.trampolines[0]?).isSome = true := by decide +kernel
  have hvalue : answer.value? = some (.ofBits .i32 0) := by decide +kernel
  have hkept : answer.state.trampolines[0]?.bind (·.lastError) = some .shutDown := by decide +kernel
  obtain ⟨t, ht⟩ := Option.isSome_iff_exists.mp hmade
  -- Said of any state, so that nothing is evaluated on the way.
  have hcontained (s : Chronicle) (hs : Moment [1, 0] s) (ht : s.session.trampolines[0]? = some t)
      (o : Outcome Session EngineError Scalar)
      (ho : Session.runTrampoline (fun number _ _ => (failing number).run .itself) 0 []
        s.session = o)
      (hvalue : o.value? = some (.ofBits .i32 0))
      (hkept : o.state.trampolines[0]?.bind (·.lastError) = some .shutDown) :
      ∃ s', o = .done (.ofBits .i32 0) s'.session ∧ Moment [1, 0] s' ∧
        s'.session.trampolines[0]?.bind (·.lastError) = some .shutDown ∧
        ∃ c, s.engine.context? 1 = some c ∧ Restores 1 c s' := by
    have hreturns : o.isFatal = false := by
      cases o with
      | fatal message s => cases hvalue
      | _ => rfl
    subst ho
    obtain ⟨outcome, after, result, s', _, hdone, _, hmoment, hrestored⟩ :=
      (failures_contained hs).2 0 t (fun number _ _ => failing number) [] ht hreturns
    rw [hdone] at hvalue hkept ⊢
    cases hvalue
    exact ⟨s', rfl, hmoment, hkept, hrestored 1 rfl⟩
  exact hcontained inner hinner ht answer rfl hvalue hkept

end Chronicle

end Script

end CallEngine
