import CallEngine.Proofs.ContextFates

/-!
# What courses tend to

Whatever a course does to a chronicle, contexts with a region stay alive, frames that stay open are
upheld, foreign calls end in the order in which they were entered, and the tale of the trampolines
stays true: a trampoline keeps the error that the tale tells of, and the failures that are recorded
are those of the tale.

This is shown by induction over the course, with one lemma for each of its steps.
-/

namespace CallEngine

namespace Script

namespace Chronicle

variable {s s' : Chronicle} {α β : Type} {number index : Nat} {c : Context} {f : Frame}
  {t : Trampoline}

/-! ## Chronicles in order -/

/-- The engine of the session. -/
def engine (s : Chronicle) : Engine := s.session.engine

/-- The same chronicle with another engine. -/
def withEngine (s : Chronicle) (engine : Engine) : Chronicle :=
  { s with session := { s.session with engine } }

/-- A context is put back. -/
def put (s : Chronicle) (number : Nat) (c : Context) : Chronicle :=
  s.withEngine (s.engine.putContext number c)

@[simp] theorem engine_put (s : Chronicle) (number : Nat) (c : Context) :
    (s.put number c).engine = s.engine.putContext number c := rfl

/-- An operation of the engine. -/
theorem run_engine (op : EngineOp α) (s : Chronicle) :
    aboard.inside.run op s = (op s.engine).mapState s.withEngine := by
  change (Outcome.mapState _ (Outcome.mapState _ (op s.engine))) = _
  cases op s.engine <;> rfl

/-- An operation of a context that is alive. -/
theorem run_context (hc : s.engine.context? number = some c) (op : ContextOp EngineError α) :
    (aboard.inside.context number).run op s = (op c).mapState (s.put number) := by
  change aboard.inside.run (Engine.onContext number op) s = _
  rw [run_engine, Engine.onContext, hc]
  dsimp only
  cases op c <;> rfl

/-- An operation of a context that is not alive is refused. -/
theorem run_unknown (hc : s.engine.context? number = none) (op : ContextOp EngineError α) :
    (aboard.inside.context number).run op s =
      .failed (.signalled s!"unknown context {number}") s := by
  change aboard.inside.run (Engine.onContext number op) s = _
  rw [run_engine, Engine.onContext, hc]
  rfl

/-- The errors that trampolines keep and the failures that are recorded are those that the tale
tells of. -/
structure Sound (s : Chronicle) : Prop where
  collected : s.engine.Collected
  errors (index : Nat) : s.session.trampolines[index]?.bind (·.lastError) = s.tale.latest index
  recorded (h : s.engine.recording = true) : s.engine.failures = s.tale.failures

/-- What every course does: contexts have their fates, trampolines stay, and the tale stays true. -/
structure Tends (s s' : Chronicle) : Prop where
  carries : s.engine.Carries s'.engine
  sound (h : s.Sound) : s'.Sound
  trampolines : s.session.trampolines.size ≤ s'.session.trampolines.size

namespace Tends

/-- Nothing has changed. -/
theorem refl (s : Chronicle) : Tends s s := ⟨.refl _, id, Nat.le_refl _⟩

/-- One after the other. -/
theorem trans {a b c : Chronicle} (hab : Tends a b) (hbc : Tends b c) : Tends a c :=
  ⟨hab.carries.trans hbc.carries, fun h => hbc.sound (hab.sound h),
    Nat.le_trans hab.trampolines hbc.trampolines⟩

/-- A sequence of operations. -/
theorem bind {x : Op Chronicle EngineError α} {g : α → Op Chronicle EngineError β}
    (hx : (x s).Settles (Tends s)) (hg : ∀ a s', (g a s').Settles (Tends s')) :
    ((x >>= g) s).Settles (Tends s) :=
  Op.settles_bind_of_keeps hx fun a s' h => (hg a s').imp fun _ => h.trans

/-- A plain use of the engine. -/
theorem ofPlain {engine : Engine} (h : s.engine.Plain engine) : Tends s (s.withEngine engine) where
  carries := h.carries
  sound hs := {
    collected := h.collected hs.collected
    errors := hs.errors
    recorded := fun hrecording =>
      (h.failures hs.collected).trans (hs.recorded (h.carries.recording ▸ hrecording)) }
  trampolines := Nat.le_refl _

/-- Plain uses of the engine. -/
theorem run {op : EngineOp α} (hop : ∀ e, (op e).Settles e.Plain) (s : Chronicle) :
    (aboard.inside.run op s).Settles (Tends s) := by
  rw [run_engine]
  exact Outcome.settles_mapState.mpr ((hop s.engine).imp fun _ h => .ofPlain h)

/-- A use of a context. -/
theorem onContext (number : Nat) (u : ContextUse α) (s : Chronicle) :
    ((aboard.inside.context number).run u.fairOp s).Settles (Tends s) :=
  run (Engine.Plain.onContext u.minds number) s

end Tends

/-! ## Regions and foreign calls -/

/-- A region without interrupts was opened on a context. -/
def opened (s : Chronicle) (number : Nat) (c : Context) : Chronicle :=
  s.put number c.disableInterrupts

/-- A foreign call was entered on a context. -/
def entered (s : Chronicle) (number : Nat) : Chronicle :=
  s.withEngine { s.engine with entered := number :: s.engine.entered }

/-- A region runs its body once it was opened. -/
theorem withoutInterrupts_eq (hc : s.engine.context? number = some c)
    (body : Op Chronicle EngineError α) :
    (aboard.inside.context number).withoutInterrupts body s =
      body.thenAlways ((aboard.inside.context number).run (Op.modify Context.enableInterrupts))
        (s.opened number c) := by
  rw [Within.withoutInterrupts, Op.bind_apply, run_context hc]
  rfl

/-- A foreign call runs its body once it was entered. -/
theorem entering_eq (body : Op Chronicle EngineError α) (number : Nat) (s : Chronicle) :
    aboard.inside.entering number body s =
      body.thenAlways
        (aboard.inside.run (Op.modify fun e => { e with entered := e.entered.drop 1 }))
        (s.entered number) := by
  rw [Inside.entering, Op.bind_apply, run_engine]
  rfl

/-- Opening or closing a region leaves the tale true. -/
theorem Sound.put (h : s.Sound) (hc : s.engine.context? number = some c)
    (guard : InterruptGuard) : (s.put number { c with guard }).Sound := by
  refine ⟨fun other d hd => ?_, h.errors, fun hrecording => ?_⟩
  · rw [engine_put, Engine.context?_putContext hc] at hd
    split at hd
    · cases hd
      rfl
    · exact h.collected other d hd
  · have hjournal := h.collected number c hc
    rw [engine_put, Engine.recording_putContext] at hrecording
    have hlog : (s.engine.putContext number { c with guard }).log = s.engine.log := by
      simp [Engine.putContext_eq, hjournal]
    rw [engine_put, Engine.failures, hlog]
    exact h.recorded hrecording

/-- A region that is opened and closed around what a course does. -/
theorem Tends.bracket (hc : s.engine.context? number = some c) (h : Tends (s.opened number c) s') :
    ∃ c', s'.engine.context? number = some c' ∧ Tends s (s'.put number c'.enableInterrupts) := by
  have hlt := Engine.lt_size_of_context? hc
  have hcontext (other : Nat) := Engine.context?_putContext hc c.disableInterrupts other
  have hfate (other : Nat) (hother : other < s.engine.contexts.size) :=
    h.carries.fate other (by simpa [opened] using hother)
  simp only [opened, engine_put] at hfate
  have hown := hfate number hlt
  rw [hcontext, if_pos rfl] at hown
  obtain ⟨c', hc', hupholds, hdisabled⟩ := hown.of_open (Nat.succ_ne_zero _)
  have hdisabled : c'.guard.disabled = c.guard.disabled + 1 := hdisabled
  refine ⟨c', hc', ⟨by simpa [opened] using h.carries.entered,
    by simpa [opened] using h.carries.recording, by simpa [opened] using h.carries.size,
    fun other hother => ?_⟩, fun hs => (h.sound (hs.put hc _)).put hc' _, h.trampolines⟩
  rw [engine_put, Engine.context?_putContext hc']
  split
  · rename_i heq
    rw [heq, hc]
    have hopened : c.Upholds { c.disableInterrupts with journal := [] } := .same rfl rfl rfl
    have hclosed : c'.Upholds { c'.enableInterrupts with journal := [] } := .same rfl rfl rfl
    refine .kept (hopened.trans (hupholds.trans hclosed)) ?_
    simp [Context.enableInterrupts, InterruptGuard.enable, hdisabled]
  · rename_i hne
    have hthere := hfate other hother
    rwa [hcontext, if_neg hne] at hthere

/-- A region without interrupts tends to what its body tends to. -/
theorem region_tends {body : Op Chronicle EngineError α}
    (hbody : ∀ s, (body s).Settles (Tends s)) (number : Nat) (s : Chronicle) :
    ((aboard.inside.context number).withoutInterrupts body s).Settles (Tends s) := by
  cases hc : s.engine.context? number with
  | none =>
    rw [Within.withoutInterrupts, Op.bind_apply, run_unknown hc]
    exact .refl s
  | some c =>
    rw [withoutInterrupts_eq hc]
    refine Op.settles_thenAlways.mpr ((hbody _).imp fun s' h => ?_)
    obtain ⟨c', hc', htends⟩ := h.bracket hc
    rw [run_context hc']
    exact htends

/-- A foreign call tends to what its body tends to. -/
theorem entering_tends {body : Op Chronicle EngineError α}
    (hbody : ∀ s, (body s).Settles (Tends s)) (number : Nat) (s : Chronicle) :
    (aboard.inside.entering number body s).Settles (Tends s) := by
  rw [entering_eq]
  refine Op.settles_thenAlways.mpr ((hbody _).imp fun s' h => ?_)
  have hentered : s'.engine.entered = number :: s.engine.entered := h.carries.entered
  rw [run_engine]
  refine ⟨⟨?_, h.carries.recording, h.carries.size, h.carries.fate⟩, fun hs => ?_, h.trampolines⟩
  · change s'.engine.entered.drop 1 = s.engine.entered
    rw [hentered, List.drop_one, List.tail_cons]
  · obtain ⟨hcollected, herrors, hrecorded⟩ := h.sound ⟨hs.collected, hs.errors, hs.recorded⟩
    exact ⟨hcollected, herrors, hrecorded⟩

/-! ## Calls of hosted code -/

/-- A context that was put back is found there. -/
theorem context?_put (hc : s.engine.context? number = some c) (c' : Context) :
    (s.put number c').engine.context? number = some { c' with journal := [] } := by
  rw [engine_put, Engine.context?_putContext hc, if_pos rfl]

/-- Running hosted code on a frame that is named genuinely tends to what the code tends to. -/
theorem apply_tends {callee : Frame → Op Chronicle EngineError Nat}
    (hc : s.engine.context? number = some c) (hf : c.Genuine f)
    (hcallee : ∀ s, (callee f s).Settles (Tends s)) :
    ((aboard.inside.context number).apply callee f s).Settles (Tends s) := by
  refine Tends.bind ?_ fun count s' =>
    Tends.bind (Tends.onContext number .safePoint s') fun _ s'' => .refl s''
  have hbody := Tends.bind (Tends.onContext number (.activate f) s) fun _ s' => hcallee s'
  refine Op.settles_thenAlways.mpr (hbody.imp fun s' h => ?_)
  have hfate := h.carries.fate number (Engine.lt_size_of_context? hc)
  rw [hc] at hfate
  cases hc' : s'.engine.context? number with
  | none =>
    rw [run_unknown hc']
    exact h
  | some c' =>
    rw [hc'] at hfate
    cases hfate with
    | kept hupholds _ =>
      have hclose := Tends.onContext number (.closeFrame f) s'
      rw [run_context hc', ContextUse.fairOp, Context.checkName_bind,
        if_pos (hupholds.genuine hf)] at hclose
      rw [run_context hc']
      exact hclose.imp fun _ => h.trans

/-- Hosted code is run on a frame only if the frame is named genuinely. -/
theorem checkedApply_tends {callee : Frame → Op Chronicle EngineError Nat}
    (hcallee : ∀ s, (callee f s).Settles (Tends s)) (number : Nat) (s : Chronicle) :
    ((do
      (aboard.inside.context number).run (Context.checkName f)
      (aboard.inside.context number).apply callee f : Op Chronicle EngineError Nat) s).Settles
        (Tends s) := by
  rw [Op.bind_apply]
  cases hc : s.engine.context? number with
  | none =>
    rw [run_unknown hc]
    exact .refl s
  | some c =>
    have hput : Tends s (s.put number c) := .ofPlain (.putContext hc (.refl c))
    rw [run_context hc, Context.checkName, Op.read]
    by_cases hf : c.Genuine f
    · rw [if_pos hf]
      exact (apply_tends (context?_put hc c) hf hcallee).imp fun _ => hput.trans
    · rw [if_neg hf]
      exact hput

/-- A frame is opened on a context that is alive, or is refused quietly. -/
theorem openFrameWith_cases (hc : s.engine.context? number = some c) (args : List Value) :
    (∃ f c', (aboard.inside.context number).frame (Context.openFrameWith args) s =
      .done f (s.put number c') ∧ c.Opened f c') ∨
    (∃ error c', (aboard.inside.context number).frame (Context.openFrameWith args) s =
      .failed error (s.put number c') ∧ c.Quiet c') ∨
    ∃ message s', (aboard.inside.context number).frame (Context.openFrameWith args) s =
      .fatal message s' := by
  rw [Within.frame, run_context hc, Op.mapError]
  rcases Context.opens_cases (c.openFrameWith_opens args) with ⟨f, c', hopen, hopened⟩ |
    ⟨error, c', hopen, hquiet⟩ | ⟨message, c', hopen⟩
  · rw [hopen]
    exact .inl ⟨f, c', rfl, hopened⟩
  · rw [hopen]
    exact .inr (.inl ⟨_, c', rfl, hquiet⟩)
  · rw [hopen]
    exact .inr (.inr ⟨message, _, rfl⟩)

/-- A call of hosted code tends to what the code tends to. -/
theorem funcall_tends {callee : Frame → Op Chronicle EngineError Nat}
    (hcallee : ∀ f s, (callee f s).Settles (Tends s)) (number : Nat) (args : List Value)
    (s : Chronicle) : ((aboard.inside.context number).funcall callee args s).Settles (Tends s) := by
  refine Tends.bind (Tends.onContext number .safePoint s) fun _ s₁ => ?_
  have hopen : ((aboard.inside.context number).frame (Context.openFrameWith args) s₁).Settles
      (Tends s₁) := Tends.onContext number (.openFrameWith args) s₁
  rw [Op.bind_apply]
  cases hc : s₁.engine.context? number with
  | none =>
    rw [Within.frame, run_unknown hc]
    exact .refl s₁
  | some c =>
    rcases openFrameWith_cases hc args with ⟨f, c', hdone, hopened⟩ | ⟨error, c', hfailed, _⟩ |
      ⟨message, s', hfatal⟩
    · rw [hdone] at hopen ⊢
      exact (apply_tends (context?_put hc c') hopened.genuine (hcallee f)).imp fun _ => hopen.trans
    · rw [hfailed] at hopen ⊢
      exact hopen
    · rw [hfatal]
      trivial

/-- What courses tend to is a habit of foreign functions and callbacks. -/
theorem habit : Habit aboard.inside Tends where
  refl := .refl
  trans := .trans
  marshal hop := Tends.run fun e => (hop e).imp fun _ => .ofMarshals
  use number u hu s := ContextUse.fairOp_of_isForeign hu ▸ Tends.onContext number u s
  region number _ hbody := region_tends hbody number
  entering number _ hbody := entering_tends hbody number
  funcall number _ hcallee := funcall_tends hcallee number

/-! ## Trampolines -/

/-- A call of a trampoline was answered. -/
def answered (s : Chronicle) (index : Nat) (label : String) : Chronicle :=
  { s with tale := .invoked index label none :: s.tale }

/-- A call of a trampoline has failed: this is recorded, and the error is kept. -/
def failed (s : Chronicle) (index : Nat) (label : String) (error : EngineError) : Chronicle where
  session := { s.session with
    engine := s.engine.note (.callbackFailed label error.message)
    trampolines := s.session.trampolines.modify index fun t => { t with lastError := some error } }
  tale := .invoked index label (some error) :: s.tale

/-- The error of a trampoline was taken. -/
def taken (s : Chronicle) (index : Nat) : Chronicle where
  session := { s.session with
    trampolines := s.session.trampolines.modify index fun t => { t with lastError := none } }
  tale := .taken index :: s.tale

@[simp] theorem engine_failed (s : Chronicle) (index : Nat) (label : String) (error : EngineError) :
    (s.failed index label error).engine =
      s.engine.note (.callbackFailed label error.message) := rfl

/-- Without a foreign call in progress, a call of a trampoline fails. -/
theorem runTrampoline_outside {callee : Nat → Target → Frame → Op Chronicle EngineError Nat}
    (ht : s.session.trampolines[index]? = some t) (hentered : s.engine.entered = [])
    (args : List Scalar) : aboard.runTrampoline callee index args s =
      .done (.ofBits t.callback.signature.ret.kind 0)
        (s.failed index t.callback.label (.foreign .noContext)) := by
  have hget : (aboard.run Op.get : Op Chronicle EngineError Session) s = .done s.session s := rfl
  have hgets : aboard.inside.run (Op.gets (·.entered)) s = .done s.engine.entered s := rfl
  rw [Aboard.runTrampoline, Op.bind_apply, hget]
  dsimp only
  rw [ht]
  dsimp only
  rw [Op.bind_apply, Callback.run, Op.bind_apply, hgets, hentered]
  rfl

/-- Inside a foreign call, a call of a trampoline is performed on the context of the innermost one.
A failure does not get any further. -/
theorem runTrampoline_inside (callee : Nat → Target → Frame → Op Chronicle EngineError Nat)
    (ht : s.session.trampolines[index]? = some t) {calls : List Nat}
    (hentered : s.engine.entered = number :: calls) (args : List Scalar) :
    aboard.runTrampoline callee index args s =
      match t.callback.perform aboard.inside (callee number t.callee) number args s with
      | .done result s' => .done result (s'.answered index t.callback.label)
      | .failed error s' => .done (.ofBits t.callback.signature.ret.kind 0)
          (s'.failed index t.callback.label error)
      | .fatal message s' => .fatal message s' := by
  have hget : (aboard.run Op.get : Op Chronicle EngineError Session) s = .done s.session s := rfl
  have hgets : aboard.inside.run (Op.gets (·.entered)) s = .done s.engine.entered s := rfl
  rw [Aboard.runTrampoline, Op.bind_apply, hget]
  dsimp only
  rw [ht]
  dsimp only
  rw [Op.bind_apply, Callback.run, Op.bind_apply, hgets, hentered]
  dsimp only [List.head?_cons]
  rw [Op.bind_apply, Op.attempt]
  cases t.callback.perform aboard.inside (callee number t.callee) number args s <;> rfl

/-- The error that a trampoline keeps after it was changed. -/
theorem lastError_modify (trampolines : Array Trampoline) (index i : Nat)
    (error : Option EngineError) :
    (trampolines.modify index fun t => { t with lastError := error })[i]?.bind (·.lastError) =
      if index = i then trampolines[i]?.bind fun _ => error
      else trampolines[i]?.bind (·.lastError) := by
  rw [Array.getElem?_modify]
  split
  · cases trampolines[i]? <;> rfl
  · rfl

namespace Tends

/-- A call that was answered leaves all errors as they are. -/
theorem answered (s : Chronicle) (index : Nat) (label : String) :
    Tends s (s.answered index label) where
  carries := .refl _
  sound h := {
    collected := h.collected
    errors := fun i => by
      rw [Chronicle.answered, Tale.latest, Option.none_or, ite_self]
      exact h.errors i
    recorded := h.recorded }
  trampolines := Nat.le_refl _

/-- A call that has failed is told of, recorded and kept. -/
theorem failed (hindex : index < s.session.trampolines.size) (label : String)
    (error : EngineError) : Tends s (s.failed index label error) where
  carries := by
    rw [engine_failed, Engine.note_eq]
    exact ⟨rfl, rfl, Nat.le_refl _, fun _ _ => .refl _⟩
  sound h := {
    collected := by
      rw [engine_failed, Engine.note_eq]
      exact h.collected
    errors := fun i => by
      rw [Chronicle.failed, lastError_modify, Tale.latest, Option.some_or, h.errors]
      split
      · subst index
        rw [Array.getElem?_eq_getElem hindex]
        rfl
      · rfl
    recorded := fun hrecording => by
      rw [engine_failed, Engine.note_eq] at hrecording ⊢
      have hkept : s.engine.recording = true := hrecording
      rw [Engine.failures, if_pos hkept]
      exact congrArg (_ :: ·) (h.recorded hkept) }
  trampolines := by simp [Chronicle.failed]

/-- An error that was taken is gone. -/
theorem taken (s : Chronicle) (index : Nat) : Tends s (s.taken index) where
  carries := .refl _
  sound h := {
    collected := h.collected
    errors := fun i => by
      rw [Chronicle.taken, lastError_modify, Tale.latest, h.errors]
      split
      · simp
      · rfl
    recorded := h.recorded }
  trampolines := by simp [Chronicle.taken]

/-- What has nothing to do with contexts and with the errors of trampolines. -/
theorem ofApart {session : Session} (h : s.session.Apart session) :
    Tends s { s with session } := by
  obtain ⟨added, hadded, hfresh⟩ := h.trampolines
  have hplain := Engine.Plain.ofApart h.engine
  refine ⟨hplain.carries, fun hs => ⟨hplain.collected hs.collected, fun i => ?_,
    fun hrecording => ?_⟩, ?_⟩
  · have herror := hs.errors i
    change session.trampolines[i]?.bind _ = s.tale.latest i
    rw [hadded, Array.getElem?_append]
    split
    · exact herror
    · rename_i hnew
      rw [Array.getElem?_eq_none (Nat.le_of_not_lt hnew)] at herror
      rw [← herror, Option.bind_none, Option.bind_eq_none_iff]
      intro t ht
      exact hfresh t (Array.mem_of_getElem? ht)
  · exact (hplain.failures hs.collected).trans (hs.recorded (h.engine.recording ▸ hrecording))
  · change s.session.trampolines.size ≤ session.trampolines.size
    rw [hadded, Array.size_append]
    exact Nat.le_add_right _ _

end Tends

/-- The error of a trampoline that is known by its name is taken. -/
theorem takeError_of_known {name : String} (h : s.session.trampolineIndex? name = some index) :
    Session.takeError name s.session =
        .done (.lastError (s.session.trampolines[index]?.bind (·.lastError)))
          (s.taken index).session ∧
      aboard.takeError name s =
        .done (.lastError (s.session.trampolines[index]?.bind (·.lastError))) (s.taken index) := by
  have hindex : Session.trampolineIndex name s.session = .done index s.session := by
    simp [Session.trampolineIndex, Op.bind_apply, Op.get, h]
  have htaken : Session.takeError name s.session =
      .done (.lastError (s.session.trampolines[index]?.bind (·.lastError)))
        (s.taken index).session := by
    rw [Session.takeError, Op.bind_apply, hindex]
    rfl
  refine ⟨htaken, ?_⟩
  have hknown : aboard.run (Session.trampolineIndex name) s = .done index s := by
    change (Session.trampolineIndex name s.session).mapState _ = _
    rw [hindex]
    rfl
  have hrun : aboard.run (Session.takeError name) s =
      .done (.lastError (s.session.trampolines[index]?.bind (·.lastError)))
        { s with session := (s.taken index).session } := by
    change (Session.takeError name s.session).mapState _ = _
    rw [htaken]
    rfl
  rw [Aboard.takeError, Op.bind_apply, hknown]
  dsimp only
  rw [Op.bind_apply, hrun]
  rfl

/-- Taking the error of a trampoline. -/
theorem takeError_tends (name : String) (s : Chronicle) :
    (aboard.takeError name s).Settles (Tends s) := by
  cases h : s.session.trampolineIndex? name with
  | none =>
    have hunknown : Session.trampolineIndex name s.session =
        .failed (.signalled s!"unknown trampoline {name}") s.session := by
      simp [Session.trampolineIndex, Op.bind_apply, Op.get, Op.fail, h]
    have hrun : aboard.run (Session.trampolineIndex name) s =
        .failed (.signalled s!"unknown trampoline {name}") s := by
      change (Session.trampolineIndex name s.session).mapState _ = _
      rw [hunknown]
      rfl
    rw [Aboard.takeError, Op.bind_apply, hrun]
    exact .refl s
  | some index =>
    rw [(takeError_of_known h).2]
    exact .taken s index

/-- A call of a trampoline tends to what hosted code tends to. -/
theorem runTrampoline_tends {callee : Nat → Target → Frame → Op Chronicle EngineError Nat}
    (hcallee : ∀ number t f s, (callee number t f s).Settles (Tends s)) (index : Nat)
    (args : List Scalar) (s : Chronicle) :
    (aboard.runTrampoline callee index args s).Settles (Tends s) := by
  cases ht : s.session.trampolines[index]? with
  | none =>
    have hget : (aboard.run Op.get : Op Chronicle EngineError Session) s = .done s.session s := rfl
    rw [Aboard.runTrampoline, Op.bind_apply, hget]
    dsimp only
    rw [ht]
    exact .refl s
  | some t =>
    obtain ⟨hlt, _⟩ := Array.getElem?_eq_some_iff.mp ht
    cases hentered : s.engine.entered with
    | nil =>
      rw [runTrampoline_outside ht hentered]
      exact .failed hlt _ _
    | cons number calls =>
      have hperform := habit.perform (hcallee number t.callee) t.callback number args s
      rw [runTrampoline_inside callee ht hentered]
      cases hended : t.callback.perform aboard.inside (callee number t.callee) number args s with
      | done result s' =>
        rw [hended] at hperform
        exact hperform.trans (.answered s' index _)
      | failed error s' =>
        rw [hended] at hperform
        exact hperform.trans (.failed (Nat.lt_of_lt_of_le hlt hperform.trampolines) _ error)
      | fatal message s' => trivial

/-! ## Courses -/

/-- A use of a session. -/
theorem use_tends (u : SessionUse α) (s : Chronicle) : (u.run aboard s).Settles (Tends s) := by
  cases u with
  | onContext number u => exact Tends.onContext number u s
  | createContext => exact Tends.run Engine.Plain.createContext s
  | dropContext number => exact Tends.run (Engine.Plain.dropIdle number) s
  | interruptContext id => exact Tends.run (Engine.Plain.interruptContext id) s
  | consoleInterrupt => exact Tends.run Engine.Plain.consoleInterrupt s
  | takeError name => exact takeError_tends name s
  | apart op hapart =>
    exact Outcome.settles_mapState.mpr ((hapart s.session).imp fun _ h => .ofApart h)

/-- What every course tends to. The induction is over the course. -/
theorem course_tends (p : Course α) (s : Chronicle) : (p.run aboard s).Settles (Tends s) := by
  -- What is done last is answered, and the course goes on from there.
  have hnext {α β : Type} {x : Op Chronicle EngineError β}
      {next : Except EngineError β → Session → Course α}
      (ih : ∀ answer session s, ((next answer session).run aboard s).Settles (Tends s))
      (hx : ∀ s, (x s).Settles (Tends s)) (s : Chronicle) :
      ((do let answer ← x.attempt; (next answer (← aboard.run Op.get)).run aboard :
        Op Chronicle EngineError α) s).Settles (Tends s) :=
    Tends.bind (Op.settles_attempt.mpr (hx s)) fun answer s =>
      Tends.bind (Tends.refl s) fun session s => ih answer session s
  induction p generalizing s with
  | finish result => exact habit.ofExcept result s
  | use u next ih => exact hnext ih (use_tends u) s
  | withoutInterrupts number body next ihbody ih => exact hnext ih (region_tends ihbody number) s
  | funcall number callee args next ihcallee ih =>
    exact hnext ih (funcall_tends ihcallee number args) s
  | apply number callee frame next ihcallee ih =>
    exact hnext ih (checkedApply_tends (ihcallee frame) number) s
  | invoke number function code frame next ihcode ih =>
    exact hnext ih (habit.invoke ihcode number function frame) s
  | trampoline index callee args next ihcallee ih =>
    exact hnext ih (runTrampoline_tends ihcallee index args) s

end Chronicle

end Script

end CallEngine
