import CallEngine.Proofs.ContextLives
import CallEngine.Proofs.Courses

/-!
# The fates of contexts

While foreign calls are in progress, contexts are used, created and dropped. A context with a region
without interrupts is not dropped, and the frames that stay open on a context are upheld. None of
this records that a callback has failed, and the events of every context are collected as soon as
it is put back.
-/

namespace CallEngine

/-! ## Single contexts -/

namespace Context

/-- What programs that close frames by genuine names only do to a context: frames that stay open are
upheld, as many regions are open as before, and only events of the context are put into its
journal. -/
structure Minds (c c' : Context) : Prop where
  upholds : c.Upholds c'
  disabled : c'.guard.disabled = c.guard.disabled
  works : c.Works c'

/-- Nothing has changed. -/
theorem Minds.refl (c : Context) : Minds c c := ⟨.refl c, rfl, .same rfl rfl⟩

/-- What becomes of a context: only one without regions may be gone, and what is gone stays so. -/
inductive Fate : Option Context → Option Context → Prop
  | gone {slot : Option Context} (hidle : ∀ c ∈ slot, c.guard.disabled = 0) : Fate slot none
  | kept {c c' : Context} (hupholds : c.Upholds c')
    (hdisabled : c'.guard.disabled = c.guard.disabled) : Fate (some c) (some c')

namespace Fate

/-- Nothing has changed. -/
theorem refl (slot : Option Context) : Fate slot slot := by
  cases slot with
  | none => exact .gone (by simp)
  | some c => exact .kept (.refl c) rfl

/-- One fate after another. -/
theorem trans {first second third : Option Context} (h : Fate first second)
    (h' : Fate second third) : Fate first third := by
  cases h with
  | gone hidle =>
    cases h' with
    | gone _ => exact .gone hidle
  | kept hupholds hdisabled =>
    cases h' with
    | gone hidle =>
      refine .gone fun c hc => ?_
      cases hc
      rw [← hdisabled]
      exact hidle _ rfl
    | kept hupholds' hdisabled' =>
      exact .kept (hupholds.trans hupholds') (hdisabled'.trans hdisabled)

/-- A context with a region is kept. -/
theorem of_open {c : Context} {slot : Option Context} (h : Fate (some c) slot)
    (hopen : c.guard.disabled ≠ 0) :
    ∃ c', slot = some c' ∧ c.Upholds c' ∧ c'.guard.disabled = c.guard.disabled := by
  cases h with
  | gone hidle => exact absurd (hidle c rfl) hopen
  | kept hupholds hdisabled => exact ⟨_, rfl, hupholds, hdisabled⟩

end Fate

end Context

/-- What contexts put into their journals is no failure of a callback. -/
theorem Event.failedCallback_of_isOwn {event : Event} (h : event.isOwn = true) :
    event.failedCallback = none := by
  cases event <;> simp_all [isOwn, failedCallback]

/-- That a foreign function or a callback starts is no failure of a callback. -/
theorem Event.failedCallback_of_isForeign {event : Event} (h : event.isForeign = true) :
    event.failedCallback = none := by
  cases event <;> simp_all [isForeign, failedCallback]

/-- What the loading of libraries records is no failure of a callback. -/
theorem Event.failedCallback_of_isLoading {event : Event} (h : event.isLoading = true) :
    event.failedCallback = none := by
  cases event <;> simp_all [isLoading, failedCallback]

/-- What foreign functions and callbacks do on a context closes no frame. -/
theorem ContextUse.fairOp_of_isForeign {α : Type} {u : ContextUse α} (h : u.isForeign = true) :
    u.fairOp = u.op := by
  cases u with
  | closeFrame f => cases h
  | _ => rfl

/-- Every use of a context by a program that closes frames by genuine names only. -/
theorem ContextUse.minds {α : Type} (u : ContextUse α) (c : Context) :
    (u.fairOp c).Settles c.Minds := by
  have hdisabled : (u.op c).Settles fun c' => c'.guard.disabled = c.guard.disabled :=
    (u.heeds c).imp fun _ h => h.guard.disabled
  have hrest := fairOp_settles (hdisabled.and (u.works c)) ⟨rfl, .same rfl rfl⟩
  exact ((u.upholds c).and hrest).imp fun _ h => ⟨h.1, h.2.1, h.2.2⟩

/-! ## Engines -/

namespace Engine

variable {e e' : Engine} {number : Nat} {c : Context}

/-- The events of every context were collected. -/
def Collected (e : Engine) : Prop := ∀ number c, e.context? number = some c → c.journal = []

/-- Putting a context back does not touch the foreign calls in progress. -/
@[simp] theorem entered_putContext (e : Engine) (number : Nat) (c : Context) :
    (e.putContext number c).entered = e.entered := by rw [putContext_eq]

/-- Putting a context back does not change whether events are kept. -/
@[simp] theorem recording_putContext (e : Engine) (number : Nat) (c : Context) :
    (e.putContext number c).recording = e.recording := by rw [putContext_eq]

/-- Putting a context back adds no place for contexts. -/
@[simp] theorem size_putContext (e : Engine) (number : Nat) (c : Context) :
    (e.putContext number c).contexts.size = e.contexts.size := by simp [putContext_eq]

/-- What becomes of the contexts of an engine while the same foreign calls are in progress. -/
structure Carries (e e' : Engine) : Prop where
  entered : e'.entered = e.entered
  recording : e'.recording = e.recording
  size : e.contexts.size ≤ e'.contexts.size
  fate (number : Nat) (h : number < e.contexts.size) :
    Context.Fate (e.context? number) (e'.context? number)

/-- Nothing has changed. -/
theorem Carries.refl (e : Engine) : Carries e e :=
  ⟨rfl, rfl, Nat.le_refl _, fun _ _ => .refl _⟩

/-- One change after another. -/
theorem Carries.trans {a b c : Engine} (hab : Carries a b) (hbc : Carries b c) : Carries a c where
  entered := hbc.entered.trans hab.entered
  recording := hbc.recording.trans hab.recording
  size := Nat.le_trans hab.size hbc.size
  fate number h := (hab.fate number h).trans (hbc.fate number (Nat.lt_of_lt_of_le h hab.size))

/-- What uses do to an engine that run nothing else: no failure of a callback is recorded. -/
structure Plain (e e' : Engine) : Prop where
  carries : e.Carries e'
  collected (h : e.Collected) : e'.Collected
  failures (h : e.Collected) : e'.failures = e.failures

namespace Plain

/-- Nothing has changed. -/
theorem refl (e : Engine) : Plain e e := ⟨.refl e, id, fun _ => rfl⟩

/-- One use after another. -/
theorem trans {a b c : Engine} (hab : Plain a b) (hbc : Plain b c) : Plain a c :=
  ⟨hab.carries.trans hbc.carries, fun h => hbc.collected (hab.collected h),
    fun h => (hbc.failures (hab.collected h)).trans (hab.failures h)⟩

/-- What has nothing to do with contexts and callbacks. -/
theorem ofApart (h : e.Apart e') : Plain e e' := by
  have hcontext (number : Nat) : e'.context? number = e.context? number := by
    rw [context?, context?, h.contexts]
  refine ⟨⟨h.entered, h.recording, by rw [h.contexts], fun number _ => ?_⟩, fun hcollected => ?_,
    fun _ => h.failures⟩
  · rw [hcontext]
    exact .refl _
  · intro number c hc
    exact hcollected number c (hcontext number ▸ hc)

/-- Marshaling. -/
theorem ofMarshals (h : e.Marshals e') : Plain e e' := by
  obtain ⟨heap, memory, added, _, hadded, rfl⟩ := h
  have hnone := List.filterMap_eq_nil_iff.mpr fun event hevent =>
    Event.failedCallback_of_isForeign (hadded event hevent)
  exact ofApart ⟨rfl, rfl, rfl, by simp [Engine.failures, List.filterMap_append, hnone]⟩

/-- A context that was put back after something was done to it. -/
theorem putContext {c' : Context} (hc : e.context? number = some c) (h : c.Minds c') :
    Plain e (e.putContext number c') := by
  obtain ⟨_, added, hjournal, hown⟩ := h.works
  have hnone := List.filterMap_eq_nil_iff.mpr fun event hevent =>
    Event.failedCallback_of_isOwn (hown event hevent)
  refine ⟨⟨by simp, by simp, by simp, fun other _ => ?_⟩, fun hcollected other d hd => ?_,
    fun hcollected => ?_⟩
  · rw [context?_putContext hc]
    split
    · rename_i heq
      rw [heq, hc]
      exact .kept (h.upholds.trans (.same rfl rfl rfl)) h.disabled
    · exact .refl _
  · rw [context?_putContext hc] at hd
    split at hd
    · cases hd
      rfl
    · exact hcollected other d hd
  · rw [putContext_eq, Engine.failures, Engine.failures]
    dsimp only
    split
    · rw [hjournal, hcollected number c hc, List.append_nil, List.filterMap_append, hnone,
        List.nil_append]
    · rfl

/-- An operation of a context that minds it. -/
theorem onContext {α : Type} {op : ContextOp EngineError α} (hop : ∀ c, (op c).Settles c.Minds)
    (number : Nat) (e : Engine) : (Engine.onContext number op e).Settles (Plain e) := by
  unfold Engine.onContext
  cases hc : e.context? number with
  | none => exact .refl e
  | some c => exact Outcome.settles_mapState.mpr ((hop c).imp fun _ h => .putContext hc h)

/-- A context is created behind all others. -/
theorem withCreation (stack : OperandStack) (e : Engine) :
    Plain e (e.withCreation stack (some (.create e.nextContext e.settings.limits stack))) := by
  have hcontext (number : Nat) (h : number < e.contexts.size) :
      (e.withCreation stack (some (.create e.nextContext e.settings.limits stack))).context? number =
        e.context? number := by
    rw [withCreation_eq, context?, context?, Array.getElem?_push, if_neg (Nat.ne_of_lt h)]
  refine ⟨⟨by rw [withCreation_eq], by rw [withCreation_eq], by rw [withCreation_eq]; simp,
    fun number h => ?_⟩, fun hcollected number c hc => ?_, fun _ => ?_⟩
  · rw [hcontext number h]
    exact .refl _
  · by_cases h : number < e.contexts.size
    · exact hcollected number c (hcontext number h ▸ hc)
    · rw [withCreation_eq, context?, Array.getElem?_push] at hc
      split at hc
      · cases hc
        rfl
      · rw [Array.getElem?_eq_none (by omega)] at hc
        cases hc
  · by_cases hrecording : e.recording = true
    · simp [Engine.failures, Engine.withCreation, withPlace, note_eq, routeConsole_eq, hrecording,
        List.filterMap_cons, Event.failedCallback]
    · simp [Engine.failures, Engine.withCreation, withPlace, note_eq, routeConsole_eq, hrecording]

/-- Creating a context. -/
theorem createContext (e : Engine) : (Engine.createContext e).Settles (Plain e) := by
  rcases e.createContext_cases with ⟨error, e', hended, rfl | ⟨violation, rfl⟩⟩ |
    ⟨check, hended⟩ | ⟨stack, _, _, hended⟩
  · rw [hended]
    exact .refl _
  · rw [hended]
    exact .ofApart (.noteViolation violation e)
  · rw [hended]
    trivial
  · rw [hended]
    split
    · exact .withCreation stack e
    · trivial

/-- A context without regions is taken off. -/
theorem withoutContext (hc : e.context? number = some c) (hidle : c.guard.disabled = 0) :
    Plain e (e.withoutContext number c.id) := by
  have hcontext (other : Nat) : (e.withoutContext number c.id).context? other =
      if other = number then none else e.context? other := by
    have hlt := lt_size_of_context? hc
    rw [withoutContext_eq, context?, context?, Array.getElem?_setIfInBounds]
    by_cases heq : other = number
    · simp [heq, hlt]
    · simp [heq, Ne.symm heq]
  refine ⟨⟨by rw [withoutContext_eq], by rw [withoutContext_eq], by rw [withoutContext_eq]; simp,
    fun other _ => ?_⟩, fun hcollected other d hd => ?_, fun _ => ?_⟩
  · rw [hcontext]
    split
    · rename_i heq
      refine .gone fun d hd => ?_
      rw [heq, hc] at hd
      cases hd
      exact hidle
    · exact .refl _
  · rw [hcontext] at hd
    split at hd
    · cases hd
    · exact hcollected other d hd
  · by_cases hrecording : e.recording = true
    · simp [Engine.failures, Engine.withoutContext, note_eq, unregistered_eq, hrecording,
        List.filterMap_cons, Event.failedCallback]
    · simp [Engine.failures, Engine.withoutContext, note_eq, unregistered_eq, hrecording]

/-- Dropping a context without regions. -/
theorem dropIdle (number : Nat) (e : Engine) : (Engine.dropIdle number e).Settles (Plain e) := by
  unfold Engine.dropIdle
  split
  · rename_i hidle
    cases hc : e.context? number with
    | none =>
      simp only [dropContext, Op.bind_apply, Op.get, hc]
      exact .refl e
    | some c =>
      rcases dropContext_cases hc with ⟨message, e', hended⟩ | ⟨_, hended⟩
      · rw [hended]
        trivial
      · rw [hended]
        rw [regions, hc] at hidle
        exact .withoutContext hc hidle
  · exact .refl e

/-- Posting an interrupt. -/
theorem postUser (id : Nat) (e : Engine) : Plain e (e.postUser id) := by
  have hcontext (number : Nat) : (e.postUser id).context? number =
      (e.context? number).map fun c => if c.id = id then c.post .user else c := by
    rw [context?, context?, Engine.postUser, Array.getElem?_map]
    cases e.contexts[number]? <;> rfl
  refine ⟨⟨rfl, rfl, by simp [Engine.postUser], fun number _ => ?_⟩,
    fun hcollected number c hc => ?_, fun _ => rfl⟩
  · rw [hcontext]
    cases e.context? number with
    | none => exact .refl _
    | some c =>
      rw [Option.map_some]
      split
      · exact .kept (.same rfl rfl rfl) rfl
      · exact .refl _
  · rw [hcontext, Option.map_eq_some_iff] at hc
    obtain ⟨d, hd, rfl⟩ := hc
    have hjournal := hcollected number d hd
    split
    · exact hjournal
    · exact hjournal

/-- Interrupting a context. -/
theorem interruptContext (id : Nat) (e : Engine) :
    (Engine.interruptContext id e).Settles (Plain e) := by
  rcases e.interruptContext_cases id with ⟨error, _, hended⟩ | ⟨_, _, hended⟩ | ⟨_, _, hended⟩
  · rw [hended]
    exact .ofApart (.noteViolation error e)
  · rw [hended]
    exact (postUser id e).trans (.ofApart (.note rfl _))
  · rw [hended]
    exact .refl e

/-- Interrupting from the console. -/
theorem consoleInterrupt (e : Engine) : (Engine.consoleInterrupt e).Settles (Plain e) := by
  simp only [Engine.consoleInterrupt, Op.bind_apply, Op.get]
  cases e.consoleOwner with
  | none => exact .refl e
  | some id => exact postUser id e

end Plain

end Engine

end CallEngine
