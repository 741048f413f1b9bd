import CallEngine.Proofs.Deferral

/-!
# What an engine knows about its contexts

Contexts are created and dropped, the engine is shut down, and all of this may be refused. What the
engine knows about its contexts is spread over their places, the registry, the next id, the log of
events, the mark that it is shut down and the route of console interrupts. Most uses of an engine
leave all of this as it is. For the others it is said here what they change.
-/

namespace CallEngine

/-! ## Events -/

namespace Event

/-- The id of the context that was created. -/
def createdOn : Event → Option Nat
  | contextCreated context _ => some context
  | _ => none

/-- The id of the context that was destroyed. -/
def destroyedOn : Event → Option Nat
  | contextDestroyed context => some context
  | _ => none

/-- An event that is about no life. -/
def Aloof (event : Event) : Prop := event.createdOn = none ∧ event.destroyedOn = none

/-- Whether contexts put this event into their journals. -/
def isOwn : Event → Bool
  | stackOverflow _ _ _ => true
  | interruptPosted _ _ | interruptDeferred _ _ | interruptDelivered _ _ => true
  | _ => false

/-- What contexts put into their journals is about no life. -/
theorem aloof_of_isOwn {event : Event} (h : event.isOwn = true) : event.Aloof := by
  cases event <;> simp_all [isOwn, Aloof, createdOn, destroyedOn]

/-- What the loading of libraries records is about no life. -/
theorem aloof_of_isLoading {event : Event} (h : event.isLoading = true) : event.Aloof := by
  cases event <;> simp_all [isLoading, Aloof, createdOn, destroyedOn]

end Event

namespace Context

/-- The context has the same id, and events of its own were put into its journal. -/
def Works (c c' : Context) : Prop :=
  c'.id = c.id ∧ ∃ added, c'.journal = added ++ c.journal ∧ ∀ event ∈ added, event.isOwn = true

namespace Works

variable {a b c c' : Context}

/-- Nothing is put into the journal. -/
theorem same (hid : c'.id = c.id) (hjournal : c'.journal = c.journal) : Works c c' :=
  ⟨hid, [], hjournal, by simp⟩

/-- One event is put into the journal. -/
theorem logged {event : Event} (hid : c'.id = c.id) (hjournal : c'.journal = event :: c.journal)
    (hevent : event.isOwn = true) : Works c c' :=
  ⟨hid, [event], hjournal, by simpa using hevent⟩

/-- One piece of work after another. -/
theorem trans (hab : Works a b) (hbc : Works b c) : Works a c := by
  obtain ⟨hid, first, hfirst, hown⟩ := hab
  obtain ⟨hid', second, hsecond, hown'⟩ := hbc
  refine ⟨hid'.trans hid, second ++ first, by simp [hsecond, hfirst], fun event hevent => ?_⟩
  rcases List.mem_append.mp hevent with hmem | hmem
  · exact hown' event hmem
  · exact hown event hmem

end Works

variable {c : Context}

/-- Opening a frame is work. -/
theorem OpenEnds.works {args : List Value} {o : Outcome Context FrameError Frame}
    (h : c.OpenEnds args o) : o.Settles (Works c) := by
  cases h with
  | tooMany => exact .same rfl rfl
  | buffer => exact .same rfl rfl
  | stack => exact .same rfl rfl
  | fault => trivial
  | overflow => exact .logged rfl rfl rfl
  | exhausted => trivial
  | doubleFault => trivial

/-- A safe point is work. -/
theorem safePoint_works (c : Context) : (safePoint c).Settles (Works c) := by
  simp only [safePoint, Op.bind_apply, Op.modify, Op.get]
  cases c.settleStack.guard.poll.1 with
  | none => exact .same rfl rfl
  | some kind => exact .logged rfl rfl rfl

/-- Raising an interrupt is work. -/
theorem raiseInterrupt_works (kind : InterruptKind) (c : Context) :
    (raiseInterrupt kind c).Settles (Works c) := by
  simp only [raiseInterrupt, Op.bind_apply, Op.modify, Op.get]
  cases (c.guard.raise kind).1 with
  | some taken => exact .logged rfl rfl rfl
  | none =>
    dsimp only
    split
    · exact .logged rfl rfl rfl
    · exact .logged rfl rfl rfl

/-- Signalling a trap is work. -/
theorem signalTrap_works (trap : Trap) (c : Context) : (signalTrap trap c).Settles (Works c) := by
  simp only [signalTrap, Op.bind_apply, Op.get]
  cases c.guard.signalFault (.arithmetic trap) with
  | error double => trivial
  | ok guard =>
    have hsignalled : Works c { c with guard } := .same rfl rfl
    dsimp only [Op.modify]
    split
    · exact (safePoint_works { c with guard }).imp fun _ h => hsignalled.trans h
    · exact hsignalled

end Context

/-- Every use of a context is work. -/
theorem ContextUse.works {α : Type} (u : ContextUse α) (c : Context) :
    (u.op c).Settles c.Works := by
  cases u with
  | openFrame argc => exact Op.settles_mapError.mpr (Context.openFrame_ends argc c).works
  | openFrameWith args => exact Op.settles_mapError.mpr (Context.openFrameWith_ends args c).works
  | activate f =>
    refine Op.settles_mapError.mpr ((Context.activate_settles f c).imp fun c' h => ?_)
    rcases h with rfl | ⟨record, _, rfl⟩ <;> exact .same rfl rfl
  | args f => exact Op.settles_mapError.mpr (Op.settles_read (.same rfl rfl))
  | setArg f index value =>
    refine Op.settles_mapError.mpr ?_
    rw [Context.setArg_apply]
    obtain ⟨_, _, _, _, hwritten⟩ := Context.writeSlot_slots f index value c
    rw [hwritten]
    cases c.checkAccess f index <;> exact .same rfl rfl
  | closeFrame f =>
    refine (Context.closeFrame_settled f c).imp fun c' h => ?_
    obtain ⟨record, rfl⟩ := h
    exact .same rfl rfl
  | setValues values =>
    refine Op.settles_mapError.mpr ?_
    rw [Context.setValues_apply]
    cases c.values.set values <;> exact .same rfl rfl
  | setValue value => exact .same rfl rfl
  | clearValues => exact .same rfl rfl
  | primary => exact .same rfl rfl
  | safePoint => exact Op.settles_mapError.mpr (Context.safePoint_works c)
  | raiseInterrupt kind => exact Op.settles_mapError.mpr (Context.raiseInterrupt_works kind c)
  | signalTrap trap => exact Op.settles_mapError.mpr (Context.signalTrap_works trap c)
  | post kind => exact .same rfl rfl

/-! ## What an engine knows about its contexts -/

namespace Engine

/-- The ids of the contexts whose creation was recorded, the latest first. -/
def births (e : Engine) : List Nat := e.log.filterMap Event.createdOn

/-- The ids of the contexts whose end was recorded, the latest first. -/
def deaths (e : Engine) : List Nat := e.log.filterMap Event.destroyedOn

variable {e e' : Engine} {number : Nat} {c : Context}

/-- What is recorded comes before what was. -/
theorem births_note (hrecording : e.recording = true) (event : Event) :
    (e.note event).births = event.createdOn.toList ++ e.births := by
  rw [note_eq, births, births, if_pos hrecording]
  cases hcreated : event.createdOn with
  | none => simp [hcreated]
  | some id => simp [hcreated]

/-- What is recorded comes before what was. -/
theorem deaths_note (hrecording : e.recording = true) (event : Event) :
    (e.note event).deaths = event.destroyedOn.toList ++ e.deaths := by
  rw [note_eq, deaths, deaths, if_pos hrecording]
  cases hdestroyed : event.destroyedOn with
  | none => simp [hdestroyed]
  | some id => simp [hdestroyed]

/-- All that concerns the lives of contexts is as it was. -/
structure SameLives (e e' : Engine) : Prop where
  settings : e'.settings = e.settings
  recording : e'.recording = e.recording
  places (number : Nat) : (e'.context? number).isSome = (e.context? number).isSome
  size : e'.contexts.size = e.contexts.size
  next : e'.nextContext = e.nextContext
  registered : e'.registered = e.registered
  isShutDown : e'.isShutDown = e.isShutDown
  consoleOwner : e'.consoleOwner = e.consoleOwner
  births : e'.births = e.births
  deaths : e'.deaths = e.deaths

namespace SameLives

theorem refl (e : Engine) : SameLives e e :=
  ⟨rfl, rfl, fun _ => rfl, rfl, rfl, rfl, rfl, rfl, rfl, rfl⟩

theorem trans {a b c : Engine} (hab : SameLives a b) (hbc : SameLives b c) : SameLives a c where
  settings := hbc.settings.trans hab.settings
  recording := hbc.recording.trans hab.recording
  places number := (hbc.places number).trans (hab.places number)
  size := hbc.size.trans hab.size
  next := hbc.next.trans hab.next
  registered := hbc.registered.trans hab.registered
  isShutDown := hbc.isShutDown.trans hab.isShutDown
  consoleOwner := hbc.consoleOwner.trans hab.consoleOwner
  births := hbc.births.trans hab.births
  deaths := hbc.deaths.trans hab.deaths

/-- Events that are about no life may be recorded. -/
theorem ofLog (added : List Event) (haloof : ∀ event ∈ added, event.Aloof) :
    SameLives e { e with log := added ++ e.log } where
  settings := rfl
  recording := rfl
  places _ := rfl
  size := rfl
  next := rfl
  registered := rfl
  isShutDown := rfl
  consoleOwner := rfl
  births := by
    have hnone := List.filterMap_eq_nil_iff.mpr fun event hevent => (haloof event hevent).1
    simp [Engine.births, List.filterMap_append, hnone]
  deaths := by
    have hnone := List.filterMap_eq_nil_iff.mpr fun event hevent => (haloof event hevent).2
    simp [Engine.deaths, List.filterMap_append, hnone]

/-- An event that is about no life is recorded, if events are. -/
theorem note {event : Event} (haloof : event.Aloof) : SameLives e (e.note event) := by
  unfold Engine.note
  split
  · exact .ofLog [event] (by simpa using haloof)
  · exact .refl e

/-- A lock that was refused is recorded. -/
theorem noteViolation (error : LockError) : SameLives e (e.noteViolation error) := by
  cases error with
  | orderViolation held requested => exact .note ⟨rfl, rfl⟩
  | reentrant name => exact .refl e

/-- A context that has worked is put back. -/
theorem putContext {c' : Context} (hc : e.context? number = some c) (hjournal : c.journal = [])
    (h : c.Works c') : SameLives e (e.putContext number c') := by
  obtain ⟨_, added, hadded, hown⟩ := h
  have hput : SameLives e { e with
      contexts := e.contexts.setIfInBounds number (some { c' with journal := [] }) } := by
    refine ⟨rfl, rfl, fun other => ?_, by simp, rfl, rfl, rfl, rfl, rfl, rfl⟩
    by_cases heq : number = other
    · subst heq
      rw [hc]
      simp [context?, lt_size_of_context? hc]
    · simp [context?, heq]
  rw [putContext_eq, hadded, hjournal, List.append_nil]
  split
  · exact hput.trans (.ofLog added fun event hevent => Event.aloof_of_isOwn (hown event hevent))
  · exact hput

/-- An interrupt is posted to a context. -/
theorem postUser (id : Nat) : SameLives e (e.postUser id) := by
  refine ⟨rfl, rfl, fun number => ?_, by simp [Engine.postUser], rfl, rfl, rfl, rfl, rfl, rfl⟩
  rw [context?, context?, Engine.postUser, Array.getElem?_map]
  cases e.contexts[number]? with
  | none => rfl
  | some slot => cases slot <;> rfl

end SameLives

/-- Contexts that are the same are in order. -/
theorem Orderly.of_contexts (h : e.Orderly) (hcontexts : e'.contexts = e.contexts)
    (hnext : e'.nextContext = e.nextContext) : e'.Orderly := by
  have hcontext (number : Nat) : e'.context? number = e.context? number := by
    rw [context?, context?, hcontexts]
  exact ⟨fun hc => h.id (hcontext _ ▸ hc), fun hc => h.journal (hcontext _ ▸ hc),
    fun hc => h.encodes (hcontext _ ▸ hc), by rw [hnext, hcontexts, h.next]⟩

/-- What has nothing to do with contexts leaves them in order. -/
theorem Orderly.of_aside (h : e.Orderly) (haside : e.Aside e') : e'.Orderly :=
  h.of_contexts haside.contexts haside.next

/-- What was refused does not concern lives. -/
theorem Refused.sameLives (h : Refused e e') : SameLives e e' := by
  rcases h with rfl | ⟨error, rfl⟩
  · exact .refl _
  · exact .noteViolation error

/-- What was refused has nothing to do with contexts. -/
theorem Refused.aside (h : Refused e e') : e.Aside e' := by
  rcases h with rfl | ⟨error, rfl⟩
  · exact .refl _
  · exact noteViolation_aside error e

/-- Work on a context does not concern lives. -/
theorem work_same {α : Type} (use : ContextUse α) (h : e.Orderly) (number : Nat) :
    (onContext number use.op e).Settles e.SameLives := by
  unfold onContext
  cases hc : e.context? number with
  | none => exact .refl e
  | some c =>
    exact Outcome.settles_mapState.mpr
      ((use.works c).imp fun c' hworks => .putContext hc (h.journal hc) hworks)

/-! ## What is done to contexts -/

/-- What is put into a place is found there, and all else where it was. -/
theorem context?_setPlace (hc : e.context? number = some c) (place : Option Context)
    (other : Nat) :
    (e.setPlace number place).context? other =
      if other = number then place else e.context? other := by
  by_cases heq : other = number
  · subst heq
    simp [setPlace, context?, lt_size_of_context? hc]
  · simp [setPlace, context?, heq, Ne.symm heq]

/-- A context that is gone leaves the others as they are. -/
theorem Orderly.setPlace_none (h : e.Orderly) (number : Nat) :
    (e.setPlace number none).Orderly := by
  have hother {other : Nat} {c : Context}
      (hc : (e.setPlace number none).context? other = some c) : e.context? other = some c := by
    simp only [setPlace, context?, Array.getElem?_setIfInBounds] at hc ⊢
    split at hc
    · split at hc <;> simp at hc
    · exact hc
  exact ⟨fun hc => h.id (hother hc), fun hc => h.journal (hother hc),
    fun hc => h.encodes (hother hc), by simp [setPlace, h.next]⟩

/-- Handing the console over changes nothing but its owner. -/
theorem moveConsole_eq (id : Nat) (e : Engine) :
    e.moveConsole id = { e with
      consoleOwner :=
        if e.consoleOwner = some id then e.registered.min? else e.consoleOwner } := by
  unfold moveConsole
  split <;> rfl

/-- The engine once a context is taken off the registry. -/
def unregistered (e : Engine) (number id : Nat) : Engine :=
  moveConsole id { setPlace number none e with registered := e.registered.erase id }

/-- What an engine knows once a context is taken off the registry. -/
theorem unregistered_eq (e : Engine) (number id : Nat) :
    e.unregistered number id = { e with
      registered := e.registered.erase id
      contexts := e.contexts.setIfInBounds number none
      consoleOwner :=
        if e.consoleOwner = some id then (e.registered.erase id).min? else e.consoleOwner } := by
  rw [unregistered, moveConsole_eq]
  rfl

/-- A context is taken off the registry, or the engine stops. -/
theorem unregister_cases (hc : e.context? number = some c) :
    (∃ message e', unregister number e = .fatal (.recorded message) e') ∨
    (e.LockFree ∧ unregister number e = .done () (e.unregistered number c.id)) := by
  rw [unregister, inPlace_some hc]
  simp only [Op.bind_apply, Op.attempt]
  cases hlock : e.locks.acquire domain .global with
  | error error =>
    left
    simp [takeChecked, take, hlock, Op.fatal]
  | ok locks =>
    right
    have hreleased := HeldLocks.release_acquired hlock
    refine ⟨⟨locks, hlock⟩, ?_⟩
    simp [takeChecked, take, hlock, unregistered_eq, giveBack, Op.bind_apply, Op.modify,
      moveConsole_eq, setPlace, hreleased]

/-- The engine with one context less. -/
def withoutContext (e : Engine) (number id : Nat) : Engine :=
  ((e.note (.guardRemoved id)).note (.contextDestroyed id)).unregistered number id

/-- What an engine knows once it has one context less. -/
theorem withoutContext_eq (e : Engine) (number id : Nat) :
    e.withoutContext number id = { e with
      registered := e.registered.erase id
      contexts := e.contexts.setIfInBounds number none
      log := (e.withoutContext number id).log
      consoleOwner :=
        if e.consoleOwner = some id then (e.registered.erase id).min? else e.consoleOwner } := by
  simp [withoutContext, note_eq, unregistered_eq]

/-- A context that is dropped is taken off the registry, or the engine stops. -/
theorem dropContext_cases (hc : e.context? number = some c) :
    (∃ message e', dropContext number e = .fatal (.recorded message) e') ∨
    (e.LockFree ∧ dropContext number e = .done () (e.withoutContext number c.id)) := by
  have hremoved := (context?_note (.guardRemoved c.id) e number).trans hc
  have hended := (context?_note (.contextDestroyed c.id) _ number).trans hremoved
  have hdrop : dropContext number e =
      unregister number ((e.note (.guardRemoved c.id)).note (.contextDestroyed c.id)) := by
    simp only [dropContext, Op.bind_apply, Op.get, hc, Option.isSome_some, if_pos, announceRemoval,
      announceEnd, inPlace_some hc, inPlace_some hremoved, record, Op.modify]
  rw [hdrop]
  rcases unregister_cases hended with ⟨message, e', hstopped⟩ | ⟨hfree, hdone⟩
  · exact .inl ⟨message, e', hstopped⟩
  · have hlocks : ((e.note (.guardRemoved c.id)).note (.contextDestroyed c.id)).locks = e.locks := by
      rw [note_eq, note_eq]
    exact .inr ⟨by rwa [LockFree, hlocks] at hfree, hdone⟩

/-- The engine is shut down if the lock is free and no context is registered. -/
theorem shutdown_cases (e : Engine) :
    (∃ error, e.locks.acquire domain .global = .error error ∧
      shutdown e = .failed (.lock error) (e.noteViolation error)) ∨
    (e.LockFree ∧ e.registered = [] ∧
      shutdown e = .done () { e with isShutDown := true, consoleOwner := none }) ∨
    (e.LockFree ∧ e.registered ≠ [] ∧
      shutdown e = .failed (.contextsActive e.registered.length) e) := by
  simp only [shutdown]
  cases hlock : e.locks.acquire domain .global with
  | error error =>
    left
    refine ⟨error, rfl, ?_⟩
    rw [Op.bind_apply, locked_refused hlock]
  | ok locks =>
    have hreleased := HeldLocks.release_acquired hlock
    right
    by_cases hempty : e.registered = []
    · left
      refine ⟨⟨locks, hlock⟩, hempty, ?_⟩
      rw [Op.bind_apply, locked_granted hlock]
      simp [Op.bind_apply, Op.thenAlways, Op.get, giveBack, Op.modify, hempty, hreleased]
    · right
      refine ⟨⟨locks, hlock⟩, hempty, ?_⟩
      rw [Op.bind_apply, locked_granted hlock]
      simp [Op.bind_apply, Op.thenAlways, Op.get, giveBack, Op.modify, hempty, Op.fail, hreleased]

/-- A context is interrupted if the lock is free and it is registered. -/
theorem interruptContext_cases (id : Nat) (e : Engine) :
    (∃ error, e.locks.acquire domain .global = .error error ∧
      interruptContext id e = .failed (.lock error) (e.noteViolation error)) ∨
    (e.LockFree ∧ id ∈ e.registered ∧ interruptContext id e =
      .done true ((e.postUser id).note (.interruptPosted id InterruptKind.user.name))) ∨
    (e.LockFree ∧ id ∉ e.registered ∧ interruptContext id e = .done false e) := by
  cases hlock : e.locks.acquire domain .global with
  | error error => exact .inl ⟨error, rfl, locked_refused hlock _⟩
  | ok locks =>
    have hreleased := HeldLocks.release_acquired hlock
    right
    by_cases hregistered : id ∈ e.registered
    · left
      refine ⟨⟨locks, hlock⟩, hregistered, ?_⟩
      rw [interruptContext, locked_granted hlock]
      simp [Op.bind_apply, Op.thenAlways, Op.get, giveBack, Op.modify, hregistered, hreleased,
        record, note_eq, postUser]
    · right
      refine ⟨⟨locks, hlock⟩, hregistered, ?_⟩
      rw [interruptContext, locked_granted hlock]
      simp [Op.bind_apply, Op.thenAlways, Op.get, giveBack, Op.modify, hregistered, hreleased]

/-- Interrupting a context does not concern lives. -/
theorem interruptContext_same (id : Nat) (e : Engine) :
    (interruptContext id e).Settles e.SameLives := by
  rcases e.interruptContext_cases id with ⟨error, _, hended⟩ | ⟨_, _, hended⟩ | ⟨_, _, hended⟩
  · rw [hended]
    exact .noteViolation error
  · rw [hended]
    exact (SameLives.postUser id).trans (.note ⟨rfl, rfl⟩)
  · rw [hended]
    exact .refl e

/-- Interrupting from the console does not concern lives. -/
theorem consoleInterrupt_same (e : Engine) : (consoleInterrupt e).Settles e.SameLives := by
  simp only [consoleInterrupt, Op.bind_apply, Op.get]
  cases e.consoleOwner with
  | none => exact .refl e
  | some id => exact .postUser id

/-- Interrupting a context posts to it and to no other. -/
theorem context?_of_interrupted {id : Nat} (h : interruptContext id e = .done true e')
    (hc : e.context? number = some c) :
    ∃ c', e'.context? number = some c' ∧
      (c.id = id → c' = c.post .user ∧ c'.guard.pending.contains .user = true) ∧
      (c.id ≠ id → c' = c) := by
  rcases e.interruptContext_cases id with ⟨error, _, hended⟩ | ⟨_, _, hended⟩ | ⟨_, _, hended⟩
  · simp [hended] at h
  · rw [hended] at h
    cases h
    rw [context?, Option.join_eq_some_iff] at hc
    refine ⟨if c.id = id then c.post .user else c, ?_, fun hid => ?_, fun hid => if_neg hid⟩
    · rw [note_eq, context?, postUser]
      simp [hc]
    · rw [if_pos hid]
      refine ⟨rfl, ?_⟩
      simp [Context.post, InterruptGuard.post, PendingWord.contains_insert]
  · simp [hended] at h

end Engine

end CallEngine
