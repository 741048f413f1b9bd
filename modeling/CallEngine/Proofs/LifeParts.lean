import CallEngine.Proofs.ContextLives

/-!
# The parts of the life of a context

A context is created and dropped in parts, and other threads may do something between any two of
them. How far a life is says what the engine knows about the context, and each part is said to change
that and nothing else. Only the last part of a creation may be impossible: then the context is lost.
-/

namespace CallEngine

/-! ## Checks of the program -/

namespace Context

variable {c : Context}

/-- No check fails when a frame is opened. -/
theorem OpenEnds.isPanic_eq {args : List Value} {o : Outcome Context FrameError Frame}
    (h : c.OpenEnds args o) : o.isPanic = false := by
  cases h <;> rfl

/-- No check fails at a safe point. -/
theorem isPanic_safePoint (c : Context) : (safePoint c).isPanic = false := by
  simp only [safePoint, Op.bind_apply, Op.modify, Op.get]
  cases c.settleStack.guard.poll.1 <;> rfl

/-- No check fails when a frame is closed. -/
theorem isPanic_closeFrame {ε : Type} (f : Frame) (c : Context) :
    (closeFrame f c : Outcome Context ε Unit).isPanic = false := by
  simp only [closeFrame, Op.bind_apply, Op.get]
  cases c.record? f with
  | none => rfl
  | some record =>
    dsimp only
    split <;> rfl

/-- No check fails when an interrupt is raised. -/
theorem isPanic_raiseInterrupt (kind : InterruptKind) (c : Context) :
    (raiseInterrupt kind c).isPanic = false := by
  simp only [raiseInterrupt, Op.bind_apply, Op.modify, Op.get]
  cases (c.guard.raise kind).1 with
  | some taken => rfl
  | none =>
    dsimp only
    split <;> rfl

/-- No check fails when a trap is signalled. -/
theorem isPanic_signalTrap (trap : Trap) (c : Context) : (signalTrap trap c).isPanic = false := by
  simp only [signalTrap, Op.bind_apply, Op.get]
  cases c.guard.signalFault (.arithmetic trap) with
  | error double => rfl
  | ok guard =>
    dsimp only [Op.modify]
    split
    · exact isPanic_safePoint _
    · rfl

end Context

/-- Whatever is done on a context, no check of the program fails. -/
theorem ContextUse.isPanic_op {α : Type} (u : ContextUse α) (c : Context) :
    (u.op c).isPanic = false := by
  cases u with
  | openFrame argc =>
    exact (Op.isPanic_mapError _ _ c).trans (Context.openFrame_ends argc c).isPanic_eq
  | openFrameWith args =>
    exact (Op.isPanic_mapError _ _ c).trans (Context.openFrameWith_ends args c).isPanic_eq
  | activate f =>
    rw [op, Op.isPanic_mapError]
    simp only [Context.activate, Op.bind_apply, Op.get]
    cases c.record? f <;> rfl
  | args f =>
    rw [op, Op.isPanic_mapError, Op.read]
    cases c.args f <;> rfl
  | setArg f index value =>
    rw [op, Op.isPanic_mapError, Context.setArg_apply]
    cases c.checkAccess f index <;> rfl
  | closeFrame f => exact Context.isPanic_closeFrame f c
  | setValues values =>
    rw [op, Op.isPanic_mapError, Context.setValues_apply]
    cases c.values.set values <;> rfl
  | safePoint => exact (Op.isPanic_mapError _ _ c).trans c.isPanic_safePoint
  | raiseInterrupt kind =>
    exact (Op.isPanic_mapError _ _ c).trans (Context.isPanic_raiseInterrupt kind c)
  | signalTrap trap => exact (Op.isPanic_mapError _ _ c).trans (Context.isPanic_signalTrap trap c)
  | setValue | clearValues | primary | post => rfl

/-! ## Lives -/

/-- How far the life of a context is. -/
inductive Life where
  | registered
  | announced
  | guarded
  | routed
  | alive
  | unguarded
  | destroyed
  | gone
  /-- The context was never completed. -/
  | lost
deriving Repr, DecidableEq

namespace Life

/-- Whether there is something in the place of the context. -/
def inPlace : Life → Bool
  | gone | lost => false
  | _ => true

def isRegistered : Life → Bool
  | gone => false
  | _ => true

/-- Whether it was recorded that the context is created. -/
def isBorn : Life → Bool
  | registered => false
  | _ => true

/-- Whether it was recorded that the context is destroyed. -/
def isDead : Life → Bool
  | destroyed | gone => true
  | _ => false

/-- Whether the console was not yet offered to the context. -/
def isUnrouted : Life → Bool
  | registered | announced | guarded => true
  | _ => false

/-- What the life is after its next part. -/
def next : Life → Life
  | registered => announced
  | announced => guarded
  | guarded => routed
  | routed => alive
  | alive => unguarded
  | unguarded => destroyed
  | destroyed => gone
  | gone => gone
  | lost => lost

/-- The next part of a life. -/
def part (number : Nat) : Life → EngineOp Unit
  | registered => Engine.announceContext number
  | announced => Engine.announceGuard number
  | guarded => Engine.routeContext number
  | routed => do
    let _ ← Engine.finishContext number
  | alive => Engine.announceRemoval number
  | unguarded => Engine.announceEnd number
  | destroyed => Engine.unregister number
  | gone | lost => return ()

/-- One life leads to another. -/
inductive Leads : Life → Life → Prop
  | next (life : Life) (h : life.inPlace = true) : Leads life life.next
  | lost : Leads routed lost

/-- What leads to something is in its place and registered. -/
theorem Leads.registered {old new : Life} (h : Leads old new) : old.isRegistered = true := by
  cases h with
  | next _ hplace => cases old <;> first | rfl | cases hplace
  | lost => rfl

/-- A birth is recorded with the part that comes first. -/
theorem Leads.isBorn {old new : Life} (h : Leads old new) :
    new.isBorn = (decide (new = .announced) || old.isBorn) := by
  cases h with
  | next => cases old <;> rfl
  | lost => rfl

/-- A death is recorded with the last part but one. -/
theorem Leads.isDead {old new : Life} (h : Leads old new) :
    new.isDead = (decide (new = .destroyed) || old.isDead) := by
  cases h with
  | next => cases old <;> rfl
  | lost => rfl

/-- The console is offered once. -/
theorem Leads.isUnrouted {old new : Life} (h : Leads old new) :
    old.isUnrouted = (decide (new = .routed) || new.isUnrouted) := by
  cases h with
  | next => cases old <;> rfl
  | lost => rfl

/-- Only what is gone is not registered. -/
theorem isRegistered_eq (life : Life) : life.isRegistered = !decide (life = .gone) := by
  cases life <;> rfl

end Life

namespace Engine

variable {e e' : Engine} {number : Nat} {c : Context} {old new : Life}

/-- What the engine knows after a part of the life of one context. -/
structure Turns (number : Nat) (new : Life) (e e' : Engine) : Prop where
  settings : e'.settings = e.settings
  recording : e'.recording = e.recording
  orderly : e'.Orderly
  size : e'.contexts.size = e.contexts.size
  isShutDown : e'.isShutDown = e.isShutDown
  place (other : Nat) : (e'.context? other).isSome =
    if other = number then new.inPlace else (e.context? other).isSome
  registered : e'.registered =
    if new = .gone then e.registered.erase (number + 1) else e.registered
  births (h : e.recording = true) : e'.births =
    if new = .announced then (number + 1) :: e.births else e.births
  deaths (h : e.recording = true) : e'.deaths =
    if new = .destroyed then (number + 1) :: e.deaths else e.deaths
  console : e'.consoleOwner =
    if new = .routed ∧ e.settings.signalHandlers = true ∧ e.consoleOwner = none then some (number + 1)
    else if new = .gone ∧ e.consoleOwner = some (number + 1) then e'.registered.min?
    else e.consoleOwner

/-- An event is recorded with a part that changes nothing else. -/
theorem Turns.ofNote (horderly : e.Orderly) (hc : e.context? number = some c) {event : Event}
    (hevent : event.deliveredOn = none) (hplace : new.inPlace = true) (hrouted : new ≠ .routed)
    (hborn : event.createdOn = if new = .announced then some (number + 1) else none)
    (hdead : event.destroyedOn = if new = .destroyed then some (number + 1) else none) :
    Turns number new e (e.note event) := by
  have haside := note_aside hevent e
  have hgone : new ≠ .gone := by
    rintro rfl
    cases hplace
  refine ⟨by rw [note_eq], by rw [note_eq], horderly.of_aside haside, by rw [haside.contexts],
    by rw [note_eq], fun other => ?_, by rw [note_eq, if_neg hgone], fun hrecording => ?_,
    fun hrecording => ?_, ?_⟩
  · rw [context?_note]
    split
    · rename_i heq
      rw [heq, hc, hplace]
      rfl
    · rfl
  · rw [births_note hrecording, hborn]
    split <;> rfl
  · rw [deaths_note hrecording, hdead]
    split <;> rfl
  · simp [note_eq, hrouted, hgone]

/-- The console is offered to a context. -/
theorem Turns.route (horderly : e.Orderly) (hc : e.context? number = some c) :
    Turns number .routed e (e.routeConsole c.id) := by
  have hplace (other : Nat) : ((e.routeConsole c.id).context? other).isSome =
      if other = number then true else (e.context? other).isSome := by
    rw [context?_routeConsole]
    split
    · rename_i heq
      rw [heq, hc]
      rfl
    · rfl
  rw [horderly.id hc, routeConsole_eq] at hplace ⊢
  refine ⟨rfl, rfl, horderly.of_contexts rfl rfl, rfl, rfl, hplace, rfl, fun _ => rfl,
    fun _ => rfl, ?_⟩
  cases e.consoleOwner <;> simp

/-- The place of a context is filled or emptied. -/
theorem Turns.ofPlace (hc : e.context? number = some c) {place : Option Context}
    (horderly : (e.setPlace number place).Orderly) (hplace : place.isSome = new.inPlace)
    (hnew : new = .alive ∨ new = .lost) : Turns number new e (e.setPlace number place) := by
  have hplaced (other : Nat) : ((e.setPlace number place).context? other).isSome =
      if other = number then new.inPlace else (e.context? other).isSome := by
    rw [context?_setPlace hc]
    split
    · exact hplace
    · rfl
  have hsize : (e.setPlace number place).contexts.size = e.contexts.size := by simp [setPlace]
  rcases hnew with rfl | rfl
  · exact ⟨rfl, rfl, horderly, hsize, rfl, hplaced, rfl, fun _ => rfl, fun _ => rfl, rfl⟩
  · exact ⟨rfl, rfl, horderly, hsize, rfl, hplaced, rfl, fun _ => rfl, fun _ => rfl, rfl⟩

/-- A context is taken off the registry. -/
theorem Turns.unregister (horderly : e.Orderly) (hc : e.context? number = some c) :
    Turns number .gone e (e.unregistered number c.id) := by
  have hset := horderly.setPlace_none number
  have hplace (other : Nat) : ((e.setPlace number none).context? other).isSome =
      if other = number then false else (e.context? other).isSome := by
    rw [context?_setPlace hc]
    split <;> rfl
  rw [horderly.id hc, unregistered_eq]
  refine ⟨rfl, rfl, hset.of_contexts rfl rfl, by simp, rfl, hplace, rfl, fun _ => rfl, fun _ => rfl,
    ?_⟩
  simp

/-- A context that is registered is new. -/
theorem Orderly.withPlace (h : e.Orderly) (stack : OperandStack) : (e.withPlace stack).Orderly := by
  have hordered {other : Nat} {d : Context} (hd : (e.withPlace stack).context? other = some d) :
      d.id = other + 1 ∧ d.journal = [] ∧ ∃ kinds, d.guard.pending.Encodes kinds := by
    rw [context?_withPlace] at hd
    split at hd
    · rename_i heq
      cases hd
      exact ⟨heq ▸ h.next, rfl, ∅, PendingWord.Encodes.empty⟩
    · exact ⟨h.id hd, h.journal hd, h.encodes hd⟩
  exact ⟨fun hd => (hordered hd).1, fun hd => (hordered hd).2.1, fun hd => (hordered hd).2.2,
    by simp [Engine.withPlace, h.next]⟩

/-- A context that gets its channel of values leaves the others as they are. -/
theorem Orderly.setPlace_values (h : e.Orderly) (hc : e.context? number = some c)
    (values : ValueChannel) : (e.setPlace number (some { c with values })).Orderly := by
  have hordered {other : Nat} {d : Context}
      (hd : (e.setPlace number (some { c with values })).context? other = some d) :
      d.id = other + 1 ∧ d.journal = [] ∧ ∃ kinds, d.guard.pending.Encodes kinds := by
    rw [context?_setPlace hc] at hd
    split at hd
    · rename_i heq
      cases hd
      exact ⟨heq ▸ (h.id hc :), (h.journal hc :), (h.encodes hc :)⟩
    · exact ⟨h.id hd, h.journal hd, h.encodes hd⟩
  exact ⟨fun hd => (hordered hd).1, fun hd => (hordered hd).2.1, fun hd => (hordered hd).2.2,
    by simp [setPlace, h.next]⟩

/-- A part of a life is taken, unless the engine stops. The channel of values is the only part that
may be impossible. -/
theorem part_cases (horderly : e.Orderly) (hc : e.context? number = some c)
    (hplace : old.inPlace = true) :
    (∃ e', old.part number e = .done () e' ∧ Turns number old.next e e' ∧
      (old = .routed → e.settings.multipleValuesLimit < 2 ^ 59)) ∨
    (∃ e', old.part number e = .fatal (.panic .capacity) e' ∧ old = .routed ∧
      Turns number .lost e e' ∧ ¬ e.settings.multipleValuesLimit < 2 ^ 59) ∨
    (∃ message e', old.part number e = .fatal (.recorded message) e') := by
  have hid := horderly.id hc
  have hother (h : old ≠ .routed) : old = .routed → e.settings.multipleValuesLimit < 2 ^ 59 :=
    fun hrouted => absurd hrouted h
  cases old with
  | registered =>
    have hborn : (Event.contextCreated c.id c.stack.capacity).createdOn = some (number + 1) :=
      congrArg some hid
    exact .inl ⟨_, announceContext_done hc, .ofNote horderly hc rfl rfl (by decide) hborn rfl,
      hother (by decide)⟩
  | announced =>
    exact .inl ⟨_, announceGuard_done hc, .ofNote horderly hc rfl rfl (by decide) rfl rfl,
      hother (by decide)⟩
  | guarded => exact .inl ⟨_, routeContext_done hc, .route horderly hc, hother (by decide)⟩
  | routed =>
    rw [Life.part, Op.bind_apply, finishContext_apply hc]
    by_cases hlimit : e.settings.multipleValuesLimit < 2 ^ 59
    · rw [if_pos hlimit]
      exact .inl ⟨_, rfl, .ofPlace hc (horderly.setPlace_values hc _) rfl (.inl rfl), fun _ => hlimit⟩
    · rw [if_neg hlimit]
      exact .inr (.inl ⟨_, rfl, rfl, .ofPlace hc (horderly.setPlace_none number) rfl (.inr rfl),
        hlimit⟩)
  | alive =>
    have hpart : Life.part number .alive e = .done () (e.note (.guardRemoved c.id)) := by
      rw [Life.part, announceRemoval, inPlace_some hc]
      rfl
    exact .inl ⟨_, hpart, .ofNote horderly hc rfl rfl (by decide) rfl rfl, hother (by decide)⟩
  | unguarded =>
    have hpart : Life.part number .unguarded e = .done () (e.note (.contextDestroyed c.id)) := by
      rw [Life.part, announceEnd, inPlace_some hc]
      rfl
    have hdead : (Event.contextDestroyed c.id).destroyedOn = some (number + 1) := congrArg some hid
    exact .inl ⟨_, hpart, .ofNote horderly hc rfl rfl (by decide) rfl hdead, hother (by decide)⟩
  | destroyed =>
    rcases unregister_cases hc with ⟨message, e', hstopped⟩ | ⟨_, hdone⟩
    · exact .inr (.inr ⟨message, e', hstopped⟩)
    · exact .inl ⟨_, hdone, .unregister horderly hc, hother (by decide)⟩
  | gone => cases hplace
  | lost => cases hplace

end Engine

end CallEngine
