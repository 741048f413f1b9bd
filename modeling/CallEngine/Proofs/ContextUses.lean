import CallEngine.Proofs.Activity
import CallEngine.Proofs.StackRecovery

/-!
# What the uses of a context do

An interrupt is taken from the pending word of a context at three places only: at safe points, where
an interrupt is raised and where a trap is signalled. None of them takes one while a region without
interrupts is open on the context, and no use opens or closes a region.

No use moves a frame either. Frames are opened and closed at the end of the chain, so a frame that is
open rests on the same frames as long as it is.
-/

namespace CallEngine

/-! ## The guard of a context -/

namespace InterruptGuard

/-- No region is opened or closed, the pending word still stands for a set of interrupts and, if
`held` says so, whatever is pending stays pending. -/
structure Heeds (held : Prop) (g g' : InterruptGuard) : Prop where
  disabled : g'.disabled = g.disabled
  encodes : (∃ kinds, g.pending.Encodes kinds) → ∃ kinds, g'.pending.Encodes kinds
  pending (hheld : held) (kind : InterruptKind) (hkind : g.pending.contains kind = true) :
    g'.pending.contains kind = true

namespace Heeds

variable {held held' : Prop} {a b c g : InterruptGuard}

/-- The same pending word and the same regions. -/
theorem same {g' : InterruptGuard} (hdisabled : g'.disabled = g.disabled)
    (hpending : g'.pending = g.pending) : Heeds held g g' where
  disabled := hdisabled
  encodes h := by rwa [hpending]
  pending _ _ hkind := by rwa [hpending]

/-- One change after another. -/
theorem trans (hab : Heeds held a b) (hbc : Heeds held b c) : Heeds held a c where
  disabled := hbc.disabled.trans hab.disabled
  encodes h := hbc.encodes (hab.encodes h)
  pending hheld kind hkind := hbc.pending hheld kind (hab.pending hheld kind hkind)

/-- Posting an interrupt adds it to the pending ones. -/
theorem post (held : Prop) (g : InterruptGuard) (kind : InterruptKind) :
    Heeds held g (g.post kind) where
  disabled := rfl
  encodes := by
    rintro ⟨kinds, h⟩
    exact ⟨_, h.insert kind⟩
  pending _ other hother := by
    rw [InterruptGuard.post, PendingWord.contains_insert, hother, Bool.true_or]

/-- A poll takes an interrupt only if no region is open. -/
theorem poll (g : InterruptGuard) : Heeds (g.disabled ≠ 0) g g.poll.2 := by
  unfold InterruptGuard.poll
  split
  · exact .same rfl rfl
  · rename_i henabled
    split
    · exact .same rfl rfl
    · rename_i kind _
      refine ⟨rfl, ?_, fun hdisabled => ?_⟩
      · rintro ⟨kinds, h⟩
        exact ⟨_, h.erase kind⟩
      · simp only [isDisabled, decide_eq_true_eq] at henabled
        omega

/-- Raising an interrupt takes one only if no region is open. -/
theorem raise (g : InterruptGuard) (kind : InterruptKind) :
    Heeds (g.disabled ≠ 0) g (g.raise kind).2 := by
  unfold InterruptGuard.raise
  split
  · exact (post _ g kind).trans (poll (g.post kind))
  · exact post _ g kind

/-- Recording a fault takes no interrupt. -/
theorem signalFault {fault : Fault} {g' : InterruptGuard} (h : g.signalFault fault = .ok g') :
    Heeds held g g' := by
  unfold InterruptGuard.signalFault at h
  split at h
  · cases h
  · cases fault with
    | stackOverflow =>
      cases h
      exact .same rfl rfl
    | arithmetic trap =>
      cases h
      have hfault : Heeds held g { g with faultInFlight := some (.arithmetic trap) } :=
        .same rfl rfl
      exact hfault.trans (post held _ _)

/-- The end of a recovery takes no interrupt. -/
theorem recoverStack (held : Prop) (g : InterruptGuard) : Heeds held g g.recoverStack := by
  unfold InterruptGuard.recoverStack
  split <;> exact .same rfl rfl

end Heeds

/-- Where an interrupt is taken, no region is open. -/
theorem disabled_of_poll {g : InterruptGuard} {kind : InterruptKind} (h : g.poll.1 = some kind) :
    g.disabled = 0 := by
  unfold poll at h
  split at h
  · cases h
  · rename_i henabled
    simpa [isDisabled] using henabled

/-- Where an interrupt is taken as soon as one is raised, no region is open. -/
theorem disabled_of_raise {g : InterruptGuard} {kind taken : InterruptKind}
    (h : (g.raise kind).1 = some taken) : g.disabled = 0 := by
  unfold raise at h
  split at h
  · have hposted : (g.post kind).disabled = 0 := disabled_of_poll h
    exact hposted
  · cases h

end InterruptGuard

/-! ## The chain of frames -/

namespace Context

variable {a b c c' : Context}

/-- Where a frame is still open that was opened in `c`, the frames up to it are those of `c`. -/
structure Rests (c c' : Context) : Prop where
  nextSerial : c.nextSerial ≤ c'.nextSerial
  serials {index : Nat} {record : FrameRecord} (hrecord : c'.frames[index]? = some record)
    (hold : record.serial < c.nextSerial) (i : Nat) (hi : i ≤ index) :
    c'.frames[i]?.map FrameRecord.serial = c.frames[i]?.map FrameRecord.serial

namespace Rests

/-- The serial numbers in the chain are the same. -/
theorem same (hserial : c'.nextSerial = c.nextSerial)
    (h : ∀ i : Nat, c'.frames[i]?.map FrameRecord.serial = c.frames[i]?.map FrameRecord.serial) :
    Rests c c' :=
  ⟨Nat.le_of_eq hserial.symm, fun _ _ i _ => h i⟩

/-- One change of the chain after another. -/
theorem trans (hab : Rests a b) (hbc : Rests b c) : Rests a c where
  nextSerial := Nat.le_trans hab.nextSerial hbc.nextSerial
  serials {index record} hrecord hold i hi := by
    have hthere := hbc.serials hrecord (Nat.lt_of_lt_of_le hold hab.nextSerial)
    have hfound := hthere index (Nat.le_refl index)
    rw [hrecord, Option.map_some] at hfound
    obtain ⟨record', hrecord', hserial⟩ := Option.map_eq_some_iff.mp hfound.symm
    rw [hthere i hi]
    exact hab.serials hrecord' (hserial ▸ hold) i hi

/-- A frame was opened. -/
theorem push {record : FrameRecord} (hframes : c'.frames = c.frames.push record)
    (hrecord : record.serial = c.nextSerial) (hserial : c'.nextSerial = c.nextSerial + 1) :
    Rests c c' := by
  refine ⟨by omega, fun {index found} hfound hold i hi => ?_⟩
  rw [hframes, Array.getElem?_push] at hfound
  split at hfound
  · cases hfound
    omega
  · obtain ⟨hlt, _⟩ := Array.getElem?_eq_some_iff.mp hfound
    rw [hframes, Array.getElem?_push, if_neg (by omega)]

/-- The innermost frame was closed. -/
theorem pop (hframes : c'.frames = c.frames.pop) (hserial : c'.nextSerial = c.nextSerial) :
    Rests c c' := by
  refine ⟨Nat.le_of_eq hserial.symm, fun {index record} hrecord _ i hi => ?_⟩
  rw [hframes] at hrecord ⊢
  obtain ⟨hlt, _⟩ := Array.getElem?_eq_some_iff.mp hrecord
  rw [Array.size_pop] at hlt
  rw [Array.getElem?_pop, if_pos (by omega)]

/-- A frame was marked as running. -/
theorem activate {f : Frame} {record : FrameRecord} (hrecord : c.record? f = some record)
    (hframes : c'.frames = c.frames.setIfInBounds f.index { record with state := .active })
    (hserial : c'.nextSerial = c.nextSerial) : Rests c c' := by
  refine .same hserial fun i => ?_
  obtain ⟨hfound, _⟩ := record?_eq_some.mp hrecord
  rw [hframes, Array.getElem?_setIfInBounds]
  split
  · rename_i heq
    subst heq
    obtain ⟨hlt, _⟩ := Array.getElem?_eq_some_iff.mp hfound
    rw [if_pos hlt, hfound]
    rfl
  · rfl

end Rests

/-- The context is the same one, with room for the same arguments, and its frames rest. -/
structure Stays (c c' : Context) : Prop where
  id : c'.id = c.id
  threshold : c'.smallCallThreshold = c.smallCallThreshold
  capacity : c'.values.capacity = c.values.capacity
  rests : c.Rests c'

namespace Stays

/-- No frame was opened or closed. -/
theorem same (hid : c'.id = c.id) (hthreshold : c'.smallCallThreshold = c.smallCallThreshold)
    (hcapacity : c'.values.capacity = c.values.capacity) (hframes : c'.frames = c.frames)
    (hserial : c'.nextSerial = c.nextSerial) : Stays c c' :=
  ⟨hid, hthreshold, hcapacity, .same hserial fun i => by rw [hframes]⟩

/-- Nothing has changed. -/
theorem refl (c : Context) : Stays c c := .same rfl rfl rfl rfl rfl

/-- One change after another. -/
theorem trans (hab : Stays a b) (hbc : Stays b c) : Stays a c :=
  ⟨hbc.id.trans hab.id, hbc.threshold.trans hab.threshold, hbc.capacity.trans hab.capacity,
    hab.rests.trans hbc.rests⟩

/-- A quiet change leaves everything else as it was. -/
theorem quiet (h : c.Quiet c') : Stays c c' := by
  obtain ⟨_, _, _, _, rfl⟩ := h
  exact .same rfl rfl rfl rfl rfl

end Stays

end Context

/-! ## Uses of a context -/

/-- Whether an interrupt may be delivered. -/
def ContextUse.delivers {α : Type} : ContextUse α → Bool
  | safePoint | raiseInterrupt _ | signalTrap _ => true
  | _ => false

namespace Context

/-- What is done to the delivery state of a context. If `held` says so, nothing is taken and no
delivery is put into the journal; otherwise deliveries are those of this context. -/
structure Heeds (held : Prop) (c c' : Context) : Prop where
  stays : c.Stays c'
  guard : c.guard.Heeds held c'.guard
  journal : ∃ added, c'.journal = added ++ c.journal ∧
    ∀ event ∈ added, ∀ id, event.deliveredOn = some id → id = c.id ∧ ¬ held

namespace Heeds

variable {held : Prop} {a b c c' : Context}

/-- Nothing is put into the journal. -/
theorem ofGuard (hstays : c.Stays c') (hguard : c.guard.Heeds held c'.guard)
    (hjournal : c'.journal = c.journal) : Heeds held c c' :=
  ⟨hstays, hguard, [], hjournal, by simp⟩

/-- The delivery state has not changed. -/
theorem same (hstays : c.Stays c') (hguard : c'.guard = c.guard)
    (hjournal : c'.journal = c.journal) : Heeds held c c' :=
  .ofGuard hstays (.same (by rw [hguard]) (by rw [hguard])) hjournal

/-- One change after another. -/
theorem trans (hab : Heeds held a b) (hbc : Heeds held b c) : Heeds held a c := by
  obtain ⟨first, hfirst, hdelivered⟩ := hab.journal
  obtain ⟨second, hsecond, hdelivered'⟩ := hbc.journal
  refine ⟨hab.stays.trans hbc.stays, hab.guard.trans hbc.guard, second ++ first, ?_, ?_⟩
  · rw [hsecond, hfirst, List.append_assoc]
  · intro event hevent id hid
    rcases List.mem_append.mp hevent with hmem | hmem
    · rw [← hab.stays.id]
      exact hdelivered' event hmem id hid
    · exact hdelivered event hmem id hid

/-- Less may be held than is. -/
theorem mono {held' : Prop} (h : Heeds held c c') (himp : held' → held) : Heeds held' c c' := by
  obtain ⟨added, hadded, hdelivered⟩ := h.journal
  refine ⟨h.stays, ⟨h.guard.disabled, h.guard.encodes, fun hheld => h.guard.pending (himp hheld)⟩,
    added, hadded, fun event hevent id hid => ?_⟩
  obtain ⟨heq, hnot⟩ := hdelivered event hevent id hid
  exact ⟨heq, fun hheld => hnot (himp hheld)⟩

/-- An event that is not a delivery. -/
theorem logged {event : Event} (hevent : event.deliveredOn = none) :
    Heeds held c { c with journal := event :: c.journal } := by
  refine ⟨.same rfl rfl rfl rfl rfl, .same rfl rfl, [event], rfl, fun added hadded id hid => ?_⟩
  rw [List.mem_singleton.mp hadded, hevent] at hid
  cases hid

/-- A delivery on this context. -/
theorem delivered (kind : InterruptKind) (hheld : ¬ held) :
    Heeds held c { c with journal := .interruptDelivered c.id kind.name :: c.journal } := by
  refine ⟨.same rfl rfl rfl rfl rfl, .same rfl rfl, [_], rfl,
    fun added hadded id hid => ⟨?_, hheld⟩⟩
  rw [List.mem_singleton.mp hadded] at hid
  exact (Option.some.inj hid).symm

end Heeds

variable {ε : Type} {c : Context}

/-- The end of a recovery from a stack overflow delivers nothing. -/
theorem settleStack_heeds (held : Prop) (c : Context) : Heeds held c c.settleStack := by
  refine .ofGuard (.quiet c.settleStack_quiet) ?_ rfl
  unfold settleStack
  dsimp only
  split
  · exact .same rfl rfl
  · exact .recoverStack held c.guard

/-- Opening a frame delivers nothing. -/
theorem OpenEnds.heeds {held : Prop} {args : List Value} {o : Outcome Context FrameError Frame}
    (h : c.OpenEnds args o) : o.Settles (Heeds held c) := by
  cases h with
  | tooMany => exact .same (.refl c) rfl rfl
  | buffer =>
    have hcapacity : (c.withBufferFrame args).values.capacity = c.values.capacity :=
      ValueChannel.size_writeFrom _ _ _
    exact .same ⟨rfl, rfl, hcapacity, .push rfl rfl rfl⟩ rfl rfl
  | stack => exact .same ⟨rfl, rfl, rfl, .push rfl rfl rfl⟩ rfl rfl
  | fault => trivial
  | overflow =>
    refine ⟨.same rfl rfl rfl rfl rfl, .same rfl rfl, [_], rfl, fun event hevent id hid => ?_⟩
    rw [List.mem_singleton.mp hevent] at hid
    cases hid
  | exhausted => trivial
  | doubleFault => trivial

/-- A safe point delivers only if no region is open. -/
theorem safePoint_heeds (c : Context) : (safePoint c).Settles (Heeds (c.guard.disabled ≠ 0) c) := by
  have hsettled := settleStack_heeds (c.guard.disabled ≠ 0) c
  have hpoll := InterruptGuard.Heeds.poll c.settleStack.guard
  rw [hsettled.guard.disabled] at hpoll
  have hpolled : Heeds (c.guard.disabled ≠ 0) c
      { c.settleStack with guard := c.settleStack.guard.poll.2 } :=
    hsettled.trans (.ofGuard (.same rfl rfl rfl rfl rfl) hpoll rfl)
  simp only [safePoint, Op.bind_apply, Op.modify, Op.get]
  cases htaken : c.settleStack.guard.poll.1 with
  | none => exact hpolled
  | some kind =>
    have hopen := InterruptGuard.disabled_of_poll htaken
    rw [hsettled.guard.disabled] at hopen
    exact hpolled.trans (.delivered kind (not_not.mpr hopen))

/-- Raising an interrupt delivers only if no region is open. -/
theorem raiseInterrupt_heeds (kind : InterruptKind) (c : Context) :
    (raiseInterrupt kind c).Settles (Heeds (c.guard.disabled ≠ 0) c) := by
  have hraised : Heeds (c.guard.disabled ≠ 0) c { c with guard := (c.guard.raise kind).2 } :=
    .ofGuard (.same rfl rfl rfl rfl rfl) (.raise c.guard kind) rfl
  simp only [raiseInterrupt, Op.bind_apply, Op.modify, Op.get]
  cases htaken : (c.guard.raise kind).1 with
  | some taken =>
    exact hraised.trans (.delivered taken (not_not.mpr (InterruptGuard.disabled_of_raise htaken)))
  | none =>
    dsimp only
    split
    · exact hraised.trans (.logged rfl)
    · exact hraised.trans (.logged rfl)

/-- Signalling a trap delivers only if no region is open. -/
theorem signalTrap_heeds (trap : Trap) (c : Context) :
    (signalTrap trap c).Settles (Heeds (c.guard.disabled ≠ 0) c) := by
  simp only [signalTrap, Op.bind_apply, Op.get]
  cases hfault : c.guard.signalFault (.arithmetic trap) with
  | error double => trivial
  | ok guard =>
    have hsignalled : Heeds (c.guard.disabled ≠ 0) c { c with guard } :=
      .ofGuard (.same rfl rfl rfl rfl rfl) (.signalFault hfault) rfl
    dsimp only [Op.modify]
    split
    · have hpoint := safePoint_heeds { c with guard }
      rw [hsignalled.guard.disabled] at hpoint
      exact hpoint.imp fun _ h => hsignalled.trans h
    · exact hsignalled

end Context

/-- Every use of a context leaves the regions alone, and delivers only if none is open and the use is
one that may deliver. -/
theorem ContextUse.heeds {α : Type} (u : ContextUse α) (c : Context) :
    (u.op c).Settles (c.Heeds (u.delivers = false ∨ c.guard.disabled ≠ 0)) := by
  have hheld (hdelivers : u.delivers = true) :
      u.delivers = false ∨ c.guard.disabled ≠ 0 → c.guard.disabled ≠ 0 :=
    fun h => h.resolve_left (by simp [hdelivers])
  cases u with
  | openFrame argc => exact Op.settles_mapError.mpr (Context.openFrame_ends argc c).heeds
  | openFrameWith args => exact Op.settles_mapError.mpr (Context.openFrameWith_ends args c).heeds
  | activate f =>
    refine Op.settles_mapError.mpr ((Context.activate_settles f c).imp fun c' h => ?_)
    rcases h with rfl | ⟨record, hrecord, rfl⟩
    · exact .same (.refl _) rfl rfl
    · exact .same ⟨rfl, rfl, rfl, .activate hrecord rfl rfl⟩ rfl rfl
  | args f =>
    refine Op.settles_mapError.mpr (Op.settles_read ?_)
    exact .same (.refl c) rfl rfl
  | setArg f index value =>
    refine Op.settles_mapError.mpr ?_
    rw [Context.setArg_apply]
    obtain ⟨_, _, hcapacity, _, hwritten⟩ := Context.writeSlot_slots f index value c
    rw [hwritten]
    cases c.checkAccess f index with
    | error error => exact .same (.refl c) rfl rfl
    | ok _ => exact .same (.same rfl rfl hcapacity rfl rfl) rfl rfl
  | closeFrame f =>
    refine (Context.closeFrame_settled f c).imp fun c' h => ?_
    obtain ⟨record, rfl⟩ := h
    have hclosed {held : Prop} : c.Heeds held (c.withoutFrame f record) :=
      .same ⟨rfl, rfl, rfl, .pop rfl rfl⟩ rfl rfl
    exact hclosed.trans (Context.settleStack_heeds _ _)
  | setValues values =>
    refine Op.settles_mapError.mpr ?_
    rw [Context.setValues_apply, ValueChannel.set]
    split
    · rename_i channel hset
      split at hset
      · cases hset
        exact .same (.same rfl rfl (ValueChannel.size_writeFrom _ _ _) rfl rfl) rfl rfl
      · cases hset
    · exact .same (.refl c) rfl rfl
  | setValue value => exact .same (.same rfl rfl Array.size_setIfInBounds rfl rfl) rfl rfl
  | clearValues => exact .same (.same rfl rfl rfl rfl rfl) rfl rfl
  | primary => exact .same (.refl c) rfl rfl
  | safePoint =>
    exact Op.settles_mapError.mpr ((Context.safePoint_heeds c).imp fun _ h => h.mono (hheld rfl))
  | raiseInterrupt kind =>
    have hraised := Context.raiseInterrupt_heeds kind c
    exact Op.settles_mapError.mpr (hraised.imp fun _ h => h.mono (hheld rfl))
  | signalTrap trap =>
    have hsignalled := Context.signalTrap_heeds trap c
    exact Op.settles_mapError.mpr (hsignalled.imp fun _ h => h.mono (hheld rfl))
  | post kind => exact .ofGuard (.same rfl rfl rfl rfl rfl) (.post _ c.guard kind) rfl

/-! ## Safe points -/

namespace Context

variable {c : Context} {kinds : Finset InterruptKind} {kind : InterruptKind}

/-- The end of a recovery from a stack overflow changes neither the pending interrupts nor the
regions. -/
theorem settleStack_guard (c : Context) : c.settleStack.guard.pending = c.guard.pending ∧
    c.settleStack.guard.disabled = c.guard.disabled := by
  unfold settleStack InterruptGuard.recoverStack
  dsimp only
  split
  · exact ⟨rfl, rfl⟩
  · split <;> exact ⟨rfl, rfl⟩

/-- A safe point takes nothing if a region is open or nothing is pending. -/
theorem safePoint_idle (h : c.guard.pending.Encodes kinds)
    (hnothing : c.guard.disabled ≠ 0 ∨ kinds = ∅) : safePoint c = .done () c.settleStack := by
  obtain ⟨hpending, hdisabled⟩ := c.settleStack_guard
  rw [← hpending] at h
  rw [← hdisabled] at hnothing
  simp [safePoint, Op.bind_apply, Op.modify, Op.get, InterruptGuard.poll_eq_none h hnothing]

/-- A safe point takes the most urgent pending interrupt if no region is open. -/
theorem safePoint_taken (h : c.guard.pending.Encodes kinds) (henabled : c.guard.disabled = 0)
    (hurgent : MostUrgent kinds kind) : safePoint c = .failed (.ofKind kind)
      { c.settleStack with
        guard := c.settleStack.guard.take kind
        journal := .interruptDelivered c.id kind.name :: c.journal } := by
  obtain ⟨hpending, hdisabled⟩ := c.settleStack_guard
  rw [← hpending] at h
  rw [← hdisabled] at henabled
  simp only [safePoint, Op.bind_apply, Op.modify, Op.get,
    InterruptGuard.poll_eq_some h henabled hurgent]
  rfl

end Context

end CallEngine
