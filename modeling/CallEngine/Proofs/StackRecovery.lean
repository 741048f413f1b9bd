import CallEngine.Proofs.ContextLimits
import CallEngine.Proofs.FrameOperations
import CallEngine.Proofs.Guarantee
import CallEngine.Proofs.PrioritySet

/-!
# Recovery from stack overflows

A refused reservation opens the safety area of the operand stack and puts a fault in flight, and
both have to end together, wherever the recovery ends. A trap in flight has to be pending, or it
would never be delivered and stay in flight. Here both are shown for every context that can be
reached. So a refused reservation stops the engine only in the safety area or while a trap is
undelivered, and after a recovery it is an error that can be handled, as the first one was.

The opening of a frame can only stop the engine for another reason if there is room on the operand
stack and no memory for it. That takes a stack whose size wraps.
-/

namespace CallEngine

/-! ## The safety area -/

namespace OperandStack

variable {s : OperandStack}

/-- The safety area stays open as long as usage is not below the logical end. -/
theorem safetyOpen_settle (s : OperandStack) :
    s.settle.2.safetyOpen = true ↔ s.safetyOpen = true ∧ s.logicalEnd ≤ s.top := by
  unfold settle canSettle
  by_cases hopen : s.safetyOpen <;> by_cases htop : s.top < s.logicalEnd <;>
    simp [hopen, htop, Nat.not_lt.mp, Nat.not_le.mpr]

/-- Closing the safety area leaves every slot in use. -/
theorem top_settle (s : OperandStack) : s.settle.2.top = s.top := by
  unfold settle
  split <;> rfl

/-- Closing the safety area does not move the logical end. -/
theorem logicalEnd_settle (s : OperandStack) : s.settle.2.logicalEnd = s.logicalEnd := by
  unfold settle
  split <;> rfl

/-- The limit is never beyond the real end. -/
theorem limit_le_capacity (s : OperandStack) : s.limit ≤ s.capacity := by
  unfold limit logicalEnd
  split <;> omega

/-- A safety area that could be closed is closed. -/
theorem settle_settle (s : OperandStack) : s.settle.2.settle.2 = s.settle.2 := by
  have hsettled : s.settle.2.canSettle = false := by
    unfold settle canSettle
    split
    · rfl
    · rename_i hopen
      simpa using hopen
  rw [settle, hsettled]
  rfl

/-- Usage stays within the limit when the safety area is closed. -/
theorem top_le_limit_settle (h : s.top ≤ s.limit) : s.settle.2.top ≤ s.settle.2.limit := by
  unfold settle
  split
  · rename_i hsettle
    simp only [canSettle, Bool.and_eq_true, decide_eq_true_eq] at hsettle
    exact Nat.le_of_lt hsettle.2
  · exact h

/-- Usage stays within the limit when slots are given up. -/
theorem top_le_limit_truncate (h : s.top ≤ s.limit) (offset : Nat) :
    (s.truncate offset).top ≤ (s.truncate offset).limit := by
  have hlimit : (s.truncate offset).limit = s.limit := by
    unfold truncate
    split <;> rfl
  rw [top_truncate, hlimit]
  exact Nat.le_trans (Nat.min_le_right _ _) h

end OperandStack

/-! ## The fault in flight -/

namespace InterruptGuard

/-- The fault in flight fits what else is known: it is a stack overflow exactly while the safety
area is open, and a trap is pending until it is delivered. -/
structure Accounts (g : InterruptGuard) (safetyOpen : Bool) : Prop where
  overflow_iff : g.faultInFlight = some .stackOverflow ↔ safetyOpen = true
  trap_pending (trap : Trap) (hfault : g.faultInFlight = some (.arithmetic trap)) :
    g.pending.contains (.arithmetic trap) = true

/-- A poll puts no fault in flight. -/
theorem faultInFlight_poll {g : InterruptGuard} (hnone : g.faultInFlight = none) :
    g.poll.2.faultInFlight = none := by
  unfold poll
  split
  · exact hnone
  · split
    · exact hnone
    · rename_i kind _
      cases kind <;> simp [take, hnone]

namespace Accounts

variable {g : InterruptGuard} {safetyOpen : Bool}

/-- A trap stays pending when an interrupt is posted. -/
theorem post (h : g.Accounts safetyOpen) (kind : InterruptKind) :
    (g.post kind).Accounts safetyOpen where
  overflow_iff := h.overflow_iff
  trap_pending trap hfault := by
    rw [InterruptGuard.post, PendingWord.contains_insert, h.trap_pending trap hfault, Bool.true_or]

/-- A trap in flight stays pending until it is taken, and then it is no longer in flight. -/
theorem take (h : g.Accounts safetyOpen) (kind : InterruptKind) :
    (g.take kind).Accounts safetyOpen := by
  -- If the trap in flight is the one that is taken, nothing is in flight that could be lost. If it
  -- is another one, its bit is not the one that is cleared.
  by_cases hends : ∃ trap, kind = .arithmetic trap ∧ g.faultInFlight = some (.arithmetic trap)
  · obtain ⟨trap, rfl, hfault⟩ := hends
    have hnone : (g.take (.arithmetic trap)).faultInFlight = none := if_pos hfault
    have hclosed := h.overflow_iff
    rw [hfault] at hclosed
    exact ⟨by simpa [hnone] using hclosed, by simp [hnone]⟩
  · have hkept : (g.take kind).faultInFlight = g.faultInFlight := by
      cases kind with
      | user => rfl
      | arithmetic trap => exact if_neg fun hfault => hends ⟨trap, rfl, hfault⟩
    refine ⟨hkept ▸ h.overflow_iff, fun trap hfault => ?_⟩
    rw [hkept] at hfault
    have hne : kind ≠ .arithmetic trap := fun heq => hends ⟨trap, heq, hfault⟩
    change (g.pending.erase kind).contains (.arithmetic trap) = true
    rw [PendingWord.contains_erase, h.trap_pending trap hfault]
    simpa using hne

/-- A poll takes at most one interrupt. -/
theorem poll (h : g.Accounts safetyOpen) : g.poll.2.Accounts safetyOpen := by
  unfold InterruptGuard.poll
  split
  · exact h
  · split
    · exact h
    · exact h.take _

/-- Raising an interrupt is posting it, with or without a poll. -/
theorem raise (h : g.Accounts safetyOpen) (kind : InterruptKind) :
    (g.raise kind).2.Accounts safetyOpen := by
  unfold InterruptGuard.raise
  split
  · exact (h.post kind).poll
  · exact h.post kind

/-- A trap that is signalled is pending. -/
theorem signalTrap (h : g.Accounts safetyOpen) (trap : Trap) (hnone : g.faultInFlight = none) :
    ({ g.post (.arithmetic trap) with faultInFlight := some (.arithmetic trap) } :
      InterruptGuard).Accounts safetyOpen where
  overflow_iff := by simpa [hnone] using h.overflow_iff
  trap_pending other hother := by
    cases hother
    simp [InterruptGuard.post, PendingWord.contains_insert]

/-- A stack overflow in flight goes with an open safety area. -/
theorem overflow (g : InterruptGuard) :
    ({ g with faultInFlight := some .stackOverflow } : InterruptGuard).Accounts true :=
  ⟨by simp, by simp⟩

/-- No stack overflow is in flight after a recovery. -/
theorem recoverStack (h : g.Accounts safetyOpen) : g.recoverStack.Accounts false := by
  unfold InterruptGuard.recoverStack
  split
  · exact ⟨by simp, by simp⟩
  · rename_i hfault
    exact ⟨by simp [hfault], h.trap_pending⟩

end Accounts

end InterruptGuard

/-! ## Opening frames -/

namespace Context

variable {ε : Type} {c : Context} {args : List Value}

/-- The operand stack is asked for `argc` slots and has fewer left. -/
structure LacksRoom (c : Context) (argc : Nat) : Prop where
  large : c.smallCallThreshold ≤ argc
  allowed : argc ≤ c.callArgumentsLimit
  short : c.stack.available < argc

/-- There is room for `argc` slots on the operand stack, but not all of it is in memory. -/
structure LacksMemory (c : Context) (argc : Nat) : Prop where
  large : c.smallCallThreshold ≤ argc
  allowed : argc ≤ c.callArgumentsLimit
  room : argc ≤ c.stack.available
  unheld : ¬ c.stack.Holds (c.stack.top + argc)

/-- The context after a first overflow. -/
def overflowed (c : Context) (argc : Nat) : Context :=
  { c with
    stack := { c.stack with safetyOpen := true }
    guard := { c.guard with faultInFlight := some .stackOverflow }
    journal := .stackOverflow c.id argc c.stack.available :: c.journal }

/-- How the opening of a frame that is to hold `args` ends, and why. -/
inductive OpenEnds (c : Context) (args : List Value) : Outcome Context FrameError Frame → Prop
  | tooMany (hmany : c.callArgumentsLimit < args.length) :
    OpenEnds c args (.failed (.tooManyArguments args.length c.callArgumentsLimit) c)
  | buffer (hsmall : args.length < c.smallCallThreshold) :
    OpenEnds c args (.done (c.bufferFrame args.length) (c.withBufferFrame args))
  | stack (hroom : args.length ≤ c.stack.available)
    (hheld : c.stack.Holds (c.stack.top + args.length)) :
    OpenEnds c args (.done (c.stackFrame args.length) (c.withStackFrame args))
  | fault (hlacks : c.LacksMemory args.length) : OpenEnds c args (.fatal .fault c)
  | overflow (hlacks : c.LacksRoom args.length) (hclosed : c.stack.safetyOpen = false)
    (hnone : c.guard.faultInFlight = none) :
    OpenEnds c args
      (.failed (.stackOverflow args.length c.stack.available) (c.overflowed args.length))
  | exhausted (hlacks : c.LacksRoom args.length) (hopen : c.stack.safetyOpen = true)
    (message : String) (c' : Context) : OpenEnds c args (.fatal (.recorded message) c')
  | doubleFault (hlacks : c.LacksRoom args.length) (hclosed : c.stack.safetyOpen = false)
    {first : Fault} (hfault : c.guard.faultInFlight = some first) (message : String)
    (c' : Context) : OpenEnds c args (.fatal (.recorded message) c')

/-- A reservation for which there is no room ends as the safety area and the fault in flight say. -/
theorem openStack_ends (hlacks : c.LacksRoom args.length) :
    OpenEnds c args (openStack args.length c) := by
  have hfull : ¬ args.length ≤ c.stack.available := Nat.not_le.mpr hlacks.short
  rw [openStack_of_full hfull]
  by_cases hopen : c.stack.safetyOpen = true
  · rw [if_pos hopen]
    exact .exhausted hlacks hopen _ _
  · have hclosed : c.stack.safetyOpen = false := Bool.eq_false_iff.mpr hopen
    rw [if_neg hopen]
    simp only [stackExhausted, Op.bind_apply, Op.get]
    cases hfault : c.guard.faultInFlight with
    | some first =>
      rw [InterruptGuard.signalFault_refused hfault]
      exact .doubleFault hlacks hclosed hfault _ _
    | none =>
      rw [InterruptGuard.signalFault_stackOverflow hfault]
      exact .overflow hlacks hclosed hfault

/-- The opening of a frame for nils ends in one of these ways. -/
theorem openFrame_ends (argc : Nat) (c : Context) :
    OpenEnds c (List.replicate argc .nil) (openFrame argc c) := by
  have hlength : (List.replicate argc Value.nil).length = argc := List.length_replicate
  simp only [openFrame, Op.bind_apply, Op.get]
  split
  · rename_i hmany
    have hends := OpenEnds.tooMany (hlength.symm ▸ hmany)
    rwa [hlength] at hends
  · rename_i hallowed
    split
    · rename_i hsmall
      have hends := OpenEnds.buffer (hlength.symm ▸ hsmall)
      rwa [hlength, ← openBuffer_apply] at hends
    · rename_i hlarge
      by_cases hroom : argc ≤ c.stack.available
      · by_cases hheld : c.stack.Holds (c.stack.top + argc)
        · have hends : c.OpenEnds (List.replicate argc .nil) _ :=
            .stack (hlength.symm ▸ hroom) (hlength.symm ▸ hheld)
          rwa [hlength, ← openStack_of_room hroom hheld] at hends
        · rw [openStack_of_unheld hroom hheld]
          have hlacks : c.LacksMemory argc :=
            ⟨Nat.not_lt.mp hlarge, Nat.not_lt.mp hallowed, hroom, hheld⟩
          exact .fault (hlength.symm ▸ hlacks)
      · have hlacks : c.LacksRoom argc :=
          ⟨Nat.not_lt.mp hlarge, Nat.not_lt.mp hallowed, Nat.not_le.mp hroom⟩
        have hends := openStack_ends (hlength.symm ▸ hlacks)
        rwa [hlength] at hends

/-- The opening of a frame with arguments ends as it ends for nils. -/
theorem openFrameWith_ends (args : List Value) (c : Context) :
    OpenEnds c args (openFrameWith args c) := by
  have hends := openFrame_ends args.length c
  have hlength : (List.replicate args.length Value.nil).length = args.length :=
    List.length_replicate
  simp only [openFrameWith, Op.bind_apply, Op.modify]
  generalize openFrame args.length c = opened at hends
  cases hends with
  | tooMany hmany =>
    rw [hlength] at hmany ⊢
    exact .tooMany hmany
  | buffer hsmall =>
    rw [hlength] at hsmall ⊢
    dsimp only
    rw [writeSlots_bufferFrame]
    exact .buffer hsmall
  | stack hroom hheld =>
    rw [hlength] at hroom hheld ⊢
    dsimp only
    rw [writeSlots_stackFrame]
    exact .stack hroom hheld
  | fault hlacks => exact .fault (hlength ▸ hlacks)
  | overflow hlacks hclosed hnone =>
    rw [hlength] at hlacks ⊢
    exact .overflow hlacks hclosed hnone
  | exhausted hlacks hopen message c' => exact .exhausted (hlength ▸ hlacks) hopen message c'
  | doubleFault hlacks hclosed hfault message c' =>
    exact .doubleFault (hlength ▸ hlacks) hclosed hfault message c'

/-! ## What every operation keeps -/

/-- Giving up the slots of a frame does not close the safety area by itself. -/
theorem safetyOpen_withoutFrame (f : Frame) (record : FrameRecord) (c : Context) :
    (c.withoutFrame f record).stack.safetyOpen = c.stack.safetyOpen := by
  unfold withoutFrame
  cases f.base with
  | values => rfl
  | stack offset =>
    dsimp only [OperandStack.truncate]
    split <;> rfl

/-- The fault in flight fits the safety area and the pending interrupts, and usage is within the
limit. -/
structure Accounted (c : Context) : Prop where
  guard : c.guard.Accounts c.stack.safetyOpen
  top_le : c.stack.top ≤ c.stack.limit

namespace Accounted

/-- Nothing else of a context matters. -/
theorem congr {c' : Context} (h : c.Accounted) (hguard : c'.guard = c.guard)
    (hopen : c'.stack.safetyOpen = c.stack.safetyOpen) (htop : c'.stack.top ≤ c'.stack.limit) :
    c'.Accounted :=
  ⟨by rw [hguard, hopen]; exact h.guard, htop⟩

/-- Only the delivery state has changed, and the journal. -/
theorem ofGuard (h : c.Accounted) {guard : InterruptGuard}
    (hguard : guard.Accounts c.stack.safetyOpen) (journal : List Event) :
    Accounted { c with guard, journal } :=
  ⟨hguard, h.top_le⟩

/-- The safety area and the stack overflow in flight end together. -/
theorem settleStack (h : c.Accounted) : c.settleStack.Accounted := by
  refine ⟨?_, OperandStack.top_le_limit_settle h.top_le⟩
  change (if c.stack.settle.2.safetyOpen then c.guard else c.guard.recoverStack).Accounts
    c.stack.settle.2.safetyOpen
  by_cases hopen : c.stack.settle.2.safetyOpen = true
  · have hbefore := ((OperandStack.safetyOpen_settle c.stack).mp hopen).1
    rw [if_pos hopen, hopen, ← hbefore]
    exact h.guard
  · rw [if_neg hopen, Bool.eq_false_iff.mpr hopen]
    exact h.guard.recoverStack

/-- A frame that has left the chain gives up slots. -/
theorem withoutFrame (h : c.Accounted) (f : Frame) (record : FrameRecord) :
    (c.withoutFrame f record).Accounted := by
  refine h.congr rfl (safetyOpen_withoutFrame f record c) ?_
  unfold Context.withoutFrame
  cases f.base with
  | values => exact h.top_le
  | stack offset => exact OperandStack.top_le_limit_truncate h.top_le record.stackMark

/-- A first overflow opens the safety area and is in flight. -/
theorem overflowed (h : c.Accounted) (argc : Nat) : (c.overflowed argc).Accounted := by
  refine ⟨.overflow c.guard, ?_⟩
  have hbehind := h.top_le
  change c.stack.top ≤ c.stack.capacity
  unfold OperandStack.limit OperandStack.logicalEnd at hbehind
  split at hbehind <;> omega

/-- A frame for which there is room does not exceed the limit. -/
theorem withStackFrame (h : c.Accounted) (hroom : args.length ≤ c.stack.available) :
    (c.withStackFrame args).Accounted := by
  refine h.congr rfl rfl ?_
  have htop : (c.withStackFrame args).stack.top = c.stack.top + args.length := by
    simp [Context.withStackFrame, OperandStack.top]
  have hlimit : (c.withStackFrame args).stack.limit = c.stack.limit := rfl
  have hwithin := h.top_le
  unfold OperandStack.available at hroom
  omega

/-- The opening of a frame keeps the account, however it ends. -/
theorem openEnds (h : c.Accounted) {o : Outcome Context FrameError Frame}
    (hends : OpenEnds c args o) : o.Settles Accounted := by
  cases hends with
  | tooMany => exact h
  | buffer => exact h.congr rfl rfl h.top_le
  | stack hroom hheld => exact h.withStackFrame hroom
  | fault => trivial
  | overflow => exact h.overflowed args.length
  | exhausted => trivial
  | doubleFault => trivial

/-- Storing an argument keeps the account. -/
theorem writeSlot (h : c.Accounted) (f : Frame) (index : Nat) (value : Value) :
    (Context.writeSlot f index value c).Accounted := by
  obtain ⟨slots, operands, _, hsize, hwritten⟩ := writeSlot_slots f index value c
  rw [hwritten]
  refine h.congr rfl rfl ?_
  change operands.size ≤ c.stack.limit
  rw [hsize]
  exact h.top_le

end Accounted

/-- A recovery that ends while slots are given up ends as one that ends right after. -/
theorem settleStack_popFrame (f : Frame) (record : FrameRecord) (c : Context) :
    (popFrame f record c).settleStack = (c.withoutFrame f record).settleStack := by
  unfold popFrame withoutFrame
  cases f.base with
  | values => rfl
  | stack offset =>
    simp only [settleStack, OperandStack.releaseTo, OperandStack.settle_settle]

/-- A frame that is closed gives up its slots, and the safety area is closed if it can be. -/
theorem closeFrame_settled (f : Frame) (c : Context) :
    (closeFrame (ε := ε) f c).Settles fun c' =>
      ∃ record, c' = (c.withoutFrame f record).settleStack := by
  simp only [closeFrame, Op.bind_apply, Op.get]
  cases c.record? f with
  | none => trivial
  | some record =>
    dsimp only
    split
    · exact ⟨record, settleStack_popFrame f record c⟩
    · trivial

/-- At a safe point, the safety area is closed if it can be, and then at most one interrupt is
taken. -/
theorem safePoint_settled (c : Context) :
    (safePoint c).Settles fun c' =>
      ∃ journal, c' = { c.settleStack with guard := c.settleStack.guard.poll.2, journal } := by
  simp only [safePoint, Op.bind_apply, Op.modify, Op.get]
  cases c.settleStack.guard.poll.1 with
  | none => exact ⟨_, rfl⟩
  | some kind => exact ⟨_, rfl⟩

namespace Accounted

/-- A safe point keeps the account. -/
theorem safePoint (h : c.Accounted) : (safePoint c).Settles Accounted := by
  refine (safePoint_settled c).imp fun c' hsettled => ?_
  obtain ⟨journal, rfl⟩ := hsettled
  exact h.settleStack.ofGuard h.settleStack.guard.poll journal

/-- Raising an interrupt keeps the account. -/
theorem raiseInterrupt (h : c.Accounted) (kind : InterruptKind) :
    (raiseInterrupt kind c).Settles Accounted := by
  have hraised := h.guard.raise kind
  simp only [Context.raiseInterrupt, Op.bind_apply, Op.modify, Op.get]
  cases (c.guard.raise kind).1 with
  | some kind => exact h.ofGuard hraised _
  | none =>
    dsimp only
    split <;> exact h.ofGuard hraised _

/-- Recording a trap keeps the account. -/
theorem signalTrap (h : c.Accounted) (trap : Trap) : (signalTrap trap c).Settles Accounted := by
  simp only [Context.signalTrap, Op.bind_apply, Op.get]
  cases hfault : c.guard.faultInFlight with
  | some first =>
    rw [InterruptGuard.signalFault_refused hfault]
    trivial
  | none =>
    rw [InterruptGuard.signalFault_arithmetic hfault]
    have hsignalled := h.ofGuard (h.guard.signalTrap trap hfault) c.journal
    dsimp only
    split
    · exact hsignalled.safePoint
    · exact hsignalled

/-- The start of a region without interrupts keeps the account. -/
theorem disableInterrupts (h : c.Accounted) : c.disableInterrupts.Accounted :=
  ⟨⟨h.guard.overflow_iff, h.guard.trap_pending⟩, h.top_le⟩

/-- The end of a region without interrupts keeps the account. -/
theorem enableInterrupts (h : c.Accounted) : c.enableInterrupts.Accounted :=
  ⟨⟨h.guard.overflow_iff, h.guard.trap_pending⟩, h.top_le⟩

end Accounted

/-- Every operation of a context keeps the account. -/
theorem accounted_guarantee : Guarantee fun c c' => c.Accounted → c'.Accounted where
  refl _ h := h
  trans hab hbc h := hbc (hab h)
  openFrame argc c := Outcome.settles_of_imp fun h => h.openEnds (openFrame_ends argc c)
  openFrameWith args c := Outcome.settles_of_imp fun h => h.openEnds (openFrameWith_ends args c)
  activate f c := by
    refine (activate_settles f c).imp fun c' hactivated h => ?_
    rcases hactivated with rfl | ⟨record, _, rfl⟩
    · exact h
    · exact h.congr rfl rfl h.top_le
  setArg f index value c := by
    rw [setArg_apply]
    cases c.checkAccess f index with
    | error e => exact fun h => h
    | ok _ => exact fun h => h.writeSlot f index value
  closeFrame f c := by
    refine (closeFrame_settled f c).imp fun c' hsettled h => ?_
    obtain ⟨record, rfl⟩ := hsettled
    exact (h.withoutFrame f record).settleStack
  setValues values c := by
    rw [setValues_apply]
    cases c.values.set values with
    | error e => exact fun h => h
    | ok channel => exact fun h => h.congr rfl rfl h.top_le
  setValue value c := fun h : c.Accounted => h.congr rfl rfl h.top_le
  clearValues c := fun h : c.Accounted => h.congr rfl rfl h.top_le
  safePoint c := Outcome.settles_of_imp Accounted.safePoint
  raiseInterrupt kind c := Outcome.settles_of_imp fun h => h.raiseInterrupt kind
  signalTrap trap c := Outcome.settles_of_imp fun h => h.signalTrap trap
  post kind c h := h.ofGuard (h.guard.post kind) c.journal
  region hbody h := (hbody h.disableInterrupts).enableInterrupts

/-! ## Refused reservations -/

/-- The safety area is open only if usage is not below the logical end. -/
def Settled (c : Context) : Prop :=
  c.stack.safetyOpen = true → c.stack.logicalEnd ≤ c.stack.top

/-- A refused reservation is an error that can be handled. -/
def Catches (c : Context) : Prop :=
  ∀ args : List Value, c.LacksRoom args.length →
    openFrame args.length c =
      .failed (.stackOverflow args.length c.stack.available) (c.overflowed args.length) ∧
    openFrameWith args c =
      .failed (.stackOverflow args.length c.stack.available) (c.overflowed args.length)

/-- Why a refused reservation stops the engine: it exceeds what remains up to the real end with the
safety area open, or a trap is undelivered. -/
def Doomed (c : Context) (argc : Nat) : Prop :=
  c.LacksRoom argc ∧
    (c.stack.safetyOpen = true ∧ c.stack.capacity - c.stack.top < argc ∨
      ∃ trap, c.guard.faultInFlight = some (.arithmetic trap) ∧
        c.guard.pending.contains (.arithmetic trap) = true)

/-- Every reservation for which there is room is in memory, unless the size of the stack wraps. -/
theorem Accounted.holds {settings : Settings} {argc : Nat} (h : c.Accounted) (hfits : c.Fits settings)
    (hmappable : settings.Mappable) (hroom : argc ≤ c.stack.available) :
    c.stack.Holds (c.stack.top + argc) := by
  have hall := hfits.held hmappable
  have hle : c.stack.top + argc ≤ c.stack.capacity := by
    have hwithin := h.top_le
    have hend := c.stack.limit_le_capacity
    unfold OperandStack.available at hroom
    omega
  exact hall.le hle

/-- Once the safety area was looked at, it is open only if it has to be. -/
theorem settleStack_settled (c : Context) : c.settleStack.Settled := by
  intro hopen
  have hbehind := ((OperandStack.safetyOpen_settle c.stack).mp hopen).2
  change c.stack.settle.2.logicalEnd ≤ c.stack.settle.2.top
  rw [OperandStack.logicalEnd_settle, OperandStack.top_settle]
  exact hbehind

/-- A refused reservation for which there is room is none. -/
theorem LacksRoom.not_lacksMemory {argc : Nat} (h : c.LacksRoom argc) : ¬ c.LacksMemory argc :=
  fun hlacks => Nat.not_le.mpr h.short hlacks.room

/-- The opening of a frame stops the engine exactly for one of these reasons, or for lack of memory.
-/
theorem OpenEnds.fatal_iff {o : Outcome Context FrameError Frame} (h : OpenEnds c args o)
    (haccounted : c.Accounted) :
    o.isFatal = true ↔ c.Doomed args.length ∨ c.LacksMemory args.length := by
  cases h with
  | tooMany hmany =>
    refine iff_of_false (by simp [Outcome.isFatal]) fun hstops => ?_
    rcases hstops with hdoomed | hlacks
    · exact Nat.not_le.mpr hmany hdoomed.1.allowed
    · exact Nat.not_le.mpr hmany hlacks.allowed
  | buffer hsmall =>
    refine iff_of_false (by simp [Outcome.isFatal]) fun hstops => ?_
    rcases hstops with hdoomed | hlacks
    · exact Nat.not_le.mpr hsmall hdoomed.1.large
    · exact Nat.not_le.mpr hsmall hlacks.large
  | stack hroom hheld =>
    refine iff_of_false (by simp [Outcome.isFatal]) fun hstops => ?_
    rcases hstops with hdoomed | hlacks
    · exact Nat.not_le.mpr hdoomed.1.short hroom
    · exact hlacks.unheld hheld
  | fault hlacks => exact iff_of_true rfl (.inr hlacks)
  | overflow hlacks hclosed hnone =>
    refine iff_of_false (by simp [Outcome.isFatal]) fun hstops => ?_
    rcases hstops with ⟨_, ⟨hopen, _⟩ | ⟨trap, hfault, _⟩⟩ | hmemory
    · simp [hclosed] at hopen
    · simp [hnone] at hfault
    · exact hlacks.not_lacksMemory hmemory
  | exhausted hlacks hopen why c' =>
    have hshort := hlacks.short
    rw [OperandStack.available, OperandStack.limit, if_pos hopen] at hshort
    exact iff_of_true rfl (.inl ⟨hlacks, .inl ⟨hopen, hshort⟩⟩)
  | @doubleFault hlacks hclosed first hfault why c' =>
    -- With the safety area closed, the fault in flight cannot be an earlier overflow.
    cases first with
    | stackOverflow =>
      have hopen := haccounted.guard.overflow_iff.mp hfault
      simp [hclosed] at hopen
    | arithmetic trap =>
      exact iff_of_true rfl
        (.inl ⟨hlacks, .inr ⟨trap, hfault, haccounted.guard.trap_pending trap hfault⟩⟩)

/-- Without a fault in flight, a reservation for which there is no room is refused by an error. -/
theorem OpenEnds.eq_overflow {o : Outcome Context FrameError Frame} (h : OpenEnds c args o)
    (haccounted : c.Accounted) (hnone : c.guard.faultInFlight = none)
    (hlacks : c.LacksRoom args.length) :
    o = .failed (.stackOverflow args.length c.stack.available) (c.overflowed args.length) := by
  cases h with
  | tooMany hmany => exact absurd hlacks.allowed (Nat.not_le.mpr hmany)
  | buffer hsmall => exact absurd hlacks.large (Nat.not_le.mpr hsmall)
  | stack hroom => exact absurd hroom (Nat.not_le.mpr hlacks.short)
  | fault hmemory => exact absurd hmemory hlacks.not_lacksMemory
  | overflow => rfl
  | exhausted _ hopen =>
    have hfault := haccounted.guard.overflow_iff.mpr hopen
    simp [hnone] at hfault
  | doubleFault _ _ hfault => simp [hnone] at hfault

namespace Accounted

/-- Without a fault in flight, every refused reservation is an error that can be handled. -/
theorem catches (h : c.Accounted) (hnone : c.guard.faultInFlight = none) : c.Catches :=
  fun args hlacks =>
    ⟨by simpa using (openFrame_ends args.length c).eq_overflow h hnone (by simpa using hlacks),
      (openFrameWith_ends args c).eq_overflow h hnone hlacks⟩

/-- No fault is in flight if the safety area is closed and no trap is undelivered. -/
theorem faultInFlight_eq_none (h : c.Accounted) (hclosed : c.stack.safetyOpen = false)
    (htraps : ∀ trap, c.guard.faultInFlight ≠ some (.arithmetic trap)) :
    c.guard.faultInFlight = none := by
  cases hfault : c.guard.faultInFlight with
  | none => rfl
  | some fault =>
    cases fault with
    | stackOverflow =>
      have hopen := h.guard.overflow_iff.mp hfault
      simp [hclosed] at hopen
    | arithmetic trap => exact absurd hfault (htraps trap)

/-- No fault is in flight once a safety area that was open is closed. -/
theorem settleStack_faultInFlight (h : c.Accounted) (hopen : c.stack.safetyOpen = true)
    (hclosed : c.settleStack.stack.safetyOpen = false) :
    c.settleStack.guard.faultInFlight = none := by
  have hfault := h.guard.overflow_iff.mpr hopen
  change c.stack.settle.2.safetyOpen = false at hclosed
  simp [Context.settleStack, hclosed, InterruptGuard.recoverStack, hfault]

end Accounted

/-- A context that recovers from every stack overflow: faults end when they should, and a refused
reservation stops the engine only for a reason that is still there. -/
structure Recovers (settings : Settings) (c : Context) : Prop where
  overflow_iff : c.guard.faultInFlight = some .stackOverflow ↔ c.stack.safetyOpen = true
  trap_pending (trap : Trap) : c.guard.faultInFlight = some (.arithmetic trap) →
    c.guard.pending.contains (.arithmetic trap) = true
  closeFrame_settled (f : Frame) : (closeFrame (ε := EngineError) f c).Settles Settled
  safePoint_settled : (safePoint c).Settles Settled
  openFrame_fatal (argc : Nat) :
    (openFrame argc c).isFatal = true ↔ c.Doomed argc ∨ c.LacksMemory argc
  openFrameWith_fatal (args : List Value) :
    (openFrameWith args c).isFatal = true ↔ c.Doomed args.length ∨ c.LacksMemory args.length
  /-- A granted reservation is in memory, unless the size of the stack wraps. -/
  memory (hmappable : settings.Mappable) (argc : Nat) : ¬ c.LacksMemory argc
  catches : c.stack.safetyOpen = false →
    (∀ trap, c.guard.faultInFlight ≠ some (.arithmetic trap)) → c.Catches
  /-- Closing a frame may complete a recovery. -/
  closeFrame_catches (f : Frame) : c.stack.safetyOpen = true →
    (closeFrame (ε := EngineError) f c).Settles fun c' => c'.stack.safetyOpen = false → c'.Catches
  /-- A safe point may complete a recovery, and deliver an interrupt all the same. -/
  safePoint_catches : c.stack.safetyOpen = true →
    (safePoint c).Settles fun c' => c'.stack.safetyOpen = false → c'.Catches

end Context

namespace Tracked

/-- A context that was just created has no fault in flight and its safety area is closed. -/
theorem Created.accounted {settings : Settings} {s : Tracked} (h : Created settings s) :
    s.context.Accounted := by
  obtain ⟨id, region, hcontext⟩ := h.eq_create
  rw [hcontext]
  refine ⟨⟨?_, ?_⟩, Nat.zero_le _⟩
  · simp [Context.create, Context.unfinished]
  · simp [Context.create, Context.unfinished]

/-- Every context that can be reached keeps the account. -/
theorem Reachable.accounted {settings : Settings} {s : Tracked} (h : Reachable settings s) :
    s.context.Accounted :=
  h.keeps (fun _ hfirst => hfirst.accounted) Context.accounted_guarantee
    (fun _ hc => hc.disableInterrupts) fun _ hc => hc.enableInterrupts

/-- Every context that can be reached recovers from every stack overflow. -/
theorem overflows_recover {settings : Settings} {s : Tracked} (h : Reachable settings s) :
    s.context.Recovers settings := by
  have haccounted := h.accounted
  refine
    { overflow_iff := haccounted.guard.overflow_iff
      trap_pending := haccounted.guard.trap_pending
      closeFrame_settled := fun f => ?_
      safePoint_settled := ?_
      openFrame_fatal := fun argc => ?_
      openFrameWith_fatal := fun args => (Context.openFrameWith_ends args _).fatal_iff haccounted
      memory := fun hmappable argc hlacks =>
        hlacks.unheld (haccounted.holds h.fits hmappable hlacks.room)
      catches := fun hclosed htraps =>
        haccounted.catches (haccounted.faultInFlight_eq_none hclosed htraps)
      closeFrame_catches := fun f hopen => ?_
      safePoint_catches := fun hopen => ?_ }
  · refine (Context.closeFrame_settled f s.context).imp fun c' hsettled => ?_
    obtain ⟨record, rfl⟩ := hsettled
    exact Context.settleStack_settled _
  · refine (Context.safePoint_settled s.context).imp fun c' hsettled => ?_
    obtain ⟨journal, rfl⟩ := hsettled
    exact Context.settleStack_settled s.context
  · simpa using (Context.openFrame_ends argc s.context).fatal_iff haccounted
  · refine (Context.closeFrame_settled f s.context).imp fun c' hsettled hclosed => ?_
    obtain ⟨record, rfl⟩ := hsettled
    have hpopped := haccounted.withoutFrame f record
    have hopened := (Context.safetyOpen_withoutFrame f record s.context).trans hopen
    exact hpopped.settleStack.catches (hpopped.settleStack_faultInFlight hopened hclosed)
  · refine (Context.safePoint_settled s.context).imp fun c' hsettled hclosed => ?_
    obtain ⟨journal, rfl⟩ := hsettled
    have hnone := haccounted.settleStack_faultInFlight hopen hclosed
    have hpolled := haccounted.settleStack.ofGuard haccounted.settleStack.guard.poll journal
    exact hpolled.catches (InterruptGuard.faultInFlight_poll hnone)

/-- A routine that overflows the operand stack of a small context, and then fills it to its real
end. -/
def crowding : Routine :=
  .request (.openFrame 8) fun _ _ =>
  .request (.openFrame 8) fun _ _ =>
  .request (.openFrame 8) fun _ _ => .finish (.ok 0)

/-- The small context with its operand stack full and its safety area open. -/
def crowded : Tracked := (crowding.run small).state

/-- The operand stack of the small context can be filled. -/
theorem crowded_reachable : Reachable Settings.small crowded :=
  ⟨small, small_created, .single (.routine crowding rfl)⟩

/-- The small context recovers once the frame in the safety area is closed, and the next overflow is
an error again. -/
theorem crowded_recovers :
    crowded.context.stack.safetyOpen = true ∧ crowded.context.stack.top = 16 ∧
      crowded.context.Doomed 2 ∧ crowded.context.Recovers Settings.small ∧
      ∃ f c', Context.closeFrame (ε := EngineError) f crowded.context = .done () c' ∧
        c'.stack.safetyOpen = false ∧ c'.LacksRoom 8 ∧ c'.Catches := by
  have hrecovers := overflows_recover crowded_reachable
  have hfull : crowded.context.Doomed 2 := ⟨⟨by decide, by decide, by decide⟩, .inl (by decide)⟩
  have hcatches := hrecovers.closeFrame_catches ⟨1, 1, 8, .stack 8, 0⟩ rfl
  exact ⟨rfl, rfl, hfull, hrecovers, ⟨1, 1, 8, .stack 8, 0⟩, _, rfl, rfl,
    ⟨by decide, by decide, by decide⟩, hcatches rfl⟩

end Tracked

end CallEngine
