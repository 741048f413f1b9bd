import CallEngine.Proofs.Outcome
import CallEngine.Proofs.Slots

/-!
# What the operations of a context do

One statement for each operation: the state it leaves when it is done, and the one it leaves when it
is refused. A refused operation, a safe point and everything else about interrupts touch only
the delivery state, the safety area and the journal, which is what `Quiet` says.
-/

namespace CallEngine

namespace InterruptGuard

/-- Taking an interrupt leaves the number of open regions alone. -/
theorem poll_disabled (g : InterruptGuard) : g.poll.2.disabled = g.disabled := by
  unfold poll
  split
  · rfl
  · split <;> rfl

/-- Raising an interrupt leaves the number of open regions alone. -/
theorem raise_disabled (g : InterruptGuard) (kind : InterruptKind) :
    (g.raise kind).2.disabled = g.disabled := by
  unfold raise
  split
  · exact poll_disabled (g.post kind)
  · rfl

/-- Recording a fault leaves the number of open regions alone. -/
theorem signalFault_disabled {g g' : InterruptGuard} {fault : Fault}
    (h : g.signalFault fault = .ok g') : g'.disabled = g.disabled := by
  unfold signalFault at h
  split at h
  · cases h
  · cases fault <;> cases h <;> rfl

/-- The end of a recovery leaves the number of open regions alone. -/
theorem recoverStack_disabled (g : InterruptGuard) : g.recoverStack.disabled = g.disabled := by
  unfold recoverStack
  split <;> rfl

end InterruptGuard

namespace Context

variable {ε : Type}

/-! ## Changes that no frame and no value can notice -/

/-- `c'` is `c` up to the delivery state, the safety area and the journal, with the same number of
open regions without interrupts. -/
def Quiet (c c' : Context) : Prop :=
  ∃ safetyOpen guard journal, guard.disabled = c.guard.disabled ∧
    c' = { c with stack := { c.stack with safetyOpen }, guard, journal }

/-- Nothing has changed. -/
theorem Quiet.refl (c : Context) : c.Quiet c := ⟨_, _, _, rfl, rfl⟩

/-- Two quiet changes make one. -/
theorem Quiet.trans {a b c : Context} (hab : a.Quiet b) (hbc : b.Quiet c) : a.Quiet c := by
  obtain ⟨_, _, _, hdisabled, rfl⟩ := hab
  obtain ⟨safetyOpen, guard, journal, hdisabled', rfl⟩ := hbc
  exact ⟨safetyOpen, guard, journal, hdisabled'.trans hdisabled, rfl⟩

/-- Only the delivery state has changed. -/
theorem Quiet.ofGuard {c : Context} {guard : InterruptGuard}
    (h : guard.disabled = c.guard.disabled) : c.Quiet { c with guard } :=
  ⟨_, _, _, h, rfl⟩

/-- Logging is quiet. -/
theorem log_quiet (event : Event) (c : Context) : (log (ε := ε) event c).Settles c.Quiet :=
  ⟨_, _, _, rfl, rfl⟩

/-- The end of a recovery from a stack overflow is quiet. -/
theorem settleStack_quiet (c : Context) : c.Quiet c.settleStack := by
  unfold settleStack OperandStack.settle
  split
  · exact ⟨_, _, _, InterruptGuard.recoverStack_disabled c.guard, rfl⟩
  · dsimp only
    split
    · exact ⟨_, _, _, rfl, rfl⟩
    · exact ⟨_, _, _, InterruptGuard.recoverStack_disabled c.guard, rfl⟩

/-- Recording a delivery is quiet. -/
theorem deliver_quiet {α : Type} (kind : InterruptKind) (c : Context) :
    (deliver (α := α) kind c).Settles c.Quiet :=
  ⟨_, _, _, rfl, rfl⟩

/-- A safe point is quiet, whether or not an interrupt is delivered at it. -/
theorem safePoint_quiet (c : Context) : (safePoint c).Settles c.Quiet := by
  have hpoll := InterruptGuard.poll_disabled c.settleStack.guard
  simp only [safePoint, Op.bind_apply, Op.modify, Op.get]
  rcases hp : c.settleStack.guard.poll with ⟨taken, guard⟩
  rw [hp] at hpoll
  have hquiet := (settleStack_quiet c).trans (.ofGuard hpoll)
  cases taken with
  | none => exact hquiet
  | some kind => exact (deliver_quiet kind _).imp fun _ h => hquiet.trans h

/-- Raising an interrupt is quiet. -/
theorem raiseInterrupt_quiet (kind : InterruptKind) (c : Context) :
    (raiseInterrupt kind c).Settles c.Quiet := by
  have hraise := InterruptGuard.raise_disabled c.guard kind
  simp only [raiseInterrupt, Op.bind_apply, Op.modify, Op.get]
  rcases hr : c.guard.raise kind with ⟨taken, guard⟩
  rw [hr] at hraise
  have hquiet : c.Quiet { c with guard } := .ofGuard hraise
  cases taken with
  | some kind => exact (deliver_quiet kind _).imp fun _ h => hquiet.trans h
  | none =>
    dsimp only
    split <;> exact (log_quiet _ _).imp fun _ h => hquiet.trans h

/-- Recording an arithmetic trap is quiet. -/
theorem signalTrap_quiet (trap : Trap) (c : Context) : (signalTrap trap c).Settles c.Quiet := by
  simp only [signalTrap, Op.bind_apply, Op.get]
  cases hs : c.guard.signalFault (.arithmetic trap) with
  | error double => trivial
  | ok guard =>
    have hquiet : c.Quiet { c with guard } := .ofGuard (InterruptGuard.signalFault_disabled hs)
    dsimp only
    split
    · exact (safePoint_quiet _).imp fun _ h => hquiet.trans h
    · exact hquiet

/-! ## Opening frames -/

/-- The frame that is opened next in the buffer of reported values. -/
def bufferFrame (c : Context) (argc : Nat) : Frame where
  index := c.depth
  serial := c.nextSerial
  argc
  base := .values
  epoch := c.values.epoch + 1

/-- The frame that is opened next on the operand stack. -/
def stackFrame (c : Context) (argc : Nat) : Frame where
  index := c.depth
  serial := c.nextSerial
  argc
  base := .stack c.stack.top
  epoch := c.values.epoch

/-- The record of the frame that is opened next. -/
def nextRecord (c : Context) : FrameRecord := ⟨c.nextSerial, .opened, c.stack.top⟩

/-- The context once a frame in the buffer was opened that holds `args`. -/
def withBufferFrame (c : Context) (args : List Value) : Context :=
  { c with
    values :=
      { slots := ValueChannel.writeFrom c.values.slots 0 args
        count := 0
        epoch := c.values.epoch + 1 }
    bufferFrames := c.bufferFrames + 1
    nextSerial := c.nextSerial + 1
    frames := c.frames.push c.nextRecord }

/-- The context once a frame on the operand stack was opened that holds `args`. -/
def withStackFrame (c : Context) (args : List Value) : Context :=
  { c with
    stack :=
      { c.stack with
        slots := c.stack.slots ++ args.toArray
        peak := max c.stack.peak (c.stack.top + args.length)
        reservations := c.stack.reservations + 1 }
    stackFrames := c.stackFrames + 1
    nextSerial := c.nextSerial + 1
    frames := c.frames.push c.nextRecord }

/-- The ways in which the opening of a frame that is to hold `args` can end. -/
inductive Opens (c : Context) (args : List Value) : Outcome Context FrameError Frame → Prop
  | buffer (hsmall : args.length < c.smallCallThreshold) :
    Opens c args (.done (c.bufferFrame args.length) (c.withBufferFrame args))
  | stack (hlarge : c.smallCallThreshold ≤ args.length) :
    Opens c args (.done (c.stackFrame args.length) (c.withStackFrame args))
  | refused (error : FrameError) {c' : Context} (hquiet : c.Quiet c') :
    Opens c args (.failed error c')
  | fatal (stop : Stop) (c' : Context) : Opens c args (.fatal stop c')

/-- A refused reservation is fatal, or an error that only the delivery state, the safety area and
the journal show. -/
theorem stackExhausted_refused (args : List Value) (refusal : StackExhausted) {c c' : Context}
    (hquiet : c.Quiet c') : Opens c args (stackExhausted refusal c') := by
  cases refusal with
  | exhausted requested available => exact .fatal _ _
  | overflow requested available =>
    simp only [stackExhausted, Op.bind_apply, Op.get]
    cases hs : c'.guard.signalFault .stackOverflow with
    | error double => exact .fatal _ _
    | ok guard =>
      have hlogged := log_quiet (ε := FrameError)
        (.stackOverflow c'.id requested available) { c' with guard }
      exact .refused _ ((hquiet.trans (.ofGuard (InterruptGuard.signalFault_disabled hs))).trans
        hlogged)

/-- A frame for which there is room is opened on the operand stack. -/
theorem openStack_of_room {c : Context} {argc : Nat} (hroom : argc ≤ c.stack.available)
    (hheld : c.stack.Holds (c.stack.top + argc)) :
    openStack argc c =
      .done (c.stackFrame argc) (c.withStackFrame (List.replicate argc .nil)) := by
  simp [openStack, onStack, Op.attempt, OperandStack.reserve_of_room hroom hheld, withStackFrame,
    stackFrame, nextRecord, depth, pushFrame, Op.get, Op.change, Op.modify, Op.bind_apply,
    Outcome.mapState]

/-- A frame for which there is no memory is a fault. -/
theorem openStack_of_unheld {c : Context} {argc : Nat} (hroom : argc ≤ c.stack.available)
    (hunheld : ¬ c.stack.Holds (c.stack.top + argc)) : openStack argc c = .fatal .fault c := by
  simp [openStack, onStack, Op.attempt, OperandStack.reserve_of_unheld hroom hunheld, Op.get,
    Op.bind_apply, Outcome.mapState]

/-- What becomes of a frame for which there is no room is decided once the safety area is open. -/
theorem openStack_of_full {c : Context} {argc : Nat} (hfull : ¬ argc ≤ c.stack.available) :
    openStack argc c =
      stackExhausted
        (if c.stack.safetyOpen then .exhausted argc c.stack.available
          else .overflow argc c.stack.available)
        { c with stack := { c.stack with safetyOpen := true } } := by
  simp only [openStack, onStack, Op.attempt, OperandStack.reserve_of_full hfull, Op.get,
    Op.bind_apply, Outcome.mapState]

/-- A small frame is opened in the buffer. -/
theorem openBuffer_apply (argc : Nat) (c : Context) :
    openBuffer (ε := ε) argc c =
      .done (c.bufferFrame argc) (c.withBufferFrame (List.replicate argc .nil)) := by
  simp [openBuffer, withBufferFrame, bufferFrame, nextRecord, depth, pushFrame,
    ValueChannel.beginFrame, Op.get, Op.change, Op.modify, Op.bind_apply]

/-- Opening a frame on the operand stack adds slots on top of it, all nil, or is refused. -/
theorem openStack_opens (argc : Nat) {c : Context} (hlarge : c.smallCallThreshold ≤ argc) :
    Opens c (List.replicate argc .nil) (openStack argc c) := by
  by_cases hroom : argc ≤ c.stack.available
  · by_cases hheld : c.stack.Holds (c.stack.top + argc)
    · have hopens : Opens c (List.replicate argc .nil) (.done _ _) := .stack (by simpa using hlarge)
      rw [openStack_of_room hroom hheld]
      simpa using hopens
    · rw [openStack_of_unheld hroom hheld]
      exact .fatal .fault c
  · rw [openStack_of_full hroom]
    exact stackExhausted_refused _ _ ⟨true, c.guard, c.journal, rfl, rfl⟩

/-- Opening a frame gives one whose arguments are all nil, or is refused. -/
theorem openFrame_opens (argc : Nat) (c : Context) :
    Opens c (List.replicate argc .nil) (openFrame argc c) := by
  simp only [openFrame, Op.bind_apply, Op.get]
  split
  · exact .refused _ (.refl c)
  · split
    · have hopens : Opens c (List.replicate argc .nil) (.done _ _) := .buffer (by simpa)
      rw [openBuffer_apply]
      simpa using hopens
    · exact openStack_opens argc (by omega)

/-- Filling a frame that was just opened in the buffer overwrites its nils. -/
theorem writeSlots_bufferFrame (c : Context) (args : List Value) :
    writeSlots (c.bufferFrame args.length) 0 args
        (c.withBufferFrame (List.replicate args.length .nil)) = c.withBufferFrame args := by
  have hlength : (List.replicate args.length Value.nil).length = args.length :=
    List.length_replicate
  rw [writeSlots_buffer rfl]
  simp only [withBufferFrame, ValueChannel.writeFrom_writeFrom _ _ hlength]

/-- Filling a frame that was just opened on the operand stack overwrites its nils. -/
theorem writeSlots_stackFrame (c : Context) (args : List Value) :
    writeSlots (c.stackFrame args.length) 0 args
        (c.withStackFrame (List.replicate args.length .nil)) = c.withStackFrame args := by
  have hbase : (c.stackFrame args.length).base = .stack c.stack.top := rfl
  have hfilled := ValueChannel.writeFrom_append c.stack.slots args .nil
  rw [writeSlots_stack hbase]
  simp [withStackFrame, OperandStack.top, hfilled]

/-- Opening a frame with arguments gives one that holds them, or is refused. -/
theorem openFrameWith_opens (args : List Value) (c : Context) :
    Opens c args (openFrameWith args c) := by
  have hopens := openFrame_opens args.length c
  simp only [openFrameWith, Op.bind_apply, Op.modify]
  generalize openFrame args.length c = opened at hopens
  cases hopens with
  | buffer hsmall =>
    rw [List.length_replicate] at hsmall ⊢
    dsimp only
    rw [writeSlots_bufferFrame]
    exact .buffer hsmall
  | stack hlarge =>
    rw [List.length_replicate] at hlarge ⊢
    dsimp only
    rw [writeSlots_stackFrame]
    exact .stack hlarge
  | refused error hquiet => exact .refused error hquiet
  | fatal stop c' => exact .fatal stop c'

/-! ## Using and closing frames -/

/-- A frame is open exactly if the chain has its serial number at its position. -/
theorem record?_eq_some {c : Context} {f : Frame} {record : FrameRecord} :
    c.record? f = some record ↔ c.frames[f.index]? = some record ∧ record.serial = f.serial := by
  simp [record?, Option.filter_eq_some_iff]

/-- The context after the innermost frame has left the chain and its slots were given up. -/
def withoutFrame (c : Context) (f : Frame) (record : FrameRecord) : Context :=
  { c with
    frames := c.frames.pop
    stack :=
      match f.base with
      | .values => c.stack
      | .stack _ => c.stack.truncate record.stackMark }

/-- Closing a frame gives up its slots if it is the innermost open one, and is fatal otherwise. -/
theorem closeFrame_settles (f : Frame) (c : Context) :
    (closeFrame (ε := ε) f c).Settles fun c' =>
      ∃ record, c.record? f = some record ∧ f.index + 1 = c.depth ∧
        (c.withoutFrame f record).Quiet c' := by
  simp only [closeFrame, Op.bind_apply, Op.get]
  cases hrecord : c.record? f with
  | none => trivial
  | some record =>
    dsimp only
    split
    · rename_i hlast
      refine ⟨record, rfl, hlast, ?_⟩
      have hpopped : (c.withoutFrame f record).Quiet (popFrame f record c) := by
        unfold withoutFrame popFrame OperandStack.releaseTo OperandStack.settle
        cases f.base with
        | values => exact .refl _
        | stack offset =>
          dsimp only
          split <;> exact ⟨_, _, _, rfl, rfl⟩
      exact hpopped.trans (settleStack_quiet _)
    · trivial

/-- Marking a frame as running changes the state in its record, or is refused. -/
theorem activate_settles (f : Frame) (c : Context) :
    (activate f c).Settles fun c' => c' = c ∨ ∃ record, c.record? f = some record ∧
      c' = { c with frames := c.frames.setIfInBounds f.index { record with state := .active } } := by
  simp only [activate, Op.bind_apply, Op.get]
  cases hrecord : c.record? f with
  | none => exact .inl rfl
  | some record => exact .inr ⟨record, rfl, rfl⟩

/-- A frame that is open can be marked as running. -/
theorem activate_done {f : Frame} {c : Context} {record : FrameRecord}
    (h : c.record? f = some record) :
    activate f c = .done ()
      { c with frames := c.frames.setIfInBounds f.index { record with state := .active } } := by
  simp [activate, Op.bind_apply, Op.get, Op.modify, h]

/-- Storing an argument changes the content of slots only, and leaves as many of them as before. -/
theorem writeSlot_slots (f : Frame) (index : Nat) (value : Value) (c : Context) :
    ∃ slots operands, slots.size = c.values.slots.size ∧ operands.size = c.stack.slots.size ∧
      writeSlot f index value c =
        { c with
          values := { c.values with slots }
          stack := { c.stack with slots := operands } } := by
  unfold writeSlot
  cases f.base with
  | values => exact ⟨_, _, Array.size_setIfInBounds, rfl, rfl⟩
  | stack offset => exact ⟨_, _, rfl, Array.size_setIfInBounds, rfl⟩

/-- An argument may be accessed if its frame is open, has that many arguments and, in the buffer,
is of the current epoch. -/
theorem checkAccess_eq_ok {c : Context} {f : Frame} {index : Nat} :
    c.checkAccess f index = .ok () ↔ (c.record? f).isSome ∧ index < f.argc ∧
      (f.base = .values → f.epoch = c.values.epoch) := by
  unfold checkAccess
  cases c.record? f with
  | none => simp
  | some record =>
    by_cases hindex : index < f.argc
    · cases hbase : f.base with
      | values => simp [Frame.isBufferBacked, hbase, hindex, Nat.not_le.mpr hindex]
      | stack offset => simp [Frame.isBufferBacked, hbase, hindex, Nat.not_le.mpr hindex]
    · simp [hindex, Nat.le_of_not_lt hindex]

/-- An argument is stored exactly if it may be accessed. -/
theorem setArg_apply (f : Frame) (index : Nat) (value : Value) (c : Context) :
    setArg f index value c =
      match c.checkAccess f index with
      | .ok () => .done () (writeSlot f index value c)
      | .error e => .failed e c := by
  simp only [setArg, Op.bind_apply, Op.get, Op.ofExcept]
  cases c.checkAccess f index <;> rfl

/-- Values are reported exactly if there is room for them. -/
theorem setValues_apply (values : List Value) (c : Context) :
    setValues values c =
      match c.values.set values with
      | .ok channel => .done values.length { c with values := channel }
      | .error e => .failed e c := by
  simp only [setValues, Op.bind_apply, Op.get, Op.ofExcept]
  cases c.values.set values <;> rfl

end Context

end CallEngine
