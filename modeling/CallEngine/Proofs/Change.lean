import CallEngine.Proofs.FrameOperations
import CallEngine.Proofs.Routine

/-!
# How a context changes

Everything that routines do to a context is made of seven kinds of changes. This is shown once, for
every request, for calls and for regions without interrupts, and from there for every routine. An
invariant then only has to be checked on the seven kinds.
-/

namespace CallEngine

namespace History

@[simp] theorem issued_opened (f : Frame) (args : List Value) (h : History) :
    issued (.opened f args :: h) = f :: issued h := rfl

@[simp] theorem issued_reported (values : List Value) (h : History) :
    issued (.reported values :: h) = issued h := rfl

/-- A frame that can be named was opened. -/
theorem mem_issued_of_frame? {h : History} {serial : Nat} {f : Frame}
    (hf : h.frame? serial = some f) : f ∈ h.issued :=
  List.mem_of_find?_eq_some hf

end History

namespace Tracked

variable {α β : Type}

/-! ## The kinds of changes -/

/-- A frame that holds `args` was opened, and is in the history. -/
inductive Opened (s : Tracked) (args : List Value) : Frame → Tracked → Prop
  | buffer (hsmall : args.length < s.context.smallCallThreshold) :
    Opened s args (s.context.bufferFrame args.length)
      { context := s.context.withBufferFrame args
        history := .opened (s.context.bufferFrame args.length) args :: s.history }
  | stack (hlarge : s.context.smallCallThreshold ≤ args.length) :
    Opened s args (s.context.stackFrame args.length)
      { context := s.context.withStackFrame args
        history := .opened (s.context.stackFrame args.length) args :: s.history }

namespace Opened

variable {s s' : Tracked} {args : List Value} {f : Frame}

/-- The frame is entered into the history. -/
theorem history (h : Opened s args f s') : s'.history = .opened f args :: s.history := by
  cases h <;> rfl

/-- The frame gets a record at the end of the chain. -/
theorem frames (h : Opened s args f s') :
    s'.context.frames = s.context.frames.push s.context.nextRecord := by
  cases h <;> rfl

/-- The frame knows the position of its record. -/
theorem index (h : Opened s args f s') : f.index = s.context.depth := by
  cases h <;> rfl

/-- The frame gets the next serial number. -/
theorem serial (h : Opened s args f s') : f.serial = s.context.nextSerial := by
  cases h <;> rfl

/-- The next frame will get another serial number. -/
theorem nextSerial (h : Opened s args f s') :
    s'.context.nextSerial = s.context.nextSerial + 1 := by
  cases h <;> rfl

/-- The frame has as many arguments as it was opened for. -/
theorem argc (h : Opened s args f s') : f.argc = args.length := by
  cases h <;> rfl

/-- The frame is known from now on. -/
theorem issued (h : Opened s args f s') : s'.history.issued = f :: s.history.issued := by
  rw [h.history]
  rfl

/-- The record of the frame is in the chain. -/
theorem record (h : Opened s args f s') :
    s'.context.record? f = some s.context.nextRecord := by
  rw [Context.record?_eq_some, h.frames, h.index, h.serial]
  exact ⟨Array.getElem?_push_size, rfl⟩

end Opened

/-- One change of a context. -/
inductive Change : Tracked → Tracked → Prop
  /-- The delivery state, the safety area and the journal have changed. -/
  | quiet {s : Tracked} (safetyOpen : Bool) (guard : InterruptGuard) (journal : List Event) :
    Change s
      { s with context :=
        { s.context with stack := { s.context.stack with safetyOpen }, guard, journal } }
  | opened {s s' : Tracked} {args : List Value} {f : Frame} (hopened : Opened s args f s') :
    Change s s'
  /-- A frame was marked as running. -/
  | activated {s : Tracked} {f : Frame} {record : FrameRecord}
    (hrecord : s.context.record? f = some record) :
    Change s
      { s with context :=
        { s.context with
          frames := s.context.frames.setIfInBounds f.index { record with state := .active } } }
  | stored {s : Tracked} (f : Frame) (index : Nat) (value : Value) (hissued : f ∈ s.history.issued)
    (haccess : s.context.checkAccess f index = .ok ()) :
    Change s
      { context := s.context.writeSlot f index value
        history := .stored f index value :: s.history }
  /-- Values were reported. A single value is reported without asking for room. -/
  | reported {s : Tracked} (values : List Value)
    (hroom : values.length ≤ max s.context.values.capacity 1) :
    Change s
      { context :=
          { s.context with values :=
            { slots := ValueChannel.writeFrom s.context.values.slots 0 values
              count := values.length
              epoch := s.context.values.epoch + 1 } }
        history := .reported values :: s.history }
  /-- The innermost frame was closed. -/
  | closed {s : Tracked} {f : Frame} {record : FrameRecord} (hissued : f ∈ s.history.issued)
    (hrecord : s.context.record? f = some record) (hlast : f.index + 1 = s.context.depth) :
    Change s { s with context := s.context.withoutFrame f record }

/-- A frame that was opened stays known. -/
theorem Change.issued {s s' : Tracked} {f : Frame} (h : Change s s')
    (hf : f ∈ s.history.issued) : f ∈ s'.history.issued := by
  cases h with
  | quiet => exact hf
  | opened hopened => exact hopened.issued ▸ List.mem_cons_of_mem _ hf
  | activated => exact hf
  | stored => exact hf
  | reported => exact hf
  | closed => exact hf

/-- `s'` comes from `s` by changes, and as many regions without interrupts are open in it. -/
structure Evolves (s s' : Tracked) : Prop where
  changes : Relation.ReflTransGen Change s s'
  disabled : s'.context.guard.disabled = s.context.guard.disabled

namespace Evolves

/-- Nothing has changed. -/
theorem refl (s : Tracked) : Evolves s s := ⟨.refl, rfl⟩

/-- One development after another is a development. -/
theorem trans {a b c : Tracked} (hab : Evolves a b) (hbc : Evolves b c) : Evolves a c :=
  ⟨hab.changes.trans hbc.changes, hbc.disabled.trans hab.disabled⟩

/-- A frame that was opened stays known. -/
theorem issued {s s' : Tracked} {f : Frame} (h : Evolves s s') (hf : f ∈ s.history.issued) :
    f ∈ s'.history.issued := by
  obtain ⟨hchanges, hdisabled⟩ := h
  clear hdisabled
  induction hchanges with
  | refl => exact hf
  | tail _ hchange ih => exact hchange.issued ih

/-- A quiet change of the context is a development. -/
theorem quiet {s : Tracked} {c : Context} (h : s.context.Quiet c) :
    Evolves s { s with context := c } := by
  obtain ⟨safetyOpen, guard, journal, hdisabled, rfl⟩ := h
  exact ⟨.single (.quiet safetyOpen guard journal), hdisabled⟩

/-- Sequencing is a development if both parts are. -/
theorem bind {x : Op Tracked EngineError α} {f : α → Op Tracked EngineError β} {s : Tracked}
    (hx : (x s).Settles (Evolves s))
    (hf : ∀ a s', x s = .done a s' → (f a s').Settles (Evolves s')) :
    ((x >>= f) s).Settles (Evolves s) := by
  refine Op.settles_bind (fun a s' hdone => ?_) (fun e s' hfailed => ?_)
  · rw [hdone] at hx
    exact (hf a s' hdone).imp fun _ h => Evolves.trans hx h
  · rw [hfailed] at hx
    exact hx

end Evolves

end Tracked

end CallEngine
