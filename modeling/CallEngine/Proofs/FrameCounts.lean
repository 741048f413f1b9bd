import CallEngine.Proofs.FrameChain

/-!
# Sizes and numbers of frames

The settings of a context say which frames are small. Small frames are in the buffer of reported
values, which has room for each of them, and large ones are on the operand stack, of which each
takes at least one slot. So giving up the slots of a large frame always lowers the top of the
stack, and the numbers of frames, reservations and releases that a context keeps are exact.
-/

namespace CallEngine

/-- How many frames are on the operand stack. -/
def onStack (frames : List Frame) : Nat := frames.countP fun f => f.base != .values

/-- A frame in the buffer is not on the operand stack. -/
theorem onStack_cons_buffer {f : Frame} (hbase : f.base = .values) (outer : List Frame) :
    onStack (f :: outer) = onStack outer := by
  simp [onStack, hbase]

/-- A frame on the operand stack is counted. -/
theorem onStack_cons_stack {f : Frame} {offset : Nat} (hbase : f.base = .stack offset)
    (outer : List Frame) : onStack (f :: outer) = onStack outer + 1 := by
  simp [onStack, hbase]

namespace Tracked

variable {s s' : Tracked} {f : Frame}

/-! ## Sizes -/

/-- Frames are where their number of arguments puts them. -/
structure Sized (s : Tracked) : Prop where
  positive : 0 < s.context.smallCallThreshold
  fits : s.context.smallCallThreshold ≤ s.context.values.capacity
  small_iff : ∀ f ∈ s.history.issued, f.base = .values ↔ f.argc < s.context.smallCallThreshold

namespace Sized

/-- A frame on the operand stack takes at least one slot. -/
theorem argc_pos (h : Sized s) (hf : f ∈ s.history.issued) {offset : Nat}
    (hbase : f.base = .stack offset) : 0 < f.argc := by
  have hsmall := h.small_iff f hf
  have hpositive := h.positive
  simp only [hbase, reduceCtorEq, false_iff] at hsmall
  omega

/-- The buffer has room for every frame that is in it. -/
theorem argc_lt (h : Sized s) (hf : f ∈ s.history.issued) (hbase : f.base = .values) :
    f.argc < s.context.values.capacity :=
  Nat.lt_of_lt_of_le ((h.small_iff f hf).mp hbase) h.fits

/-- Frames stay where they are if the limits of the context do not change. -/
theorem congr (h : Sized s) (hissued : s'.history.issued = s.history.issued)
    (hthreshold : s'.context.smallCallThreshold = s.context.smallCallThreshold)
    (hcapacity : s'.context.values.capacity = s.context.values.capacity) : Sized s' := by
  constructor
  · rw [hthreshold]
    exact h.positive
  · rw [hthreshold, hcapacity]
    exact h.fits
  · rw [hissued, hthreshold]
    exact h.small_iff

/-- A frame that is opened is put where its number of arguments says. -/
theorem opened (h : Sized s) {args : List Value} (hopened : Opened s args f s') : Sized s' := by
  have hissued := hopened.issued
  cases hopened with
  | buffer hsmall =>
    refine ⟨h.positive, by simpa [Context.withBufferFrame, ValueChannel.capacity] using h.fits, ?_⟩
    rw [hissued, List.forall_mem_cons]
    exact ⟨iff_of_true rfl hsmall, h.small_iff⟩
  | stack hlarge =>
    refine ⟨h.positive, h.fits, ?_⟩
    rw [hissued, List.forall_mem_cons]
    exact ⟨iff_of_false (by simp [Context.stackFrame]) (Nat.not_lt.mpr hlarge), h.small_iff⟩

/-- Every change leaves frames where they are. -/
theorem change (h : Sized s) (hchange : Change s s') : Sized s' := by
  cases hchange with
  | quiet safetyOpen guard journal => exact h.congr rfl rfl rfl
  | opened hopened => exact h.opened hopened
  | activated hrecord => exact h.congr rfl rfl rfl
  | stored f index value hissued haccess =>
    obtain ⟨_, _, hslots, _, hwritten⟩ := Context.writeSlot_slots f index value s.context
    rw [hwritten]
    exact h.congr rfl rfl hslots
  | reported values hroom =>
    exact h.congr rfl rfl (ValueChannel.size_writeFrom s.context.values.slots 0 values)
  | closed hissued hrecord hlast => exact h.congr rfl rfl rfl

end Sized

/-- Settings that pass their check put every frame in its place. -/
theorem Created.sized {settings : Settings} (h : Created settings s) : Sized s := by
  obtain ⟨id, region, hcontext⟩ := h.eq_create
  obtain ⟨hpositive, hlimit⟩ := Settings.threshold_of_validate h.valid
  refine ⟨?_, ?_, ?_⟩
  · rw [hcontext]
    exact hpositive
  · rw [hcontext]
    change _ ≤ (Array.replicate (max settings.multipleValuesLimit 1) Value.nil).size
    rw [Array.size_replicate]
    exact Nat.le_trans hlimit (Nat.le_max_left _ 1)
  · simp [h.history, History.issued]

/-- Frames are always where their number of arguments puts them. -/
theorem Reachable.sized {settings : Settings} (h : Reachable settings s) : Sized s :=
  h.holds (fun _ hcreated => hcreated.sized) fun _ _ hchange hs => hs.change hchange

/-- What holds of every context when it is created, and is preserved by every single change of a
context whose frames are in order, holds of every context that can be reached. -/
theorem Reachable.holds_ordered {settings : Settings} {P : Tracked → Prop}
    (hcreated : ∀ first, Created settings first → P first)
    (hpreserves : ∀ s s', Coherent s → Sized s → Change s s' → P s → P s')
    (h : Reachable settings s) : P s := by
  have hall : Coherent s ∧ Sized s ∧ P s := by
    refine holds (P := fun s => Coherent s ∧ Sized s ∧ P s) (fun first hfirst => ?_) ?_ h
    · exact ⟨hfirst.coherent, hfirst.sized, hcreated first hfirst⟩
    · intro s s' hchange hs
      obtain ⟨hcoherent, hsized, hp⟩ := hs
      exact ⟨hcoherent.change hchange, hsized.change hchange,
        hpreserves s s' hcoherent hsized hchange hp⟩
  exact hall.2.2

/-! ## Numbers -/

/-- The numbers that a context keeps are those of the frames that were opened and closed. -/
structure Counted (s : Tracked) : Prop where
  opened : s.context.bufferFrames + s.context.stackFrames = s.context.nextSerial
  reserved : s.context.stack.reservations = s.context.stackFrames
  released : s.context.stackFrames = s.context.stack.releases + onStack s.openFrames

namespace Counted

/-- Numbers stay exact if none of them changes. -/
theorem congr (h : Counted s) (hopen : s'.openFrames = s.openFrames)
    (hbuffer : s'.context.bufferFrames = s.context.bufferFrames)
    (hstack : s'.context.stackFrames = s.context.stackFrames)
    (hserial : s'.context.nextSerial = s.context.nextSerial)
    (hreserved : s'.context.stack.reservations = s.context.stack.reservations)
    (hreleased : s'.context.stack.releases = s.context.stack.releases) : Counted s' := by
  constructor
  · rw [hbuffer, hstack, hserial]
    exact h.opened
  · rw [hreserved, hstack]
    exact h.reserved
  · rw [hstack, hreleased, hopen]
    exact h.released

/-- A frame that is opened is counted. -/
theorem frameOpened (h : Counted s) (hcoherent : Coherent s) {args : List Value}
    (hopened : Opened s args f s') : Counted s' := by
  have hopen := hcoherent.openFrames_opened hopened
  have hbefore := h.opened
  cases hopened with
  | buffer hsmall =>
    refine ⟨?_, h.reserved, ?_⟩
    · change s.context.bufferFrames + 1 + s.context.stackFrames = s.context.nextSerial + 1
      omega
    · rw [hopen, onStack_cons_buffer rfl]
      exact h.released
  | stack hlarge =>
    refine ⟨?_, congrArg (· + 1) h.reserved, ?_⟩
    · change s.context.bufferFrames + (s.context.stackFrames + 1) = s.context.nextSerial + 1
      omega
    · rw [hopen, onStack_cons_stack rfl]
      exact congrArg (· + 1) h.released

/-- A frame that is closed is no longer counted, and its slots are given up once. -/
theorem frameClosed (h : Counted s) (hcoherent : Coherent s) (hsized : Sized s)
    {record : FrameRecord} (hissued : f ∈ s.history.issued)
    (hrecord : s.context.record? f = some record) (hlast : f.index + 1 = s.context.depth) :
    Counted { s with context := s.context.withoutFrame f record } := by
  have hopen : s.openFrames =
      [] ++ f :: openFrames { s with context := s.context.withoutFrame f record } :=
    hcoherent.openFrames_closed hissued hrecord hlast rfl rfl
  have hmark := hcoherent.mark hopen hrecord
  have htop := hcoherent.top
  have hreleased := h.released
  rw [hopen, List.nil_append] at htop hreleased
  cases hbase : f.base with
  | values =>
    have hstack : (s.context.withoutFrame f record).stack = s.context.stack := by
      simp only [Context.withoutFrame, hbase]
    rw [onStack_cons_buffer hbase] at hreleased
    refine ⟨h.opened, ?_, ?_⟩
    · rw [hstack]
      exact h.reserved
    · rw [hstack]
      exact hreleased
  | stack offset =>
    have hlower : record.stackMark < s.context.stack.top := by
      have hargc := hsized.argc_pos hissued hbase
      rw [htop, hmark, extent, Frame.room_stack hbase]
      exact Nat.lt_add_of_pos_right hargc
    have hstack : (s.context.withoutFrame f record).stack =
        { s.context.stack with
          slots := s.context.stack.slots.take record.stackMark
          releases := s.context.stack.releases + 1 } := by
      simp only [Context.withoutFrame, hbase, OperandStack.truncate, if_pos hlower]
    rw [onStack_cons_stack hbase] at hreleased
    refine ⟨h.opened, ?_, ?_⟩
    · rw [hstack]
      exact h.reserved
    · rw [hstack]
      change s.context.stackFrames = s.context.stack.releases + 1 + _
      omega

/-- Every change keeps the numbers exact. -/
theorem change (h : Counted s) (hcoherent : Coherent s) (hsized : Sized s)
    (hchange : Change s s') : Counted s' := by
  cases hchange with
  | quiet safetyOpen guard journal => exact h.congr (openFrames_congr rfl rfl) rfl rfl rfl rfl rfl
  | opened hopened => exact h.frameOpened hcoherent hopened
  | activated hrecord =>
    exact h.congr (openFrames_congr rfl (Context.chain_activate hrecord)) rfl rfl rfl rfl rfl
  | stored f index value hissued haccess =>
    obtain ⟨_, _, _, _, hwritten⟩ := Context.writeSlot_slots f index value s.context
    rw [hwritten]
    exact h.congr (openFrames_congr rfl rfl) rfl rfl rfl rfl rfl
  | reported values hroom => exact h.congr (openFrames_congr rfl rfl) rfl rfl rfl rfl rfl
  | closed hissued hrecord hlast => exact h.frameClosed hcoherent hsized hissued hrecord hlast

end Counted

/-- Nothing is counted when a context is created. -/
theorem Created.counted {settings : Settings} (h : Created settings s) : Counted s := by
  obtain ⟨id, region, hcontext⟩ := h.eq_create
  have hopen : s.openFrames = [] := by simp [openFrames, h.history, History.issued]
  constructor
  · rw [hcontext]
    rfl
  · rw [hcontext]
    rfl
  · rw [hopen, hcontext]
    rfl

/-- The numbers are always exact. -/
theorem Reachable.counted {settings : Settings} (h : Reachable settings s) : Counted s :=
  h.holds_ordered (fun _ hcreated => hcreated.counted) fun _ _ hcoherent hsized hchange hs =>
    hs.change hcoherent hsized hchange

end Tracked

end CallEngine
