import CallEngine.Proofs.Epochs
import CallEngine.Proofs.FrameTiling

/-!
# Slots hold what was stored last

All small frames share one buffer with the reported values, and all large ones share the operand
stack. A slot of a frame still holds what was last stored there through this frame: in the buffer as
long as the frame is of the current epoch, since then no other frame is, and on the operand stack as
long as the frame is open, since frames do not overlap there.
-/

namespace CallEngine

namespace History

/-- The value that was last stored in a slot of a frame, nil if there is none. -/
def storedAt (f : Frame) (index : Nat) : History → Value
  | [] => .nil
  | .opened g args :: earlier =>
    if g = f then args[index]?.getD .nil else storedAt f index earlier
  | .stored g i value :: earlier =>
    if g = f ∧ i = index then value else storedAt f index earlier
  | .reported _ :: earlier => storedAt f index earlier

variable {f g : Frame} {h : History} {index : Nat}

/-- Opening a frame with arguments stores them. -/
theorem storedAt_opened_self {args : List Value} (hindex : index < args.length) :
    some (storedAt f index (.opened f args :: h)) = args[index]? := by
  simp [storedAt, hindex]

/-- Opening a frame stores nothing in others. -/
theorem storedAt_opened_ne (args : List Value) (hne : g ≠ f) :
    storedAt f index (.opened g args :: h) = storedAt f index h := by
  simp [storedAt, hne]

/-- Storing an argument is storing it in one slot. -/
theorem storedAt_stored_self (i : Nat) (value : Value) :
    storedAt f index (.stored f i value :: h) = if i = index then value else storedAt f index h := by
  simp [storedAt]

/-- Storing an argument stores nothing in other frames. -/
theorem storedAt_stored_ne (i : Nat) (value : Value) (hne : g ≠ f) :
    storedAt f index (.stored g i value :: h) = storedAt f index h := by
  simp [storedAt, hne]

end History

namespace Tracked

variable {s s' : Tracked} {f g : Frame}

/-! ## The buffer -/

/-- The frame in the buffer that is of the current epoch has its arguments there. -/
def BufferKept (s : Tracked) : Prop :=
  ∀ f ∈ s.history.issued, f.base = .values → f.epoch = s.context.values.epoch →
    ∀ index < f.argc, s.context.values.slots[index]? = some (s.history.storedAt f index)

namespace BufferKept

/-- The buffer keeps its arguments if neither it nor what was stored there changes. -/
theorem congr (h : BufferKept s)
    (hissued : ∀ f ∈ s'.history.issued, f.base = .values → f ∈ s.history.issued ∧
      ∀ index, s'.history.storedAt f index = s.history.storedAt f index)
    (hvalues : s'.context.values = s.context.values) : BufferKept s' := by
  intro f hf hbase hcurrent index hindex
  obtain ⟨hold, hsame⟩ := hissued f hf hbase
  rw [hvalues] at hcurrent ⊢
  rw [hsame]
  exact h f hold hbase hcurrent index hindex

/-- Opening a frame in the buffer puts its arguments there. -/
theorem openedBuffer (h : Epochs s) (hsized : Sized s) {args : List Value}
    (hsmall : args.length < s.context.smallCallThreshold) :
    BufferKept
      { context := s.context.withBufferFrame args
        history := .opened (s.context.bufferFrame args.length) args :: s.history } := by
  intro g hg hbase hcurrent index hindex
  rcases List.mem_cons.mp hg with rfl | hold
  · have hlength : index < args.length := hindex
    have hroom : index < s.context.values.slots.size :=
      Nat.lt_of_lt_of_le (Nat.lt_trans hlength hsmall) hsized.fits
    change (ValueChannel.writeFrom s.context.values.slots 0 args)[index]? = _
    rw [History.storedAt_opened_self hlength, ValueChannel.getElem?_writeFrom,
      if_pos ⟨Nat.zero_le _, by omega, hroom⟩, Nat.sub_zero]
  · exact absurd hcurrent (h.ne_succ hold hbase)

/-- Opening a frame on the operand stack leaves the buffer alone. -/
theorem openedStack (h : BufferKept s) {args : List Value} {offset : Nat}
    (hfbase : f.base = .stack offset) (hhistory : s'.history = .opened f args :: s.history)
    (hvalues : s'.context.values = s.context.values) : BufferKept s' := by
  refine h.congr (fun g hg hbase => ?_) hvalues
  have hne := Frame.ne_of_stack_of_buffer hfbase hbase
  rw [hhistory, History.issued_opened] at hg
  rw [hhistory]
  exact ⟨List.mem_of_ne_of_mem hne.symm hg, fun _ => History.storedAt_opened_ne args hne⟩

/-- Storing an argument in the buffer is storing it for the only frame of the current epoch. -/
theorem stored (h : BufferKept s) (hepochs : Epochs s) {index : Nat} (value : Value)
    (hissued : f ∈ s.history.issued) (haccess : s.context.checkAccess f index = .ok ()) :
    BufferKept
      { context := s.context.writeSlot f index value
        history := .stored f index value :: s.history } := by
  cases hfbase : f.base with
  | values =>
    rw [Context.writeSlot_buffer hfbase]
    intro g hg hbase hcurrent i hi
    have hepoch := (Context.checkAccess_eq_ok.mp haccess).2.2 hfbase
    have heq : g = f := hepochs.inj g hg f hissued hbase hfbase (hcurrent.trans hepoch.symm)
    subst heq
    have hold := h g hg hbase hcurrent i hi
    rw [History.storedAt_stored_self]
    exact getElem?_setIfInBounds_of_some hold index value
  | stack offset =>
    rw [Context.writeSlot_stack hfbase]
    refine h.congr (fun g hg hbase => ⟨hg, fun i => ?_⟩) rfl
    exact History.storedAt_stored_ne index value (Frame.ne_of_stack_of_buffer hfbase hbase)

/-- Every change keeps the arguments in the buffer. -/
theorem change (h : BufferKept s) (hsized : Sized s) (hepochs : Epochs s)
    (hchange : Change s s') : BufferKept s' := by
  cases hchange with
  | quiet safetyOpen guard journal => exact h.congr (fun f hf _ => ⟨hf, fun _ => rfl⟩) rfl
  | opened hopened =>
    cases hopened with
    | buffer hsmall => exact openedBuffer hepochs hsized hsmall
    | stack hlarge => exact h.openedStack rfl rfl rfl
  | activated hrecord => exact h.congr (fun f hf _ => ⟨hf, fun _ => rfl⟩) rfl
  | stored f index value hissued haccess => exact h.stored hepochs value hissued haccess
  | reported values hroom =>
    intro f hf hbase hcurrent
    exact absurd hcurrent (hepochs.ne_succ hf hbase)
  | closed hissued hrecord hlast => exact h.congr (fun f hf _ => ⟨hf, fun _ => rfl⟩) rfl

end BufferKept

/-! ## The operand stack -/

/-- The open frames on the operand stack have their arguments there. -/
def StackKept (s : Tracked) : Prop :=
  ∀ f ∈ s.openFrames, ∀ offset, f.base = .stack offset →
    ∀ index < f.argc, s.context.stack.slots[offset + index]? = some (s.history.storedAt f index)

namespace StackKept

/-- The operand stack keeps its arguments if neither it nor the chain nor what was stored changes. -/
theorem congr (h : StackKept s) (hissued : s'.history.issued = s.history.issued)
    (hchain : s'.context.chain = s.context.chain)
    (hstored : ∀ f index, s'.history.storedAt f index = s.history.storedAt f index)
    (hslots : s'.context.stack.slots = s.context.stack.slots) : StackKept s' := by
  intro f hf offset hbase index hindex
  rw [openFrames_congr hissued hchain] at hf
  rw [hslots, hstored]
  exact h f hf offset hbase index hindex

/-- Opening a frame in the buffer leaves the operand stack alone. -/
theorem openedBuffer (h : StackKept s) {args : List Value} (hfbase : f.base = .values)
    (hhistory : s'.history = .opened f args :: s.history)
    (hopen : s'.openFrames = f :: s.openFrames)
    (hslots : s'.context.stack.slots = s.context.stack.slots) : StackKept s' := by
  intro g hg offset hbase index hindex
  have hne := (Frame.ne_of_stack_of_buffer hbase hfbase).symm
  rw [hopen] at hg
  rw [hslots, hhistory, History.storedAt_opened_ne args hne]
  exact h g (List.mem_of_ne_of_mem hne.symm hg) offset hbase index hindex

/-- Opening a frame on the operand stack puts its arguments on top. -/
theorem openedStack (h : StackKept s) (hcoherent : Coherent s) {args : List Value}
    (hlarge : s.context.smallCallThreshold ≤ args.length) :
    StackKept
      { context := s.context.withStackFrame args
        history := .opened (s.context.stackFrame args.length) args :: s.history } := by
  have hopened : Opened s args (s.context.stackFrame args.length) _ := .stack hlarge
  have hnew := hcoherent.not_issued hopened
  intro g hg offset hbase index hindex
  rw [hcoherent.openFrames_opened hopened] at hg
  change (s.context.stack.slots ++ args.toArray)[offset + index]? = _
  rcases List.mem_cons.mp hg with rfl | hold
  · have hlength : index < args.length := hindex
    have hoffset : offset = s.context.stack.slots.size := (FrameBase.stack.inj hbase).symm
    rw [History.storedAt_opened_self hlength, hoffset,
      Array.getElem?_append_right (Nat.le_add_right _ _), Nat.add_sub_cancel_left,
      List.getElem?_toArray]
  · have hne : s.context.stackFrame args.length ≠ g := by
      rintro rfl
      exact hnew (mem_openFrames.mp hold).1
    rw [History.storedAt_opened_ne args hne,
      Array.getElem?_append_left (hcoherent.slot_lt hold hbase hindex)]
    exact h g hold offset hbase index hindex

/-- Storing an argument on the operand stack changes no slot of another frame. -/
theorem stored (h : StackKept s) (hcoherent : Coherent s) {index : Nat} (value : Value)
    (hissued : f ∈ s.history.issued) (haccess : s.context.checkAccess f index = .ok ())
    (hopen : s'.openFrames = s.openFrames) (hhistory : s'.history = .stored f index value :: s.history)
    (hcontext : s'.context = s.context.writeSlot f index value) : StackKept s' := by
  obtain ⟨hrecord, hlt, _⟩ := Context.checkAccess_eq_ok.mp haccess
  have hf : f ∈ s.openFrames := mem_openFrames.mpr ⟨hissued, hrecord⟩
  intro g hg offset hbase i hi
  rw [hopen] at hg
  rw [hhistory, hcontext]
  have hold := h g hg offset hbase i hi
  by_cases heq : f = g
  · subst heq
    have hwritten := getElem?_setIfInBounds_of_some hold (offset + index) value
    simp only [Nat.add_left_cancel_iff] at hwritten
    rw [Context.writeSlot_stack hbase, History.storedAt_stored_self]
    exact hwritten
  · rw [History.storedAt_stored_ne index value heq]
    cases hfbase : f.base with
    | values =>
      rw [Context.writeSlot_buffer hfbase]
      exact hold
    | stack other =>
      have hdisjoint := hcoherent.stacked.disjoint hf hg heq hfbase hbase
      have hwritten := getElem?_setIfInBounds_of_some hold (other + index) value
      rw [if_neg (by omega)] at hwritten
      rw [Context.writeSlot_stack hfbase]
      exact hwritten

/-- Closing a frame leaves the slots of those below it. -/
theorem closed (h : StackKept s) (hcoherent : Coherent s) {record : FrameRecord}
    (hissued : f ∈ s.history.issued) (hrecord : s.context.record? f = some record)
    (hlast : f.index + 1 = s.context.depth) :
    StackKept { s with context := s.context.withoutFrame f record } := by
  have hopen : s.openFrames =
      [] ++ f :: openFrames { s with context := s.context.withoutFrame f record } :=
    hcoherent.openFrames_closed hissued hrecord hlast rfl rfl
  have hmark := hcoherent.mark hopen hrecord
  have hstacked := (hcoherent.closed hissued hrecord hlast).stacked
  intro g hg offset hbase index hindex
  have hold := h g (hopen ▸ List.mem_cons_of_mem f hg) offset hbase index hindex
  have hbelow := hstacked.offset_add_argc_le hg hbase
  refine Eq.trans ?_ hold
  cases hfbase : f.base with
  | values => simp only [Context.withoutFrame, hfbase]
  | stack other =>
    simp only [Context.withoutFrame, hfbase]
    exact OperandStack.getElem?_truncate _ (by omega)

/-- Every change keeps the arguments on the operand stack. -/
theorem change (h : StackKept s) (hcoherent : Coherent s) (hchange : Change s s') :
    StackKept s' := by
  cases hchange with
  | quiet safetyOpen guard journal => exact h.congr rfl rfl (fun _ _ => rfl) rfl
  | opened hopened =>
    have hopen := hcoherent.openFrames_opened hopened
    cases hopened with
    | buffer hsmall => exact h.openedBuffer rfl rfl hopen rfl
    | stack hlarge => exact h.openedStack hcoherent hlarge
  | activated hrecord =>
    exact h.congr rfl (Context.chain_activate hrecord) (fun _ _ => rfl) rfl
  | stored f index value hissued haccess =>
    obtain ⟨_, _, _, _, hwritten⟩ := Context.writeSlot_slots f index value s.context
    have hchain : (s.context.writeSlot f index value).chain = s.context.chain := by
      rw [hwritten]
      rfl
    exact h.stored hcoherent value hissued haccess (openFrames_congr rfl hchain) rfl rfl
  | reported values hroom => exact h.congr rfl rfl (fun _ _ => rfl) rfl
  | closed hissued hrecord hlast => exact h.closed hcoherent hissued hrecord hlast

end StackKept

/-- Nothing was stored when a context is created. -/
theorem Created.kept {settings : Settings} (h : Created settings s) :
    Epochs s ∧ BufferKept s ∧ StackKept s := by
  refine ⟨h.epochs, ?_, ?_⟩
  · simp [BufferKept, h.history, History.issued]
  · simp [StackKept, openFrames, h.history, History.issued]

/-- Slots always hold what was stored last. -/
theorem Reachable.kept {settings : Settings} (h : Reachable settings s) :
    Epochs s ∧ BufferKept s ∧ StackKept s := by
  refine h.holds_ordered (P := fun s => Epochs s ∧ BufferKept s ∧ StackKept s)
    (fun _ hcreated => hcreated.kept) fun s s' hcoherent hsized hchange hs => ?_
  obtain ⟨hepochs, hbuffer, hstack⟩ := hs
  exact ⟨hepochs.change hcoherent hchange, hbuffer.change hsized hepochs hchange,
    hstack.change hcoherent hchange⟩

end Tracked

end CallEngine
