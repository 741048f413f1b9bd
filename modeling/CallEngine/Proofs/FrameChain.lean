import CallEngine.Proofs.Creation
import CallEngine.Proofs.Evolution
import Mathlib.Data.List.Nodup

/-!
# The chain of open frames

A context keeps a record of every open frame: a serial number, a state and a mark. Where a frame has
its arguments is known to the frame alone. The two are brought together here: the frames that were
ever opened and still have a record, the latest first, lie upon each other as their records say, and
what they take of the operand stack is what is in use. Every single change keeps this, so opening
puts a frame on top of the open ones, and closing takes the top one off.
-/

namespace CallEngine

/-- A frame in the buffer says so. -/
theorem Frame.isBufferBacked_buffer {f : Frame} (hbase : f.base = .values) :
    f.isBufferBacked = true := by
  rw [isBufferBacked, hbase]
  rfl

/-- A frame on the operand stack is not in the buffer. -/
theorem Frame.isBufferBacked_stack {f : Frame} {offset : Nat} (hbase : f.base = .stack offset) :
    f.isBufferBacked = false := by
  rw [isBufferBacked, hbase]
  rfl

/-- How many slots of the operand stack a frame takes. -/
def Frame.room (f : Frame) : Nat :=
  match f.base with
  | .values => 0
  | .stack _ => f.argc

/-- A frame in the buffer takes no slot of the operand stack. -/
theorem Frame.room_buffer {f : Frame} (hbase : f.base = .values) : f.room = 0 := by
  rw [room, hbase]

/-- A frame on the operand stack takes one slot for each argument. -/
theorem Frame.room_stack {f : Frame} {offset : Nat} (hbase : f.base = .stack offset) :
    f.room = f.argc := by
  rw [room, hbase]

/-- A frame on the operand stack is none of those in the buffer. -/
theorem Frame.ne_of_stack_of_buffer {f g : Frame} {offset : Nat} (hf : f.base = .stack offset)
    (hg : g.base = .values) : f ≠ g := by
  rintro rfl
  rw [hf] at hg
  cases hg

/-- How many slots of the operand stack frames take together. -/
def extent : List Frame → Nat
  | [] => 0
  | f :: outer => extent outer + f.room

/-- Serial numbers and marks of frames that lie upon each other, the innermost first. -/
def marks : List Frame → List (Nat × Nat)
  | [] => []
  | f :: outer => (f.serial, extent outer) :: marks outer

/-- Each frame knows its position among frames that lie upon each other, and if it is on the operand
stack it starts where those below it end. -/
def Stacked : List Frame → Prop
  | [] => True
  | f :: outer =>
    f.index = outer.length ∧ (∀ offset, f.base = .stack offset → offset = extent outer) ∧
      Stacked outer

/-- There is one mark for each frame. -/
@[simp] theorem marks_length (frames : List Frame) : (marks frames).length = frames.length := by
  induction frames with
  | nil => rfl
  | cons f outer ih => simp [marks, ih]

/-- The marks name the serial numbers of the frames in order. -/
theorem marks_map_fst (frames : List Frame) :
    (marks frames).map Prod.fst = frames.map Frame.serial := by
  induction frames with
  | nil => rfl
  | cons f outer ih => simp [marks, ih]

/-- The mark of a frame is how much the frames below it take. -/
theorem marks_reverse_getElem? (inner : List Frame) (f : Frame) (outer : List Frame) :
    (marks (inner ++ f :: outer)).reverse[outer.length]? = some (f.serial, extent outer) := by
  induction inner with
  | nil => simp [marks]
  | cons g inner ih =>
    rw [List.cons_append, marks, List.reverse_cons, List.getElem?_append_left (by simp; omega), ih]

/-- The frames below a frame lie upon each other. -/
theorem Stacked.of_append {inner outer : List Frame} (h : Stacked (inner ++ outer)) :
    Stacked outer := by
  induction inner with
  | nil => exact h
  | cons g inner ih => exact ih h.2.2

/-- A frame lies below the number of frames upon which it lies or which lie upon it. -/
theorem Stacked.index_lt {frames : List Frame} (h : Stacked frames) {f : Frame}
    (hf : f ∈ frames) : f.index < frames.length := by
  induction frames with
  | nil => simp at hf
  | cons g outer ih =>
    obtain ⟨hindex, _, houter⟩ := h
    rcases List.mem_cons.mp hf with rfl | hf
    · simp [hindex]
    · exact Nat.lt_succ_of_lt (ih houter hf)

namespace Context

/-- Serial numbers and marks of the open frames, the outermost first. -/
def chain (c : Context) : List (Nat × Nat) := c.frames.toList.map fun r => (r.serial, r.stackMark)

/-- Whether a frame is open is only a matter of the chain. -/
theorem isSome_record? (c : Context) (f : Frame) :
    (c.record? f).isSome ↔ c.chain[f.index]?.map Prod.fst = some f.serial := by
  unfold record? chain
  rw [List.getElem?_map, Array.getElem?_toList]
  cases c.frames[f.index]? with
  | none => simp
  | some r => simp [Option.filter]

/-- The record of an open frame is at its position in the chain. -/
theorem chain_of_record? {c : Context} {f : Frame} {record : FrameRecord}
    (hrecord : c.record? f = some record) :
    c.chain[f.index]? = some (f.serial, record.stackMark) := by
  obtain ⟨hat, hserial⟩ := record?_eq_some.mp hrecord
  simp [chain, hat, hserial]

/-- Marking a frame as running leaves serial numbers and marks alone. -/
theorem chain_activate {c : Context} {f : Frame} {record : FrameRecord}
    (hrecord : c.record? f = some record) :
    chain { c with frames := c.frames.setIfInBounds f.index { record with state := .active } } =
      c.chain := by
  obtain ⟨hlt, heq⟩ := List.getElem?_eq_some_iff.mp (chain_of_record? hrecord)
  have hset : c.chain.set f.index (f.serial, record.stackMark) = c.chain := by
    rw [← heq, List.set_getElem_self]
  simpa [chain, List.map_set, (record?_eq_some.mp hrecord).2] using hset

/-- A new record does not decide about frames with other serial numbers. -/
theorem isSome_record?_push {c c' : Context} {r : FrameRecord} {f : Frame}
    (hframes : c'.frames = c.frames.push r) (hserial : f.serial ≠ r.serial) :
    (c'.record? f).isSome = (c.record? f).isSome := by
  have hchain : c'.chain = c.chain ++ [(r.serial, r.stackMark)] := by simp [chain, hframes]
  rw [Bool.eq_iff_iff, isSome_record?, isSome_record?, hchain, List.getElem?_append]
  by_cases hindex : f.index < c.chain.length
  · rw [if_pos hindex]
  · rw [if_neg hindex, List.getElem?_eq_none (Nat.le_of_not_lt hindex), List.getElem?_singleton]
    split <;> simp [hserial.symm]

/-- Without its last record, the chain still decides about all other frames. -/
theorem isSome_record?_pop {c c' : Context} {f : Frame} (hframes : c'.frames = c.frames.pop) :
    (c'.record? f).isSome ↔ (c.record? f).isSome ∧ f.index ≠ c.depth - 1 := by
  have hchain : c'.chain = c.chain.dropLast := by simp [chain, hframes]
  have hlength : c.chain.length = c.depth := by simp [chain, depth]
  rw [isSome_record?, isSome_record?, hchain, List.getElem?_dropLast, hlength]
  by_cases hindex : f.index < c.depth - 1
  · rw [if_pos hindex]
    exact ⟨fun h => ⟨h, by omega⟩, fun h => h.1⟩
  · rw [if_neg hindex]
    refine ⟨fun h => by simp at h, fun h => ?_⟩
    obtain ⟨hopen, hne⟩ := h
    rw [List.getElem?_eq_none (by omega)] at hopen
    simp at hopen

end Context

namespace Tracked

/-- The open frames, the innermost first. -/
def openFrames (s : Tracked) : List Frame :=
  s.history.issued.filter fun f => (s.context.record? f).isSome

/-- A frame is open if it was opened and has a record. -/
theorem mem_openFrames {s : Tracked} {f : Frame} :
    f ∈ s.openFrames ↔ f ∈ s.history.issued ∧ (s.context.record? f).isSome := by
  simp [openFrames]

/-- Which frames are open is decided by the chain and the history. -/
theorem openFrames_congr {s s' : Tracked} (hissued : s'.history.issued = s.history.issued)
    (hchain : s'.context.chain = s.context.chain) : s'.openFrames = s.openFrames := by
  rw [openFrames, openFrames, hissued]
  refine List.filter_congr fun f _ => ?_
  rw [Bool.eq_iff_iff, Context.isSome_record?, Context.isSome_record?, hchain]

/-- The records of a context and the frames that were opened on it agree. -/
structure Coherent (s : Tracked) : Prop where
  /-- Later frames have greater serial numbers. -/
  numbered : s.history.issued.Pairwise fun later earlier => earlier.serial < later.serial
  /-- The next serial number is greater than all of them. -/
  fresh : ∀ f ∈ s.history.issued, f.serial < s.context.nextSerial
  stacked : Stacked s.openFrames
  chain : s.context.chain.reverse = marks s.openFrames
  top : s.context.stack.top = extent s.openFrames

namespace Coherent

variable {s s' : Tracked} {f g : Frame}

/-- Two frames with one serial number are the same frame. -/
theorem eq_of_serial (h : Coherent s) (hf : f ∈ s.history.issued) (hg : g ∈ s.history.issued)
    (hserial : f.serial = g.serial) : f = g := by
  have hnodup : (s.history.issued.map Frame.serial).Nodup :=
    List.pairwise_map.mpr (h.numbered.imp fun hlt => (Nat.ne_of_lt hlt).symm)
  exact List.inj_on_of_nodup_map hnodup hf hg hserial

/-- A frame that is opened is another than all that were opened before. -/
theorem not_issued (h : Coherent s) {args : List Value} (hopened : Opened s args f s') :
    f ∉ s.history.issued := by
  intro hf
  have hlt := h.fresh f hf
  rw [hopened.serial] at hlt
  exact Nat.lt_irrefl _ hlt

/-- There are as many records as open frames. -/
theorem depth (h : Coherent s) : s.context.depth = s.openFrames.length := by
  have hlength := congrArg List.length h.chain
  simpa [Context.chain, Context.depth] using hlength

/-- The serial numbers in the chain are those of the open frames. -/
theorem serials (h : Coherent s) :
    s.context.frames.toList.map FrameRecord.serial = (s.openFrames.map Frame.serial).reverse := by
  have hserials := congrArg (List.map Prod.fst) h.chain
  rw [marks_map_fst] at hserials
  rw [← hserials, ← List.map_reverse, List.reverse_reverse]
  simp [Context.chain]

/-- Serial numbers decrease from the innermost frame outwards. -/
theorem openFrames_pairwise (h : Coherent s) :
    s.openFrames.Pairwise fun inner outer => outer.serial < inner.serial :=
  h.numbered.sublist List.filter_sublist

/-- A frame that is opened comes to lie on top of the open frames. -/
theorem openFrames_opened (h : Coherent s) {args : List Value} (hopened : Opened s args f s') :
    s'.openFrames = f :: s.openFrames := by
  have hold : ∀ g ∈ s.history.issued,
      (s'.context.record? g).isSome = (s.context.record? g).isSome := by
    intro g hg
    exact Context.isSome_record?_push hopened.frames (Nat.ne_of_lt (h.fresh g hg))
  rw [openFrames, hopened.issued, List.filter_cons, if_pos (by simp [hopened.record]),
    List.filter_congr hold]
  rfl

/-- A frame that has a record in the last position lies on top of the open frames. -/
theorem openFrames_head (h : Coherent s) {record : FrameRecord} (hissued : f ∈ s.history.issued)
    (hrecord : s.context.record? f = some record) (hlast : f.index + 1 = s.context.depth) :
    ∃ outer, s.openFrames = f :: outer := by
  have hdepth := h.depth
  cases hopen : s.openFrames with
  | nil =>
    rw [hopen, List.length_nil] at hdepth
    omega
  | cons g outer =>
    have hg : g ∈ s.openFrames := by simp [hopen]
    obtain ⟨hgissued, hgrecord⟩ := mem_openFrames.mp hg
    have hindex : g.index = f.index := by
      have hstacked := h.stacked
      rw [hopen] at hstacked hdepth
      rw [List.length_cons] at hdepth
      have := hstacked.1
      omega
    have hserial : g.serial = f.serial := by
      rw [Context.isSome_record?, hindex, Context.chain_of_record? hrecord] at hgrecord
      exact (Option.some.inj hgrecord).symm
    rw [h.eq_of_serial hgissued hissued hserial]
    exact ⟨outer, rfl⟩

/-- Closing takes the innermost frame off the open frames. -/
theorem openFrames_closed (h : Coherent s) {record : FrameRecord} (hissued : f ∈ s.history.issued)
    (hrecord : s.context.record? f = some record) (hlast : f.index + 1 = s.context.depth)
    (hframes : s'.context.frames = s.context.frames.pop) (hhistory : s'.history = s.history) :
    s.openFrames = f :: s'.openFrames := by
  obtain ⟨outer, houter⟩ := h.openFrames_head hissued hrecord hlast
  have hstacked := h.stacked
  rw [houter] at hstacked
  have hfilter : s'.openFrames = s.openFrames.filter fun g => g.index ≠ s.context.depth - 1 := by
    rw [openFrames, openFrames, hhistory, List.filter_filter]
    refine List.filter_congr fun g _ => ?_
    rw [Bool.eq_iff_iff, Context.isSome_record?_pop hframes]
    simp [and_comm]
  have hkept : outer.filter (fun g => g.index ≠ s.context.depth - 1) = outer := by
    rw [List.filter_eq_self]
    intro g hg
    have hlt := hstacked.2.2.index_lt hg
    have hf := hstacked.1
    simp only [ne_eq, decide_eq_true_eq]
    omega
  rw [hfilter, houter, List.filter_cons, if_neg (by simp; omega), hkept]

/-- The mark in the record of an open frame is how much the frames below it take. -/
theorem mark (h : Coherent s) {inner outer : List Frame} {record : FrameRecord}
    (hsplit : s.openFrames = inner ++ f :: outer) (hrecord : s.context.record? f = some record) :
    record.stackMark = extent outer := by
  have hstacked := h.stacked
  rw [hsplit] at hstacked
  have hindex : f.index = outer.length := hstacked.of_append.1
  have hchain : s.context.chain = (marks s.openFrames).reverse := by
    rw [← h.chain, List.reverse_reverse]
  have hat := Context.chain_of_record? hrecord
  rw [hchain, hsplit, hindex, marks_reverse_getElem?] at hat
  simp only [Option.some.injEq, Prod.mk.injEq] at hat
  exact hat.2.symm

/-- Opening a frame keeps records and frames in agreement. -/
theorem opened (h : Coherent s) {args : List Value} (hopened : Opened s args f s') :
    Coherent s' := by
  have hopen := h.openFrames_opened hopened
  constructor
  · rw [hopened.issued]
    exact List.pairwise_cons.mpr ⟨fun g hg => hopened.serial ▸ h.fresh g hg, h.numbered⟩
  · intro g hg
    rw [hopened.issued] at hg
    rw [hopened.nextSerial]
    rcases List.mem_cons.mp hg with rfl | hg
    · exact Nat.lt_succ_of_le (Nat.le_of_eq hopened.serial)
    · exact Nat.lt_succ_of_lt (h.fresh g hg)
  · rw [hopen]
    refine ⟨hopened.index.trans h.depth, fun offset hbase => ?_, h.stacked⟩
    rw [← h.top]
    cases hopened with
    | buffer hsmall => cases hbase
    | stack hlarge => exact (FrameBase.stack.inj hbase).symm
  · rw [hopen, marks, ← h.chain, ← h.top, hopened.serial]
    simp [Context.chain, hopened.frames, Context.nextRecord]
  · rw [hopen, extent, ← h.top]
    cases hopened with
    | buffer hsmall => rfl
    | stack hlarge => simp [Context.withStackFrame, OperandStack.top, Context.stackFrame, Frame.room]

/-- Closing a frame keeps records and frames in agreement. -/
theorem closed (h : Coherent s) {record : FrameRecord} (hissued : f ∈ s.history.issued)
    (hrecord : s.context.record? f = some record) (hlast : f.index + 1 = s.context.depth) :
    Coherent { s with context := s.context.withoutFrame f record } := by
  have hopen : s.openFrames =
      f :: openFrames { s with context := s.context.withoutFrame f record } :=
    h.openFrames_closed hissued hrecord hlast rfl rfl
  have hsplit := hopen
  rw [← List.nil_append (f :: _)] at hsplit
  have hmark := h.mark hsplit hrecord
  have hstacked := h.stacked
  have hchain := h.chain
  have htop := h.top
  rw [hopen] at hstacked hchain htop
  refine ⟨h.numbered, h.fresh, hstacked.2.2, ?_, ?_⟩
  · have hpop : (s.context.withoutFrame f record).chain.reverse = s.context.chain.reverse.tail := by
      simp [Context.chain, Context.withoutFrame]
    rw [hpop, hchain, marks, List.tail_cons]
  · change OperandStack.top (match f.base with
      | .values => s.context.stack
      | .stack _ => s.context.stack.truncate record.stackMark) = _
    rw [extent] at htop
    cases hbase : f.base with
    | values =>
      rw [Frame.room_buffer hbase] at htop
      exact htop
    | stack offset =>
      rw [OperandStack.top_truncate, hmark, htop]
      exact Nat.min_eq_left (Nat.le_add_right _ _)

/-- Records and frames still agree after a change that touches neither of them. -/
theorem congr (h : Coherent s) (hissued : s'.history.issued = s.history.issued)
    (hserial : s'.context.nextSerial = s.context.nextSerial)
    (hchain : s'.context.chain = s.context.chain) (htop : s'.context.stack.top = s.context.stack.top) :
    Coherent s' := by
  have hopen := openFrames_congr hissued hchain
  constructor
  · rw [hissued]
    exact h.numbered
  · rw [hissued, hserial]
    exact h.fresh
  · rw [hopen]
    exact h.stacked
  · rw [hopen, hchain]
    exact h.chain
  · rw [hopen, htop]
    exact h.top

/-- Every change keeps records and frames in agreement. -/
theorem change (h : Coherent s) (hchange : Change s s') : Coherent s' := by
  cases hchange with
  | quiet safetyOpen guard journal => exact h.congr rfl rfl rfl rfl
  | opened hopened => exact h.opened hopened
  | activated hrecord => exact h.congr rfl rfl (Context.chain_activate hrecord) rfl
  | stored f index value hissued haccess =>
    obtain ⟨_, _, _, hoperands, hwritten⟩ := Context.writeSlot_slots f index value s.context
    rw [hwritten]
    exact h.congr rfl rfl rfl hoperands
  | reported values hroom => exact h.congr rfl rfl rfl rfl
  | closed hissued hrecord hlast => exact h.closed hissued hrecord hlast

/-- A change leaves the open frames as they are, or puts one on top, or takes the top one off. -/
theorem openFrames_change (h : Coherent s) (hchange : Change s s') :
    s'.openFrames = s.openFrames ∨
      (∃ args f, Opened s args f s' ∧ s'.openFrames = f :: s.openFrames) ∨
      ∃ f, s.openFrames = f :: s'.openFrames := by
  cases hchange with
  | quiet safetyOpen guard journal => exact .inl (openFrames_congr rfl rfl)
  | opened hopened => exact .inr (.inl ⟨_, _, hopened, h.openFrames_opened hopened⟩)
  | activated hrecord => exact .inl (openFrames_congr rfl (Context.chain_activate hrecord))
  | stored f index value hissued haccess =>
    obtain ⟨_, _, _, _, hwritten⟩ := Context.writeSlot_slots f index value s.context
    rw [hwritten]
    exact .inl (openFrames_congr rfl rfl)
  | reported values hroom => exact .inl (openFrames_congr rfl rfl)
  | closed hissued hrecord hlast =>
    exact .inr (.inr ⟨_, h.openFrames_closed hissued hrecord hlast rfl rfl⟩)

/-- The open frames decide which records there are and how much of the operand stack is in use. -/
theorem eq_of_openFrames (h : Coherent s) (h' : Coherent s') (hopen : s'.openFrames = s.openFrames) :
    s'.context.chain = s.context.chain ∧ s'.context.stack.top = s.context.stack.top := by
  constructor
  · apply List.reverse_injective
    rw [h.chain, h'.chain, hopen]
  · rw [h.top, h'.top, hopen]

/-- No frame is open twice. -/
theorem openFrames_nodup (h : Coherent s) : s.openFrames.Nodup :=
  h.openFrames_pairwise.imp fun hlt heq => absurd (heq ▸ hlt) (Nat.lt_irrefl _)

end Coherent

/-- Records and frames agree when a context is created. -/
theorem Created.coherent {settings : Settings} {s : Tracked} (h : Created settings s) :
    Coherent s := by
  obtain ⟨id, region, hcontext⟩ := h.eq_create
  have hopen : s.openFrames = [] := by simp [openFrames, h.history, History.issued]
  constructor
  · simp [h.history, History.issued]
  · simp [h.history, History.issued]
  · rw [hopen]
    trivial
  · rw [hopen, hcontext]
    rfl
  · rw [hopen, hcontext]
    rfl

/-- Records and frames always agree. -/
theorem Reachable.coherent {settings : Settings} {s : Tracked} (h : Reachable settings s) :
    Coherent s :=
  h.holds (fun _ hcreated => hcreated.coherent) fun _ _ hchange hs => hs.change hchange

end Tracked

end CallEngine
