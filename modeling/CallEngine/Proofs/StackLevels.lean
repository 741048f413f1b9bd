import CallEngine.Proofs.Activity
import CallEngine.Proofs.FrameChain

/-!
# Levels of the operand stack

Between two frames that lie upon each other the operand stack has a level: the upper frame was
opened there, and when it is closed the stack is back there. Frames that are opened and closed above
an open frame do not move its level, so whoever closes the frame of a call finds everything as it
was when the frame was opened.

This needs no history of the context. All that is asked of a program is that it closes a frame by a
genuine name, one that does not hide that the frame has slots on the operand stack. Every name that
a context has given out for one of its own frames is genuine on it for ever.
-/

namespace CallEngine

namespace Context

variable {a b c c' : Context} {f : Frame} {record : FrameRecord}

/-- How much of the operand stack is in use below the frame at a position of the chain. At the end
of the chain this is all that is in use. -/
def level (c : Context) (position : Nat) : Nat :=
  (c.chain[position]?.map Prod.snd).getD c.stack.top

/-- There is one place in the chain for each open frame. -/
theorem length_chain (c : Context) : c.chain.length = c.depth := by simp [chain, depth]

/-- Above the innermost frame is the top of the operand stack. -/
theorem level_depth (c : Context) : c.level c.depth = c.stack.top := by
  simp [level, List.getElem?_eq_none (Nat.le_of_eq c.length_chain)]

/-- Levels are decided by the chain and the top of the operand stack. -/
theorem level_congr (hchain : c'.chain = c.chain) (htop : c'.stack.top = c.stack.top)
    (position : Nat) : c'.level position = c.level position := by
  rw [level, level, hchain, htop]

/-! ## Frames that stay open -/

/-- Where a frame is still open that was opened before, the chain up to it is the same, and so is
the level above it. -/
structure Upholds (c c' : Context) : Prop where
  nextSerial : c.nextSerial ≤ c'.nextSerial
  below {index : Nat} {mark : Nat × Nat} (hmark : c'.chain[index]? = some mark)
    (hold : mark.1 < c.nextSerial) :
    c'.chain.take (index + 1) = c.chain.take (index + 1) ∧
      c'.level (index + 1) = c.level (index + 1)

namespace Upholds

/-- No frame was opened or closed. -/
theorem same (hserial : c'.nextSerial = c.nextSerial) (hchain : c'.chain = c.chain)
    (htop : c'.stack.top = c.stack.top) : Upholds c c' :=
  ⟨Nat.le_of_eq hserial.symm, fun _ _ => ⟨by rw [hchain], level_congr hchain htop _⟩⟩

/-- Nothing has changed. -/
theorem refl (c : Context) : Upholds c c := .same rfl rfl rfl

/-- One change after another. -/
theorem trans (hab : Upholds a b) (hbc : Upholds b c) : Upholds a c where
  nextSerial := Nat.le_trans hab.nextSerial hbc.nextSerial
  below {index mark} hmark hold := by
    obtain ⟨htake, hlevel⟩ := hbc.below hmark (Nat.lt_of_lt_of_le hold hab.nextSerial)
    have hthere : b.chain[index]? = some mark := by
      rw [← List.getElem?_take_of_succ, ← htake, List.getElem?_take_of_succ, hmark]
    obtain ⟨htake', hlevel'⟩ := hab.below hthere hold
    exact ⟨htake.trans htake', hlevel.trans hlevel'⟩

/-- A quiet change opens and closes nothing. -/
theorem quiet (h : c.Quiet c') : Upholds c c' := by
  obtain ⟨_, _, _, _, rfl⟩ := h
  exact .same rfl rfl rfl

/-- The chain with one more frame. -/
theorem chain_push (hframes : c'.frames = c.frames.push c.nextRecord) :
    c'.chain = c.chain ++ [(c.nextSerial, c.stack.top)] := by
  simp [chain, hframes, nextRecord]

/-- A frame was opened where the operand stack ended. -/
theorem opened (hframes : c'.frames = c.frames.push c.nextRecord)
    (hserial : c'.nextSerial = c.nextSerial + 1) : Upholds c c' := by
  have hchain := chain_push hframes
  refine ⟨by omega, fun {index mark} hmark hold => ?_⟩
  have hlt : index < c.chain.length := by
    rw [hchain, List.getElem?_append] at hmark
    split at hmark
    · assumption
    · rw [List.getElem?_singleton] at hmark
      split at hmark
      · cases hmark
        exact absurd hold (Nat.lt_irrefl _)
      · cases hmark
  refine ⟨by rw [hchain, List.take_append_of_le_length hlt], ?_⟩
  rw [level, level, hchain, List.getElem?_append]
  split
  · rw [List.getElem?_eq_getElem]
    · rfl
    · assumption
  · have hend : index + 1 = c.chain.length := by omega
    simp [hend]

/-- The innermost frame was closed, and the operand stack ends where it did before that frame was
opened. -/
theorem closed {mark : Nat × Nat} (hframes : c'.frames = c.frames.pop)
    (hserial : c'.nextSerial = c.nextSerial) (hlast : c.chain[c.depth - 1]? = some mark)
    (htop : c'.stack.top = mark.2) : Upholds c c' := by
  have hchain : c'.chain = c.chain.dropLast := by simp [chain, hframes]
  have hlength := c.length_chain
  refine ⟨by omega, fun {index found} hfound _ => ?_⟩
  rw [hchain, List.getElem?_dropLast] at hfound
  have hlt : index < c.chain.length - 1 := by
    by_contra hge
    simp [hge] at hfound
  refine ⟨by rw [hchain, List.dropLast_eq_take, List.take_take, Nat.min_eq_left (by omega)], ?_⟩
  rw [level, level, hchain, List.getElem?_dropLast, hlength]
  split
  · rw [List.getElem?_eq_getElem]
    · rfl
    · omega
  · have hend : index + 1 = c.depth - 1 := by omega
    simp [hend, hlast, htop]

end Upholds

/-! ## Names of frames -/

/-- A name by which a frame may be closed on a context. It is one that the context can have given
out, and if the frame is open, it has slots on the operand stack only if its name says so. -/
def Genuine (c : Context) (f : Frame) : Prop :=
  f.serial < c.nextSerial ∧ ∀ record ∈ c.record? f,
    record.stackMark ≤ c.level (f.index + 1) ∧
      (f.base = .values → c.level (f.index + 1) = record.stackMark)

instance (c : Context) (f : Frame) : Decidable (c.Genuine f) :=
  inferInstanceAs (Decidable (_ ∧ _))

/-- Closing a frame by a genuine name takes the operand stack back to the mark of the frame. -/
theorem Genuine.top (h : c.Genuine f) (hrecord : c.record? f = some record)
    (hlast : f.index + 1 = c.depth) :
    (c.withoutFrame f record).stack.top = record.stackMark := by
  obtain ⟨hmark, hvalues⟩ := h.2 record hrecord
  rw [hlast, level_depth] at hmark hvalues
  rw [withoutFrame]
  cases hbase : f.base with
  | values => exact hvalues hbase
  | stack offset =>
    dsimp only
    rw [OperandStack.top_truncate, Nat.min_eq_left hmark]

/-- Closing a frame by a genuine name upholds the frames below it. -/
theorem Genuine.upholds (h : c.Genuine f) (hrecord : c.record? f = some record)
    (hlast : f.index + 1 = c.depth) : Upholds c (c.withoutFrame f record) := by
  have hindex : c.depth - 1 = f.index := by omega
  refine .closed rfl rfl (hindex ▸ chain_of_record? hrecord) (h.top hrecord hlast)

/-- A frame keeps its place and its mark as long as it is open. -/
theorem Upholds.record? (h : Upholds c c') (hold : f.serial < c.nextSerial)
    (hrecord : c'.record? f = some record) :
    (∃ before, c.record? f = some before ∧ before.stackMark = record.stackMark) ∧
      c'.level (f.index + 1) = c.level (f.index + 1) := by
  have hmark := chain_of_record? hrecord
  obtain ⟨htake, hlevel⟩ := h.below hmark hold
  have hthere : c.chain[f.index]? = some (f.serial, record.stackMark) := by
    rw [← List.getElem?_take_of_succ, ← htake, List.getElem?_take_of_succ, hmark]
  refine ⟨?_, hlevel⟩
  have hopen : (c.record? f).isSome := by simp [isSome_record?, hthere]
  obtain ⟨before, hbefore⟩ := Option.isSome_iff_exists.mp hopen
  have hsame := (chain_of_record? hbefore).symm.trans hthere
  simp only [Option.some.injEq, Prod.mk.injEq, true_and] at hsame
  exact ⟨before, hbefore, hsame⟩

/-- A genuine name stays so. -/
theorem Upholds.genuine (h : Upholds c c') (hf : c.Genuine f) : c'.Genuine f := by
  refine ⟨Nat.lt_of_lt_of_le hf.1 h.nextSerial, fun record hrecord => ?_⟩
  obtain ⟨⟨before, hbefore, hmark⟩, hlevel⟩ := h.record? hf.1 hrecord
  rw [hlevel, ← hmark]
  exact hf.2 before hbefore

/-! ## Calls -/

/-- A frame was opened on top of the open ones. -/
structure Opened (c : Context) (f : Frame) (c' : Context) : Prop where
  index : f.index = c.depth
  serial : f.serial = c.nextSerial
  frames : c'.frames = c.frames.push c.nextRecord
  nextSerial : c'.nextSerial = c.nextSerial + 1
  room : c.stack.top ≤ c'.stack.top
  buffer (hbase : f.base = .values) : c'.stack.top = c.stack.top
  disabled : c'.guard.disabled = c.guard.disabled

/-- The chain of frames, the top of the operand stack and the number of regions without interrupts
are the same. -/
structure Restored (c c' : Context) : Prop where
  chain : c'.chain = c.chain
  top : c'.stack.top = c.stack.top
  disabled : c'.guard.disabled = c.guard.disabled

/-- Nothing has changed. -/
theorem Restored.refl (c : Context) : Restored c c := ⟨rfl, rfl, rfl⟩

/-- What is restored once and again is restored. -/
theorem Restored.trans (hab : Restored a b) (hbc : Restored b c) : Restored a c :=
  ⟨hbc.chain.trans hab.chain, hbc.top.trans hab.top, hbc.disabled.trans hab.disabled⟩

/-- A quiet change moves nothing. -/
theorem Restored.quiet (h : c.Quiet c') : Restored c c' := by
  obtain ⟨_, _, _, hdisabled, rfl⟩ := h
  exact ⟨rfl, rfl, hdisabled⟩

/-- Opening a frame ends with one that was opened, or is refused quietly. -/
theorem opens_cases {args : List Value} {o : Outcome Context FrameError Frame}
    (h : c.Opens args o) :
    (∃ f c', o = .done f c' ∧ Opened c f c') ∨ (∃ error c', o = .failed error c' ∧ c.Quiet c') ∨
      ∃ message c', o = .fatal message c' := by
  cases h with
  | buffer hsmall => exact .inl ⟨_, _, rfl, rfl, rfl, rfl, rfl, Nat.le_refl _, fun _ => rfl, rfl⟩
  | stack hlarge =>
    refine .inl ⟨_, _, rfl, rfl, rfl, rfl, rfl, ?_, (fun hbase => nomatch hbase), rfl⟩
    simp [withStackFrame, OperandStack.top]
  | refused error hquiet => exact .inr (.inl ⟨error, _, rfl, hquiet⟩)
  | fatal message c' => exact .inr (.inr ⟨message, c', rfl⟩)

namespace Opened

/-- Opening a frame upholds those below it. -/
theorem upholds (h : Opened c f c') : Upholds c c' := .opened h.frames h.nextSerial

/-- The name of a frame that was just opened is genuine. -/
theorem genuine (h : Opened c f c') : c'.Genuine f := by
  have hlevel : c'.level (f.index + 1) = c'.stack.top := by
    rw [← level_depth, depth, h.frames, Array.size_push, h.index, depth]
  have hserial := h.serial
  have hnext := h.nextSerial
  refine ⟨by omega, fun record hrecord => ?_⟩
  obtain ⟨hat, _⟩ := record?_eq_some.mp hrecord
  rw [h.frames, h.index, depth, Array.getElem?_push_size] at hat
  obtain rfl : c.nextRecord = record := Option.some.inj hat
  rw [hlevel]
  exact ⟨h.room, h.buffer⟩

/-- Whatever was done since a frame was opened, if its frame can be closed then everything is as it
was before. -/
theorem closeFrame {ε : Type} (h : Opened a f b) (hupholds : Upholds b c)
    (hdisabled : c.guard.disabled = b.guard.disabled) :
    (Context.closeFrame (ε := ε) f c).Settles (Restored a) := by
  refine (closeFrame_settles f c).imp fun c' hclosed => ?_
  obtain ⟨record, hrecord, hlast, hquiet⟩ := hclosed
  have hold : f.serial < b.nextSerial := h.genuine.1
  have hmark := chain_of_record? hrecord
  have htake := (hupholds.below hmark hold).1
  have hindex := h.index
  have hopened : b.chain = a.chain ++ [(a.nextSerial, a.stack.top)] := Upholds.chain_push h.frames
  -- The frame is the innermost one both now and when it was opened, so the chains are the same.
  have hchain : c.chain = a.chain ++ [(a.nextSerial, a.stack.top)] := by
    rw [List.take_of_length_le (by rw [c.length_chain]; omega),
      List.take_of_length_le (by rw [hopened]; simp [a.length_chain]; omega)] at htake
    exact htake.trans hopened
  have htop : record.stackMark = a.stack.top := by
    rw [hchain, hindex, ← a.length_chain] at hmark
    simpa using (congrArg (Option.map Prod.snd) hmark).symm
  have hrestored : Restored a (c.withoutFrame f record) := by
    refine ⟨?_, ?_, hdisabled.trans h.disabled⟩
    · have hpopped : (c.withoutFrame f record).chain = c.chain.dropLast := by
        simp [Context.chain, withoutFrame]
      rw [hpopped, hchain, List.dropLast_concat]
    · rw [(hupholds.genuine h.genuine).top hrecord hlast, htop]
  exact hrestored.trans (.quiet hquiet)

end Opened

end Context

/-! ## Uses of a context -/

/-- A name that is not genuine is refused, as that of a frame which the context does not have. -/
def Context.checkName (f : Frame) : ContextOp EngineError Unit := Op.read fun c =>
  if c.Genuine f then .ok () else .error (.frame (.closed f.serial))

/-- What comes after a name was checked is done if the name is genuine. -/
theorem Context.checkName_bind {α : Type} (f : Frame) (next : ContextOp EngineError α)
    (c : Context) : (do checkName f; next : ContextOp EngineError α) c =
      if c.Genuine f then next c else .failed (.frame (.closed f.serial)) c := by
  rw [Op.bind_apply, checkName, Op.read]
  by_cases h : c.Genuine f <;> simp [h]

/-- The operation of a use by a program that closes frames by genuine names only. -/
def ContextUse.fairOp {α : Type} : ContextUse α → ContextOp EngineError α
  | closeFrame f => do
    Context.checkName f
    Context.closeFrame f
  | u => u.op

/-- A program that closes frames by genuine names only does what it does to a context by the uses
that it makes of it, unless a name is refused. -/
theorem ContextUse.fairOp_settles {α : Type} {u : ContextUse α} {c : Context}
    {P : Context → Prop} (hop : (u.op c).Settles P) (hsame : P c) : (u.fairOp c).Settles P := by
  cases u with
  | closeFrame f =>
    rw [fairOp, Context.checkName_bind]
    split
    · exact hop
    · exact hsame
  | _ => exact hop

/-- Every use of a context by such a program upholds the frames that stay open. -/
theorem ContextUse.upholds {α : Type} (u : ContextUse α) (c : Context) :
    (u.fairOp c).Settles c.Upholds := by
  have hopening {args : List Value} {o : Outcome Context FrameError Frame}
      (hopens : c.Opens args o) : o.Settles c.Upholds := by
    rcases Context.opens_cases hopens with ⟨f, c', rfl, hopened⟩ | ⟨error, c', rfl, hquiet⟩ |
      ⟨message, c', rfl⟩
    · exact hopened.upholds
    · exact Context.Upholds.quiet hquiet
    · trivial
  cases u with
  | openFrame argc => exact Op.settles_mapError.mpr (hopening (Context.openFrame_opens argc c))
  | openFrameWith args =>
    exact Op.settles_mapError.mpr (hopening (Context.openFrameWith_opens args c))
  | activate f =>
    refine Op.settles_mapError.mpr ((Context.activate_settles f c).imp fun c' hactivated => ?_)
    rcases hactivated with rfl | ⟨record, hrecord, rfl⟩
    · exact .refl _
    · exact .same rfl (Context.chain_activate hrecord) rfl
  | args f => exact Op.settles_mapError.mpr (Op.settles_read (.refl c))
  | setArg f index value =>
    refine Op.settles_mapError.mpr ?_
    rw [Context.setArg_apply]
    obtain ⟨_, _, _, hoperands, hwritten⟩ := Context.writeSlot_slots f index value c
    rw [hwritten]
    cases c.checkAccess f index with
    | error error => exact .refl c
    | ok _ => exact .same rfl rfl hoperands
  | closeFrame f =>
    rw [fairOp, Context.checkName_bind]
    split
    · rename_i hgenuine
      refine (Context.closeFrame_settles f c).imp fun c' hclosed => ?_
      obtain ⟨record, hrecord, hlast, hquiet⟩ := hclosed
      exact (hgenuine.upholds hrecord hlast).trans (.quiet hquiet)
    · exact .refl c
  | setValues values =>
    refine Op.settles_mapError.mpr ?_
    rw [Context.setValues_apply]
    cases c.values.set values <;> exact .same rfl rfl rfl
  | setValue value => exact .same rfl rfl rfl
  | clearValues => exact .same rfl rfl rfl
  | primary => exact .refl c
  | safePoint =>
    exact Op.settles_mapError.mpr ((Context.safePoint_quiet c).imp fun _ => .quiet)
  | raiseInterrupt kind =>
    exact Op.settles_mapError.mpr ((Context.raiseInterrupt_quiet kind c).imp fun _ => .quiet)
  | signalTrap trap =>
    exact Op.settles_mapError.mpr ((Context.signalTrap_quiet trap c).imp fun _ => .quiet)
  | post kind => exact .same rfl rfl rfl

/-! ## Names that a context gives out -/

namespace Tracked

/-- The level above a frame is what it and the frames below it take. -/
theorem Coherent.level {s : Tracked} {f : Frame} {inner outer : List Frame} (h : Coherent s)
    (hsplit : s.openFrames = inner ++ f :: outer) :
    s.context.level (f.index + 1) = extent (f :: outer) := by
  have hstacked := h.stacked
  rw [hsplit] at hstacked
  have hindex : f.index + 1 = (f :: outer).length := by rw [hstacked.of_append.1]; simp
  have hchain : s.context.chain = (marks s.openFrames).reverse := by
    rw [← h.chain, List.reverse_reverse]
  rw [Context.level, hchain, hindex, h.top, hsplit]
  -- Either the frame is the innermost one, or another lies upon it.
  rcases List.eq_nil_or_concat inner with rfl | ⟨inner, g, rfl⟩
  · simp
  · rw [List.concat_eq_append, List.append_assoc, List.singleton_append, marks_reverse_getElem?]
    rfl

/-- The name of a frame is genuine on the context that has given it out, for ever. -/
theorem Coherent.genuine {s : Tracked} {f : Frame} (h : Coherent s)
    (hissued : f ∈ s.history.issued) : s.context.Genuine f := by
  refine ⟨h.fresh f hissued, fun record hrecord => ?_⟩
  have hopen : f ∈ s.openFrames := mem_openFrames.mpr ⟨hissued, by rw [hrecord]; rfl⟩
  obtain ⟨inner, outer, hsplit⟩ := List.append_of_mem hopen
  rw [h.level hsplit, h.mark hsplit hrecord, extent]
  exact ⟨Nat.le_add_right _ _, fun hbase => by rw [Frame.room_buffer hbase, Nat.add_zero]⟩

end Tracked

end CallEngine
