import CallEngine.Proofs.FrameChain

/-!
# The life of a frame

A frame is opened, marked as running and closed, in this order and never back. Its name can be kept
for longer than that, and its place in the chain is given to later frames, but these have other
serial numbers. So a closed frame stays closed: it is refused wherever it is named, and nothing
changes. Only the innermost open frame can be closed.
-/

namespace CallEngine

/-- How far a frame is in its life. -/
def FrameState.stage : FrameState → Nat
  | opened => 0
  | active => 1
  | closed => 2

namespace Context

variable {ε : Type} {c c' : Context} {f g : Frame} {record : FrameRecord}

/-- No frame is further in its life than a closed one. -/
theorem frameState_stage_le (c : Context) (f : Frame) : (c.frameState f).stage ≤ 2 := by
  cases c.frameState f <;> decide

/-- The state of a frame is that of its record. -/
theorem frameState_congr (h : c'.record? f = c.record? f) : c'.frameState f = c.frameState f := by
  rw [frameState, frameState, h]

/-- A frame without a record is closed. -/
theorem frameState_of_none (h : c.record? f = none) : c.frameState f = .closed := by
  rw [frameState, h]

/-! ## Records after one change of the chain -/

/-- A new record leaves frames with other serial numbers alone. -/
theorem record?_push (hframes : c'.frames = c.frames.push record)
    (hserial : f.serial ≠ record.serial) : c'.record? f = c.record? f := by
  rw [record?, record?, hframes, Array.getElem?_push]
  split
  · rename_i hindex
    simp [hindex, Option.filter, hserial.symm]
  · rfl

/-- Without its last record, the chain has the records of other frames. -/
theorem record?_pop (hframes : c'.frames = c.frames.pop) :
    c'.record? f = none ∨ c'.record? f = c.record? f := by
  rw [record?, record?, hframes, Array.getElem?_pop]
  split
  · exact .inr rfl
  · exact .inl rfl

/-- Marking a frame as running changes its own record only. -/
theorem record?_activate (hrecord : c.record? g = some record)
    (hframes : c'.frames = c.frames.setIfInBounds g.index { record with state := .active }) :
    c'.record? f = c.record? f ∨
      c.record? f = some record ∧ c'.record? f = some { record with state := .active } := by
  obtain ⟨hat, hserial⟩ := record?_eq_some.mp hrecord
  obtain ⟨hlt, _⟩ := Array.getElem?_eq_some_iff.mp hat
  by_cases hindex : g.index = f.index
  · have hset : c'.frames[f.index]? = some { record with state := .active } := by
      rw [hframes, ← hindex, Array.getElem?_setIfInBounds_self_of_lt hlt]
    rw [record?, record?, hset, ← hindex, hat]
    by_cases hf : record.serial = f.serial
    · exact .inr ⟨by simp [Option.filter, hf], by simp [Option.filter, hf]⟩
    · exact .inl (by simp [Option.filter, hf])
  · left
    rw [record?, record?, hframes, Array.getElem?_setIfInBounds_ne hindex]

/-- A new record leaves frames with other serial numbers where they are. -/
theorem stage_push (hframes : c'.frames = c.frames.push record) (hserial : f.serial ≠ record.serial) :
    (c.frameState f).stage ≤ (c'.frameState f).stage := by
  have hsame := frameState_congr (record?_push hframes hserial)
  exact Nat.le_of_eq (congrArg FrameState.stage hsame.symm)

/-- Marking a frame as running does not set any frame back. -/
theorem stage_activate (hrecord : c.record? g = some record) (hopen : record.state ≠ .closed)
    (hframes : c'.frames = c.frames.setIfInBounds g.index { record with state := .active }) :
    (c.frameState f).stage ≤ (c'.frameState f).stage := by
  rcases record?_activate (f := f) hrecord hframes with hsame | ⟨hbefore, hafter⟩
  · exact Nat.le_of_eq (congrArg FrameState.stage (frameState_congr hsame).symm)
  · rw [frameState, frameState, hbefore, hafter]
    change record.state.stage ≤ FrameState.active.stage
    cases hstate : record.state with
    | opened => decide
    | active => decide
    | closed => exact absurd hstate hopen

/-- Taking the last record off the chain does not set any frame back. -/
theorem stage_pop (hframes : c'.frames = c.frames.pop) :
    (c.frameState f).stage ≤ (c'.frameState f).stage := by
  rcases record?_pop (f := f) hframes with hnone | hsame
  · rw [frameState_of_none hnone]
    exact c.frameState_stage_le f
  · exact Nat.le_of_eq (congrArg FrameState.stage (frameState_congr hsame).symm)

/-! ## What a closed frame answers -/

/-- A frame is refused as closed wherever it is named, and nothing changes. -/
structure Retired (c : Context) (f : Frame) : Prop where
  state : c.frameState f = .closed
  arg : ∀ index, c.arg f index = .error (.closed f.serial)
  args : c.args f = .error (.closed f.serial)
  setArg : ∀ index value, Context.setArg f index value c = .failed (.closed f.serial) c
  activate : Context.activate f c = .failed (.closed f.serial) c

/-- A frame without a record is refused. -/
theorem Retired.ofNone (h : c.record? f = none) : c.Retired f := by
  have haccess (index : Nat) : c.checkAccess f index = .error (.closed f.serial) := by
    simp [checkAccess, h]
  refine ⟨frameState_of_none h, fun index => ?_, ?_, fun index value => ?_, ?_⟩
  · rw [Context.arg, haccess]
    rfl
  · rw [Context.args, haccess, h]
    split <;> rfl
  · rw [setArg_apply, haccess]
  · simp [Context.activate, Op.bind_apply, Op.get, Op.fail, h]

/-- Closing a frame without a record is fatal. -/
theorem closeFrame_of_none (h : c.record? f = none) :
    closeFrame (ε := ε) f c = .fatal s!"frame {f.serial} closed twice on {c.text}" c := by
  simp [closeFrame, Op.bind_apply, Op.get, Op.fatal, h]

/-- Closing a frame is fatal if its record is not the last one. -/
theorem closeFrame_of_inner {inner : Nat} (h : c.record? f = some record)
    (hinner : c.depth = f.index + 1 + inner) (hpositive : inner ≠ 0) :
    closeFrame (ε := ε) f c =
      .fatal s!"frame {f.serial} closed with {inner} inner frames still open on {c.text}" c := by
  have hlast : ¬ f.index + 1 = c.depth := by omega
  have hcount : c.depth - f.index - 1 = inner := by omega
  simp [closeFrame, Op.bind_apply, Op.get, Op.fatal, h, hlast, hcount]

/-- Closing a frame takes its record off the chain if it is the last one. -/
theorem closeFrame_of_last (h : c.record? f = some record) (hlast : f.index + 1 = c.depth) :
    ∃ c', closeFrame (ε := ε) f c = .done () c' ∧ c'.frameState f = .closed := by
  have hframes : (popFrame f record c).settleStack.frames = c.frames.pop := by
    unfold popFrame settleStack
    cases f.base <;> rfl
  refine ⟨(popFrame f record c).settleStack, ?_, frameState_of_none ?_⟩
  · simp [closeFrame, Op.bind_apply, Op.get, Op.modify, h, hlast]
  · rw [← Option.not_isSome_iff_eq_none, isSome_record?_pop hframes]
    exact fun hopen => hopen.2 (by omega)

end Context

namespace Tracked

variable {settings : Settings} {s s' : Tracked} {f : Frame}

/-! ## Stages -/

/-- No record of the chain says that its frame is closed. -/
def Live (s : Tracked) : Prop := ∀ record ∈ s.context.frames.toList, record.state ≠ .closed

namespace Live

/-- Every change leaves only records of frames that are not closed. -/
theorem change (h : Live s) (hchange : Change s s') : Live s' := by
  intro record hmem
  cases hchange with
  | quiet safetyOpen guard journal => exact h record hmem
  | opened hopened =>
    rw [hopened.frames, Array.toList_push] at hmem
    rcases List.mem_append.mp hmem with hold | hnew
    · exact h record hold
    · rw [List.mem_singleton.mp hnew]
      simp [Context.nextRecord]
  | activated hrecord =>
    rw [Array.toList_setIfInBounds] at hmem
    rcases List.mem_or_eq_of_mem_set hmem with hold | rfl
    · exact h record hold
    · simp
  | stored f index value hissued haccess =>
    obtain ⟨_, _, _, _, hwritten⟩ := Context.writeSlot_slots f index value s.context
    rw [hwritten] at hmem
    exact h record hmem
  | reported values hroom => exact h record hmem
  | closed hissued hrecord hlast =>
    change record ∈ s.context.frames.pop.toList at hmem
    rw [Array.toList_pop] at hmem
    exact h record ((List.dropLast_sublist _).subset hmem)

/-- The record of an open frame does not say that it is closed. -/
theorem state_ne_closed (h : Live s) {record : FrameRecord}
    (hrecord : s.context.record? f = some record) : record.state ≠ .closed := by
  obtain ⟨hat, _⟩ := Context.record?_eq_some.mp hrecord
  rw [← Array.getElem?_toList] at hat
  exact h record (List.mem_of_getElem? hat)

/-- A frame is closed exactly if it has no record. -/
theorem frameState_eq_closed (h : Live s) :
    s.context.frameState f = .closed ↔ s.context.record? f = none := by
  refine ⟨fun hclosed => ?_, Context.frameState_of_none⟩
  cases hrecord : s.context.record? f with
  | none => rfl
  | some record =>
    rw [Context.frameState, hrecord] at hclosed
    exact absurd hclosed (h.state_ne_closed hrecord)

/-- A frame that was opened is open exactly if it is not closed. -/
theorem mem_openFrames_iff (h : Live s) (hissued : f ∈ s.history.issued) :
    f ∈ s.openFrames ↔ s.context.frameState f ≠ .closed := by
  rw [mem_openFrames, ne_eq, h.frameState_eq_closed, Option.isSome_iff_ne_none]
  exact and_iff_right hissued

end Live

/-- No frame goes back in its life by a single change. -/
theorem stage_le_of_change (hcoherent : Coherent s) (hlive : Live s) (hissued : f ∈ s.history.issued)
    (hchange : Change s s') :
    (s.context.frameState f).stage ≤ (s'.context.frameState f).stage := by
  cases hchange with
  | quiet safetyOpen guard journal => exact Nat.le_refl _
  | opened hopened =>
    -- The new record may stand where that of `f` stood, but its serial number is a new one.
    exact Context.stage_push hopened.frames (Nat.ne_of_lt (hcoherent.fresh f hissued))
  | activated hrecord =>
    exact Context.stage_activate hrecord (hlive.state_ne_closed hrecord) rfl
  | stored g index value hissued haccess =>
    obtain ⟨_, _, _, _, hwritten⟩ := Context.writeSlot_slots g index value s.context
    rw [hwritten]
    exact Nat.le_refl _
  | reported values hroom => exact Nat.le_refl _
  | closed hissued hrecord hlast => exact Context.stage_pop rfl

/-- No record says that its frame is closed when a context is created: there is none. -/
theorem Created.live (h : Created settings s) : Live s := by
  obtain ⟨id, region, hcontext⟩ := h.eq_create
  intro record hmem
  rw [hcontext] at hmem
  cases hmem

/-- The records of a context never say that a frame is closed. -/
theorem Reachable.live (h : Reachable settings s) : Live s :=
  h.holds (fun _ hcreated => hcreated.live) fun _ _ hchange hs => hs.change hchange

/-- No frame ever goes back in its life. The induction is over the changes between two moments. -/
theorem stage_le_of_changes (hcoherent : Coherent s) (hlive : Live s)
    (hissued : f ∈ s.history.issued) (h : Relation.ReflTransGen Change s s') :
    (s.context.frameState f).stage ≤ (s'.context.frameState f).stage ∧ Live s' := by
  have hall : Coherent s' ∧ Live s' ∧ f ∈ s'.history.issued ∧
      (s.context.frameState f).stage ≤ (s'.context.frameState f).stage := by
    induction h with
    | refl => exact ⟨hcoherent, hlive, hissued, Nat.le_refl _⟩
    | tail _ hchange ih =>
      obtain ⟨hcoherent, hlive, hissued, hstage⟩ := ih
      exact ⟨hcoherent.change hchange, hlive.change hchange, hchange.issued hissued,
        Nat.le_trans hstage (stage_le_of_change hcoherent hlive hissued hchange)⟩
  exact ⟨hall.2.2.2, hall.2.1⟩

/-! ## Closing -/

/-- The innermost open frame has the last record. -/
theorem Coherent.last_record (h : Coherent s) {outer : List Frame}
    (hopen : s.openFrames = f :: outer) :
    ∃ record, s.context.record? f = some record ∧ f.index + 1 = s.context.depth := by
  have hmem : f ∈ s.openFrames := hopen ▸ List.mem_cons_self
  obtain ⟨record, hrecord⟩ := Option.isSome_iff_exists.mp (mem_openFrames.mp hmem).2
  have hstacked := h.stacked
  rw [hopen] at hstacked
  refine ⟨record, hrecord, ?_⟩
  rw [h.depth, hopen, List.length_cons, hstacked.1]

/-- Closing a frame upon which others are open is fatal, and their number is reported. -/
theorem Coherent.closeFrame_inner {ε : Type} (h : Coherent s) {inner outer : List Frame}
    (hopen : s.openFrames = inner ++ f :: outer) (hinner : inner ≠ []) :
    Context.closeFrame (ε := ε) f s.context =
      .fatal s!"frame {f.serial} closed with {inner.length} inner frames still open on {s.context.text}"
        s.context := by
  have hmem : f ∈ s.openFrames := by simp [hopen]
  obtain ⟨record, hrecord⟩ := Option.isSome_iff_exists.mp (mem_openFrames.mp hmem).2
  have hstacked := h.stacked
  rw [hopen] at hstacked
  have hindex : f.index = outer.length := hstacked.of_append.1
  refine Context.closeFrame_of_inner hrecord ?_ (mt List.length_eq_zero_iff.mp hinner)
  rw [h.depth, hopen, hindex, List.length_append, List.length_cons]
  omega

/-- What closing a frame comes to. -/
structure Closing (s : Tracked) (f : Frame) : Prop where
  fatal_iff : (Context.closeFrame (ε := EngineError) f s.context).isFatal = true ↔
    s.openFrames.head? ≠ some f
  /-- The innermost open frame is closed. -/
  innermost : s.openFrames.head? = some f →
    ∃ c, Context.closeFrame (ε := EngineError) f s.context = .done () c ∧ c.frameState f = .closed
  /-- If other frames are open upon it, their number is reported. -/
  outer : s.context.frameState f ≠ .closed → s.openFrames.head? ≠ some f →
    ∃ inner outer, s.openFrames = inner ++ f :: outer ∧ inner ≠ [] ∧
      Context.closeFrame (ε := EngineError) f s.context =
        .fatal s!"frame {f.serial} closed with {inner.length} inner frames still open on {s.context.text}"
          s.context
  closed : s.context.frameState f = .closed →
    Context.closeFrame (ε := EngineError) f s.context =
      .fatal s!"frame {f.serial} closed twice on {s.context.text}" s.context

/-- Closing a frame that was opened comes to what its place among the open frames says. -/
theorem Coherent.closing (h : Coherent s) (hlive : Live s) (hissued : f ∈ s.history.issued) :
    Closing s f := by
  have hinnermost : s.openFrames.head? = some f →
      ∃ c, Context.closeFrame (ε := EngineError) f s.context = .done () c ∧
        c.frameState f = .closed := by
    intro hhead
    obtain ⟨outer, hopen⟩ := List.head?_eq_some_iff.mp hhead
    obtain ⟨record, hrecord, hlast⟩ := h.last_record hopen
    exact Context.closeFrame_of_last hrecord hlast
  have houter : s.context.frameState f ≠ .closed → s.openFrames.head? ≠ some f →
      ∃ inner outer, s.openFrames = inner ++ f :: outer ∧ inner ≠ [] := by
    intro hstate hhead
    obtain ⟨inner, outer, hopen⟩ := List.append_of_mem ((hlive.mem_openFrames_iff hissued).mpr hstate)
    refine ⟨inner, outer, hopen, ?_⟩
    rintro rfl
    exact hhead (by rw [hopen]; rfl)
  have hclosed : s.context.frameState f = .closed →
      Context.closeFrame (ε := EngineError) f s.context =
        .fatal s!"frame {f.serial} closed twice on {s.context.text}" s.context :=
    fun hstate => Context.closeFrame_of_none (hlive.frameState_eq_closed.mp hstate)
  refine ⟨⟨fun hfatal hhead => ?_, fun hhead => ?_⟩, hinnermost, fun hstate hhead => ?_, hclosed⟩
  · obtain ⟨c, hdone, _⟩ := hinnermost hhead
    rw [hdone] at hfatal
    cases hfatal
  · by_cases hstate : s.context.frameState f = .closed
    · rw [hclosed hstate]
      rfl
    · obtain ⟨inner, outer, hopen, hinner⟩ := houter hstate hhead
      rw [h.closeFrame_inner hopen hinner]
      rfl
  · obtain ⟨inner, outer, hopen, hinner⟩ := houter hstate hhead
    exact ⟨inner, outer, hopen, hinner, h.closeFrame_inner hopen hinner⟩

/-- What becomes of a frame. -/
structure Life (s : Tracked) (f : Frame) : Prop where
  /-- It is open first, then running, then closed. -/
  forward : ∀ s', Later s s' → (s.context.frameState f).stage ≤ (s'.context.frameState f).stage
  /-- Once closed it is so for ever, whatever has come in its place. -/
  retired : s.context.frameState f = .closed → ∀ s', Later s s' → s'.context.Retired f
  closing : Closing s f

/-- Every frame that a context ever gave out lives this life. -/
theorem frames_live (h : Reachable settings s) (hissued : f ∈ s.history.issued) : Life s f := by
  have hstage := fun s' (hlater : Later s s') =>
    stage_le_of_changes h.coherent h.live hissued hlater.changes
  refine ⟨fun s' hlater => (hstage s' hlater).1, fun hclosed s' hlater => ?_,
    h.coherent.closing h.live hissued⟩
  obtain ⟨hforward, hlive⟩ := hstage s' hlater
  have hlast : s'.context.frameState f = .closed := by
    rw [hclosed] at hforward
    cases hstate : s'.context.frameState f with
    | opened => simp [hstate, FrameState.stage] at hforward
    | active => simp [hstate, FrameState.stage] at hforward
    | closed => rfl
  exact .ofNone (hlive.frameState_eq_closed.mp hlast)

/-- A routine that closes a small frame and opens a large one in its place. -/
def replacing : Routine :=
  .request (.openFrame 1) fun _ _ =>
  .request (.closeFrame 0) fun _ _ =>
  .request (.openFrame 2) fun _ _ => .finish (.ok 0)

/-- On the small context, a frame that was closed stays closed when another has taken its place, and
the other one is open. -/
theorem replaced_frames_live :
    let replaced := (replacing.run small).state
    let first : Frame := { index := 0, serial := 0, argc := 1, base := .values, epoch := 1 }
    let second : Frame := { index := 0, serial := 1, argc := 2, base := .stack 0, epoch := 1 }
    (replaced.context.frameState first = .closed ∧ Life replaced first) ∧
      replaced.context.frameState second = .opened ∧ Life replaced second := by
  have hreachable : Reachable Settings.small (replacing.run small).state :=
    ⟨small, small_created, .single (.routine replacing rfl)⟩
  exact ⟨⟨rfl, frames_live hreachable (by decide)⟩, rfl, frames_live hreachable (by decide)⟩

end Tracked

end CallEngine
