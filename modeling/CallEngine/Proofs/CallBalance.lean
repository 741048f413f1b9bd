import CallEngine.Proofs.FrameChain

/-!
# Calls are balanced

A callee may do anything with the context it runs on: leave frames open, close its own frame and
open another in the same place, fail at any depth. A call that returns all the same, with a result
or with an error, has restored the chain of frames and the operand stack to what they were before
its frame was opened. The reason is that the frame of the call has to be the innermost one for it
to be closed, and as long as a frame is open it rests on the same frames.
-/

namespace CallEngine

namespace Tracked

variable {s s' : Tracked} {f : Frame} {outer : List Frame}

/-- The frame `f` was opened upon the frames `outer`, and rests on them as long as it is open. -/
structure RestsOn (f : Frame) (outer : List Frame) (s : Tracked) : Prop where
  coherent : Coherent s
  issued : f ∈ s.history.issued
  rests : f ∈ s.openFrames → ∃ inner, s.openFrames = inner ++ f :: outer

namespace RestsOn

/-- A frame that is opened rests on those that were open before. -/
theorem ofOpened (h : Coherent s) {args : List Value} (hopened : Opened s args f s') :
    RestsOn f s.openFrames s' where
  coherent := h.opened hopened
  issued := hopened.issued ▸ List.mem_cons_self
  rests _ := ⟨[], h.openFrames_opened hopened⟩

/-- Opening and closing other frames does not move a frame. -/
theorem change (h : RestsOn f outer s) (hchange : Change s s') : RestsOn f outer s' := by
  refine ⟨h.coherent.change hchange, hchange.issued h.issued, fun hf => ?_⟩
  rcases h.coherent.openFrames_change hchange with hsame | ⟨args, g, hopened, hpushed⟩ | ⟨g, hpopped⟩
  · rw [hsame] at hf ⊢
    exact h.rests hf
  · have hne : f ≠ g := fun heq => h.coherent.not_issued hopened (heq ▸ h.issued)
    rw [hpushed] at hf ⊢
    obtain ⟨inner, hinner⟩ := h.rests (List.mem_of_ne_of_mem hne hf)
    exact ⟨g :: inner, by rw [hinner, List.cons_append]⟩
  · have hnodup := h.coherent.openFrames_nodup
    obtain ⟨inner, hinner⟩ := h.rests (hpopped ▸ List.mem_cons_of_mem g hf)
    rw [hpopped] at hinner hnodup
    cases inner with
    | nil =>
      rw [List.nil_append, List.cons.injEq] at hinner
      exact absurd hf (hinner.1 ▸ (List.nodup_cons.mp hnodup).1)
    | cons g' inner =>
      rw [List.cons_append, List.cons.injEq] at hinner
      exact ⟨inner, hinner.2⟩

/-- When a frame is closed, the frames it rests on are left. -/
theorem closed (h : RestsOn f outer s) {record : FrameRecord}
    (hrecord : s.context.record? f = some record) (hlast : f.index + 1 = s.context.depth) :
    openFrames { s with context := s.context.withoutFrame f record } = outer := by
  have hclosed : s.openFrames =
      f :: openFrames { s with context := s.context.withoutFrame f record } :=
    h.coherent.openFrames_closed h.issued hrecord hlast rfl rfl
  have hnodup := h.coherent.openFrames_nodup
  obtain ⟨inner, hinner⟩ := h.rests (hclosed ▸ List.mem_cons_self)
  cases inner with
  | nil =>
    rw [hclosed, List.nil_append, List.cons.injEq] at hinner
    exact hinner.2
  | cons g inner =>
    have hsplit := hinner
    rw [hclosed, List.cons_append, List.cons.injEq] at hsplit
    rw [hinner, ← hsplit.1, List.cons_append, List.nodup_cons] at hnodup
    exact absurd (by simp) hnodup.1

end RestsOn

/-- These frames are open, and the records agree with them. -/
structure Holds (frames : List Frame) (s : Tracked) : Prop where
  coherent : Coherent s
  openFrames : s.openFrames = frames

/-- A quiet change leaves the open frames alone. -/
theorem Holds.quiet {frames : List Frame} {c : Context} (h : Holds frames s)
    (hquiet : s.context.Quiet c) : Holds frames { s with context := c } := by
  obtain ⟨_, _, _, _, rfl⟩ := hquiet
  exact ⟨h.coherent.congr rfl rfl rfl rfl, (openFrames_congr rfl rfl).trans h.openFrames⟩

/-- A safe point leaves the open frames alone. -/
theorem Holds.safePoint {frames : List Frame} (h : Holds frames s) :
    (within.safePoint s).Settles (Holds frames) :=
  Outcome.settles_mapState.mpr
    ((Op.settles_mapError.mpr (Context.safePoint_quiet s.context)).imp fun _ => h.quiet)

/-- Closing a frame leaves the frames it rests on. -/
theorem RestsOn.closeFrame (h : RestsOn f outer s) :
    (within.run (Context.closeFrame f) s).Settles (Holds outer) := by
  refine Outcome.settles_mapState.mpr ?_
  refine (Context.closeFrame_settles f s.context).imp fun c hclose => ?_
  obtain ⟨record, hrecord, hlast, hquiet⟩ := hclose
  have hholds : Holds outer { s with context := s.context.withoutFrame f record } :=
    ⟨h.coherent.closed h.issued hrecord hlast, h.closed hrecord hlast⟩
  exact hholds.quiet hquiet

/-- Whatever a callee does on a frame, the frames that are left are those the frame rests on. -/
theorem RestsOn.apply {callee : Frame → Op Tracked EngineError Nat} (h : RestsOn f outer s)
    (hcallee : ∀ s, (callee f s).Settles (Evolves s)) :
    (within.apply callee f s).Settles (Holds outer) := by
  have hbody := Evolves.bind (activate_evolves f s) fun _ s' _ => hcallee s'
  have hclosed : (((do within.frame (Context.activate f); callee f :
      Op Tracked EngineError Nat).thenAlways (within.run (Context.closeFrame f))) s).Settles
        (Holds outer) := by
    rw [Op.settles_thenAlways]
    refine hbody.imp fun s' hevolves => RestsOn.closeFrame ?_
    exact preserved_of_changes (fun _ _ hchange hs => hs.change hchange) hevolves.changes h
  refine Op.settles_bind_of_keeps hclosed fun count s' hs => ?_
  exact Op.settles_bind_of_keeps hs.safePoint fun _ _ hs' => hs'

/-- Whatever is called, the frames that are left are those that were open before. -/
theorem Holds.funcall {frames : List Frame} {callee : Frame → Op Tracked EngineError Nat}
    (h : Holds frames s) (hcallee : ∀ f s, (callee f s).Settles (Evolves s)) (args : List Value) :
    (funcall callee args s).Settles (Holds frames) := by
  rw [funcall_eq]
  refine Op.settles_bind_of_keeps h.safePoint fun _ s' hs => ?_
  have hends := openFrameWith_ends args s'
  refine Op.settles_bind (fun f s'' hdone => ?_) fun e s'' hfailed => ?_
  · rw [hdone] at hends
    cases hends with
    | done hopened =>
      have hrests := RestsOn.ofOpened hs.coherent hopened
      rw [hs.openFrames] at hrests
      exact hrests.apply (hcallee f)
  · rw [hfailed] at hends
    cases hends with
    | refused error hquiet => exact hs.quiet hquiet

/-- A call that started in `start`, on a frame that was opened in `before`, has left everything in
`after` as it was: the serial numbers and marks of all open frames, the top of the operand stack and
the number of open regions without interrupts. -/
structure Balanced (before start after : Tracked) : Prop where
  chain : after.context.chain = before.context.chain
  top : after.context.stack.top = before.context.stack.top
  disabled : after.context.guard.disabled = start.context.guard.disabled

/-- A call is balanced if it has left the frames that were open before. -/
theorem Balanced.ofHolds {before start : Tracked} {α : Type} {o : Outcome Tracked EngineError α}
    (hbefore : Coherent before) (hholds : o.Settles (Holds before.openFrames))
    (hevolves : o.Settles (Evolves start)) : o.Settles (Balanced before start) := by
  refine (hholds.and hevolves).imp fun after hafter => ?_
  obtain ⟨hleft, hevolved⟩ := hafter
  obtain ⟨hchain, htop⟩ := hbefore.eq_of_openFrames hleft.coherent hleft.openFrames
  exact ⟨hchain, htop, hevolved.disabled⟩

/-- Calls are balanced, whatever the callee does and however it ends: with arguments, and on a frame
that the caller has opened at any time before. -/
theorem calls_balanced {settings : Settings} (callee : Frame → Routine) :
    (∀ s args, Reachable settings s →
      (funcall (fun f => (callee f).run) args s).Settles (Balanced s s)) ∧
    ∀ before opened s f, Reachable settings before →
      ((∃ argc, openFrame argc before = .done f opened) ∨
        ∃ args, openFrameWith args before = .done f opened) →
      Later opened s →
      (within.apply (fun f => (callee f).run) f s).Settles (Balanced before s) := by
  have hcallee (f : Frame) (s : Tracked) : ((callee f).run s).Settles (Evolves s) :=
    (callee f).run_evolves s
  refine ⟨fun s args hs => ?_, fun before opened s f hbefore hopen hlater => ?_⟩
  · have hholds : Holds s.openFrames s := ⟨hs.coherent, rfl⟩
    exact Balanced.ofHolds hs.coherent (hholds.funcall hcallee args) (funcall_evolves args hcallee s)
  · have hopened : ∃ args, Opened before args f opened := by
      rcases hopen with ⟨argc, hdone⟩ | ⟨args, hdone⟩
      · exact ⟨_, (hdone ▸ openFrame_ends argc before).opened⟩
      · exact ⟨_, (hdone ▸ openFrameWith_ends args before).opened⟩
    obtain ⟨args, hopened⟩ := hopened
    have hrests : RestsOn f before.openFrames s :=
      preserved_of_changes (fun _ _ hchange hs => hs.change hchange) hlater.changes
        (.ofOpened hbefore.coherent hopened)
    exact Balanced.ofHolds hbefore.coherent (hrests.apply (hcallee f))
      (apply_evolves hrests.issued (hcallee f))

/-- A routine that opens a large frame, stores an argument, closes the frame and fails. -/
def failing : Routine :=
  .request (.openFrame 3) fun _ _ =>
  .request (.setArg 1 2 (.fixnum 7)) fun _ _ =>
  .request (.closeFrame 1) fun _ _ => .finish (.error .shutDown)

/-- On the small context, calls of a routine that fails return, and are balanced. -/
theorem small_calls_balanced :
    Balanced small small (funcall (fun _ => failing.run) [.nil, .nil, .nil] small).state ∧
    Balanced small (openFrame 3 small).state
      (within.apply (fun _ => failing.run) (small.context.stackFrame 3)
        (openFrame 3 small).state).state := by
  have hreachable : Reachable Settings.small small := ⟨small, small_created, .refl⟩
  obtain ⟨hfuncall, happly⟩ := @calls_balanced Settings.small fun _ => failing
  exact ⟨(hfuncall small _ hreachable).state rfl,
    (happly small _ _ _ hreachable (.inl ⟨3, rfl⟩) .refl).state rfl⟩

end Tracked

end CallEngine
