import CallEngine.Proofs.Change

/-!
# Routines change a context by single changes only

Every request, every call and every region without interrupts takes a context from one state to
another by changes of the known kinds, and leaves as many regions open as it found. The induction
over a routine is done here, once.
-/

namespace CallEngine

namespace Tracked

variable {α β : Type}

/-! ## Operations of the context -/

/-- A frame operation ends as it ends on the context alone. -/
theorem within_frame_apply (op : ContextOp FrameError α) (s : Tracked) :
    within.frame op s =
      match op s.context with
      | .done a context => .done a { s with context }
      | .failed e context => .failed (.frame e) { s with context }
      | .fatal m context => .fatal m { s with context } := by
  change ((op.mapError EngineError.frame) s.context).mapState _ = _
  unfold Op.mapError
  cases op s.context <;> rfl

/-- An operation of the context that is quiet is a development. -/
theorem within_quiet {op : ContextOp EngineError α} {s : Tracked}
    (h : (op s.context).Settles s.context.Quiet) : (within.run op s).Settles (Evolves s) :=
  Outcome.settles_mapState.mpr (h.imp fun _ hquiet => .quiet hquiet)

/-- A safe point is a development. -/
theorem safePoint_evolves (s : Tracked) : (within.safePoint s).Settles (Evolves s) :=
  within_quiet (Op.settles_mapError.mpr (Context.safePoint_quiet s.context))

/-- Marking a frame as running is a development. -/
theorem activate_evolves (f : Frame) (s : Tracked) :
    (within.frame (Context.activate f) s).Settles (Evolves s) := by
  refine Outcome.settles_mapState.mpr (Op.settles_mapError.mpr ?_)
  refine (Context.activate_settles f s.context).imp fun c h => ?_
  rcases h with rfl | ⟨record, hrecord, rfl⟩
  · exact .refl s
  · exact ⟨.single (.activated hrecord), rfl⟩

/-- Closing a frame that was opened is a development. -/
theorem closeFrame_evolves {f : Frame} {s : Tracked} (hissued : f ∈ s.history.issued) :
    (within.run (Context.closeFrame f) s).Settles (Evolves s) := by
  refine Outcome.settles_mapState.mpr ?_
  refine (Context.closeFrame_settles f s.context).imp fun c h => ?_
  obtain ⟨record, hrecord, hlast, hquiet⟩ := h
  have hclosed : Evolves s { s with context := s.context.withoutFrame f record } :=
    ⟨.single (.closed hissued hrecord hlast), rfl⟩
  exact hclosed.trans (.quiet hquiet)

/-- Storing an argument of a frame that was opened is a development. -/
theorem setArg_evolves {f : Frame} {s : Tracked} (hissued : f ∈ s.history.issued) (index : Nat)
    (value : Value) :
    ((do within.frame (Context.setArg f index value); note (.stored f index value) :
      Op Tracked EngineError Unit) s).Settles (Evolves s) := by
  rw [Op.bind_apply, within_frame_apply, Context.setArg_apply]
  cases haccess : s.context.checkAccess f index with
  | error e => exact .refl s
  | ok _ =>
    refine ⟨.single (.stored f index value hissued haccess), ?_⟩
    obtain ⟨_, _, _, _, hwritten⟩ := Context.writeSlot_slots f index value s.context
    change (s.context.writeSlot f index value).guard.disabled = s.context.guard.disabled
    rw [hwritten]

/-- Reporting values is a development. -/
theorem setValues_evolves (values : List Value) (s : Tracked) :
    ((Request.setValues values).run s).Settles (Evolves s) := by
  rw [Request.run, Op.bind_apply, within_frame_apply, Context.setValues_apply, ValueChannel.set]
  by_cases hroom : values.length ≤ s.context.values.capacity
  · rw [if_pos hroom]
    exact ⟨.single (.reported values (Nat.le_trans hroom (Nat.le_max_left _ _))), rfl⟩
  · rw [if_neg hroom]
    exact .refl s

/-- An operation on a frame that is named is a development if it is one on every frame that was
opened. -/
theorem onFrame_evolves {serial : Nat} {nothing : α} {op : Frame → Op Tracked EngineError α}
    {s : Tracked} (h : ∀ f ∈ s.history.issued, (op f s).Settles (Evolves s)) :
    (onFrame serial nothing op s).Settles (Evolves s) := by
  unfold onFrame
  cases hf : s.history.frame? serial with
  | none => exact .refl s
  | some f => exact h f (History.mem_issued_of_frame? hf)

/-! ## Opening frames -/

/-- The ways in which the opening of a frame can end that is entered into the history. -/
inductive Opening (s : Tracked) (args : List Value) : Outcome Tracked EngineError Frame → Prop
  | done {f : Frame} {s' : Tracked} (hopened : Opened s args f s') : Opening s args (.done f s')
  | refused (error : EngineError) {c : Context} (hquiet : s.context.Quiet c) :
    Opening s args (.failed error { s with context := c })
  | fatal (stop : Stop) (s' : Tracked) : Opening s args (.fatal stop s')

/-- A frame that was opened is entered into the history with its arguments. -/
theorem opening_ends {op : ContextOp FrameError Frame} {s : Tracked} {args : List Value}
    (h : s.context.Opens args (op s.context)) : Opening s args (opening op args s) := by
  rw [opening, Op.bind_apply, within_frame_apply]
  generalize op s.context = opened at h
  cases h with
  | buffer hsmall => exact .done (.buffer hsmall)
  | stack hlarge => exact .done (.stack hlarge)
  | refused error hquiet => exact .refused (.frame error) hquiet
  | fatal stop c => exact .fatal stop _

/-- Opening a frame for nils ends in one of the known ways. -/
theorem openFrame_ends (argc : Nat) (s : Tracked) :
    Opening s (List.replicate argc .nil) (openFrame argc s) :=
  opening_ends (Context.openFrame_opens argc s.context)

/-- Opening a frame with arguments ends in one of the known ways. -/
theorem openFrameWith_ends (args : List Value) (s : Tracked) :
    Opening s args (openFrameWith args s) :=
  opening_ends (Context.openFrameWith_opens args s.context)

/-- If a frame was opened, it is the one that was asked for. -/
theorem Opening.opened {s s' : Tracked} {args : List Value} {f : Frame}
    (h : Opening s args (.done f s')) : Opened s args f s' := by
  cases h with
  | done hopened => exact hopened

/-- Opening a frame is a development. -/
theorem Opening.evolves {s : Tracked} {args : List Value} {o : Outcome Tracked EngineError Frame}
    (h : Opening s args o) : o.Settles (Evolves s) := by
  cases h with
  | done hopened =>
    refine ⟨.single (.opened hopened), ?_⟩
    cases hopened <;> rfl
  | refused error hquiet => exact Evolves.quiet hquiet
  | fatal message s' => trivial

/-! ## Calls and regions -/

/-- Running a callee on a frame that was opened is a development if the callee is one. -/
theorem apply_evolves {callee : Frame → Op Tracked EngineError Nat} {f : Frame} {s : Tracked}
    (hissued : f ∈ s.history.issued) (hcallee : ∀ s, (callee f s).Settles (Evolves s)) :
    (within.apply callee f s).Settles (Evolves s) := by
  refine Evolves.bind ?_ fun count s' _ => Evolves.bind (safePoint_evolves s') fun _ s'' _ => .refl s''
  rw [Op.settles_thenAlways]
  have hbody := Evolves.bind (activate_evolves f s) fun _ s' _ => hcallee s'
  refine hbody.imp fun s' hevolves => ?_
  exact (closeFrame_evolves (hevolves.issued hissued)).imp fun _ h => hevolves.trans h

/-- A frame that is open is running by the time its callee starts, so it makes no difference whether
an entry is added to the history before the call or at the start of the callee. -/
theorem apply_note {callee : Frame → Op Tracked EngineError Nat} {f : Frame} {s : Tracked}
    {record : FrameRecord} (entry : Entry) (hrecord : s.context.record? f = some record) :
    within.apply (fun f => do note entry; callee f) f s =
      within.apply callee f { s with history := entry :: s.history } := by
  have hactivate (h : History) : within.frame (Context.activate f) { s with history := h } =
      .done () { s with
        context := { s.context with
          frames := s.context.frames.setIfInBounds f.index { record with state := .active } }
        history := h } := by
    rw [within_frame_apply, Context.activate_done hrecord]
  have hbody : (do within.frame (Context.activate f); note entry; callee f :
        Op Tracked EngineError Nat) s =
      (do within.frame (Context.activate f); callee f : Op Tracked EngineError Nat)
        { s with history := entry :: s.history } := by
    rw [Op.bind_apply, Op.bind_apply, hactivate, hactivate]
    rfl
  exact Op.bind_apply_congr (Op.thenAlways_congr hbody _) _

/-- A call is a safe point, the opening of a frame, and the callee run on that frame. -/
theorem funcall_eq (callee : Frame → Op Tracked EngineError Nat) (args : List Value) :
    funcall callee args =
      (do within.safePoint; let f ← openFrameWith args; within.apply callee f) := by
  funext s
  refine congrArg (fun next => (within.safePoint >>= next) s) (funext fun _ => funext fun s => ?_)
  have hends := openFrameWith_ends args s
  simp only [openFrameWith, opening, Op.bind_apply] at hends ⊢
  rw [within_frame_apply] at hends ⊢
  generalize Context.openFrameWith args s.context = opened at hends
  cases opened with
  | done f context =>
    cases hends with
    | done hopened => exact apply_note _ hopened.record
  | failed error context => rfl
  | fatal message context => rfl

/-- A call is a development if its callee is one. -/
theorem funcall_evolves {callee : Frame → Op Tracked EngineError Nat} (args : List Value)
    (hcallee : ∀ f s, (callee f s).Settles (Evolves s)) (s : Tracked) :
    (funcall callee args s).Settles (Evolves s) := by
  rw [funcall_eq]
  refine Evolves.bind (safePoint_evolves s) fun _ s' _ => ?_
  have hends := openFrameWith_ends args s'
  refine Evolves.bind hends.evolves fun f s'' hdone => ?_
  rw [hdone] at hends
  cases hends with
  | done hopened =>
    have hissued : f ∈ s''.history.issued := hopened.issued ▸ List.mem_cons_self
    exact apply_evolves hissued (hcallee f)

/-- A region without interrupts is a development if its body is one. -/
theorem withoutInterrupts_evolves {body : Op Tracked EngineError α}
    (hbody : ∀ s, (body s).Settles (Evolves s)) (s : Tracked) :
    (within.withoutInterrupts body s).Settles (Evolves s) := by
  have hrun : within.withoutInterrupts body s =
      body.thenAlways (within.run (Op.modify Context.enableInterrupts))
        { s with context := s.context.disableInterrupts } := rfl
  rw [hrun, Op.settles_thenAlways]
  refine (hbody _).imp fun s' hevolves => ?_
  have hdisable : Change s { s with context := s.context.disableInterrupts } := .quiet _ _ _
  have henable : Change s' { s' with context := s'.context.enableInterrupts } := .quiet _ _ _
  refine ⟨(Relation.ReflTransGen.head hdisable hevolves.changes).tail henable, ?_⟩
  have hdisabled := hevolves.disabled
  change s'.context.guard.disabled - 1 = s.context.guard.disabled
  rw [hdisabled]
  rfl

end Tracked

open Tracked

/-- Every request is a development. -/
theorem Request.run_evolves (q : Request) (s : Tracked) : (q.run s).Settles (Evolves s) := by
  cases q with
  | openFrame argc =>
    exact Evolves.bind (openFrame_ends argc s).evolves fun _ s' _ => .refl s'
  | openFrameWith args =>
    exact Evolves.bind (openFrameWith_ends args s).evolves fun _ s' _ => .refl s'
  | activate serial => exact onFrame_evolves fun f _ => activate_evolves f s
  | setArg serial index value =>
    exact onFrame_evolves fun f hissued => setArg_evolves hissued index value
  | closeFrame serial => exact onFrame_evolves fun f hissued => closeFrame_evolves hissued
  | setValues values => exact setValues_evolves values s
  | setValue value => exact ⟨.single (.reported [value] (Nat.le_max_right _ _)), rfl⟩
  | clearValues => exact ⟨.single (.reported [] (Nat.zero_le _)), rfl⟩
  | safePoint => exact safePoint_evolves s
  | raiseInterrupt kind =>
    exact within_quiet (Op.settles_mapError.mpr (Context.raiseInterrupt_quiet kind s.context))
  | signalTrap trap =>
    exact within_quiet (Op.settles_mapError.mpr (Context.signalTrap_quiet trap s.context))
  | post kind => exact within_quiet (Context.Quiet.ofGuard rfl)

/-- Every routine is a development. The induction is over the routine. -/
theorem Routine.run_evolves (r : Routine) (s : Tracked) : (r.run s).Settles (Evolves s) := by
  induction r generalizing s with
  | finish result => cases result <;> exact .refl s
  | request q next ih =>
    exact Evolves.bind (Op.settles_attempt.mpr (q.run_evolves s)) fun answer s' _ =>
      ih answer s'.context s'
  | funcall callee args next ihcallee ih =>
    have hcall := funcall_evolves args ihcallee s
    exact Evolves.bind (Op.settles_attempt.mpr hcall) fun answer s' _ => ih answer s'.context s'
  | apply callee serial next ihcallee ih =>
    have happly : (onFrame serial 0 (within.apply fun f => (callee f).run) s).Settles (Evolves s) :=
      onFrame_evolves fun f hissued => apply_evolves hissued (ihcallee f)
    exact Evolves.bind (Op.settles_attempt.mpr happly) fun answer s' _ => ih answer s'.context s'
  | withoutInterrupts body next ihbody ih =>
    have hregion := withoutInterrupts_evolves ihbody s
    exact Evolves.bind (Op.settles_attempt.mpr hregion) fun answer s' _ => ih answer s'.context s'

namespace Tracked

/-- Whatever happens to a context between two moments, it happens by single changes. -/
theorem Later.changes {s s' : Tracked} (h : Later s s') : Relation.ReflTransGen Change s s' := by
  induction h with
  | refl => exact .refl
  | tail _ hstep ih =>
    cases hstep with
    | routine r hreturns => exact ih.trans ((r.run_evolves _).state hreturns).changes
    | disable => exact ih.tail (.quiet _ _ _)
    | enable => exact ih.tail (.quiet _ _ _)

/-- What every single change preserves holds later if it holds now. -/
theorem preserved_of_changes {P : Tracked → Prop} (hpreserves : ∀ s s', Change s s' → P s → P s')
    {s s' : Tracked} (h : Relation.ReflTransGen Change s s') (hs : P s) : P s' := by
  induction h with
  | refl => exact hs
  | tail _ hchange ih => exact hpreserves _ _ hchange ih

/-- What holds of every context when it is created, and is preserved by every single change, holds
of every context that can be reached. -/
theorem Reachable.holds {settings : Settings} {P : Tracked → Prop} {s : Tracked}
    (hcreated : ∀ first, Created settings first → P first)
    (hpreserves : ∀ s s', Change s s' → P s → P s') (h : Reachable settings s) : P s := by
  obtain ⟨first, hfirst, hlater⟩ := h
  exact preserved_of_changes hpreserves hlater.changes (hcreated first hfirst)

end Tracked

end CallEngine
