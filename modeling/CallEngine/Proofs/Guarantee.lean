import CallEngine.Proofs.Outcome
import CallEngine.Proofs.Routine

/-!
# Guarantees of a context

What an operation does to a context can be said by a relation between the context before and the
context after. If every operation keeps to the relation, and regions without interrupts carry it
over from their bodies, then every routine keeps to it. The induction over a routine is done here
for all relations of this kind.
-/

namespace CallEngine

namespace Context

/-- Every operation of a context keeps to `R`, and so does a region without interrupts if its body
does. -/
structure Guarantee (R : Context → Context → Prop) : Prop where
  refl (c : Context) : R c c
  trans {a b c : Context} (hab : R a b) (hbc : R b c) : R a c
  openFrame (argc : Nat) (c : Context) : (openFrame argc c).Settles (R c)
  openFrameWith (args : List Value) (c : Context) : (openFrameWith args c).Settles (R c)
  activate (f : Frame) (c : Context) : (activate f c).Settles (R c)
  setArg (f : Frame) (index : Nat) (value : Value) (c : Context) :
    (setArg f index value c).Settles (R c)
  closeFrame (f : Frame) (c : Context) : (closeFrame (ε := EngineError) f c).Settles (R c)
  setValues (values : List Value) (c : Context) : (setValues values c).Settles (R c)
  setValue (value : Value) (c : Context) : (setValue (ε := EngineError) value c).Settles (R c)
  clearValues (c : Context) : (clearValues (ε := EngineError) c).Settles (R c)
  safePoint (c : Context) : (safePoint c).Settles (R c)
  raiseInterrupt (kind : InterruptKind) (c : Context) : (raiseInterrupt kind c).Settles (R c)
  signalTrap (trap : Trap) (c : Context) : (signalTrap trap c).Settles (R c)
  post (kind : InterruptKind) (c : Context) : R c (post kind c)
  region {c c' : Context} (hbody : R c.disableInterrupts c') : R c c'.enableInterrupts

end Context

namespace Tracked

variable {α β : Type} {R : Context → Context → Prop}

/-- The context has become one that `R` allows. -/
def Allowed (R : Context → Context → Prop) (s s' : Tracked) : Prop := R s.context s'.context

/-- An operation of the context keeps to what it keeps to on the context alone. -/
theorem within_allowed {op : ContextOp EngineError α} {s : Tracked}
    (h : (op s.context).Settles (R s.context)) : (within.run op s).Settles (Allowed R s) :=
  Outcome.settles_mapState.mpr h

/-- A frame operation keeps to what it keeps to on the context alone. -/
theorem frame_allowed {op : ContextOp FrameError α} {s : Tracked}
    (h : (op s.context).Settles (R s.context)) : (within.frame op s).Settles (Allowed R s) :=
  within_allowed (Op.settles_mapError.mpr h)

/-- An operation that may deliver an interrupt keeps to what it keeps to on the context alone. -/
theorem condition_allowed {op : ContextOp Condition α} {s : Tracked}
    (h : (op s.context).Settles (R s.context)) :
    (within.run (op.mapError EngineError.condition) s).Settles (Allowed R s) :=
  within_allowed (Op.settles_mapError.mpr h)

end Tracked

namespace Context.Guarantee

open Tracked

variable {α β : Type} {R : Context → Context → Prop}

/-- Sequencing keeps to a guarantee if both parts do. -/
theorem bind (h : Guarantee R) {x : Op Tracked EngineError α}
    {f : α → Op Tracked EngineError β} {s : Tracked} (hx : (x s).Settles (Allowed R s))
    (hf : ∀ a s', (f a s').Settles (Allowed R s')) : ((x >>= f) s).Settles (Allowed R s) :=
  Op.settles_bind_of_keeps hx fun a s' hs' => (hf a s').imp fun _ => h.trans hs'

/-- The history is not a part of the context. -/
theorem note (h : Guarantee R) (entry : Entry) (s : Tracked) :
    (Tracked.note entry s).Settles (Allowed R s) :=
  h.refl s.context

/-- An operation on a frame that is named keeps to a guarantee if it does on every frame. -/
theorem onFrame (h : Guarantee R) {serial : Nat} {nothing : α}
    {op : Frame → Op Tracked EngineError α} {s : Tracked}
    (hop : ∀ f, (op f s).Settles (Allowed R s)) :
    (Tracked.onFrame serial nothing op s).Settles (Allowed R s) := by
  unfold Tracked.onFrame
  cases s.history.frame? serial with
  | none => exact h.refl s.context
  | some f => exact hop f

/-- The opening of a frame that is entered into the history keeps to a guarantee if the opening
alone does. -/
theorem opening (h : Guarantee R) {op : ContextOp FrameError Frame} {args : List Value}
    {s : Tracked} (hop : (op s.context).Settles (R s.context)) :
    (Tracked.opening op args s).Settles (Allowed R s) :=
  h.bind (frame_allowed hop) fun _ s' => h.bind (h.note _ s') fun _ s'' => h.refl s''.context

/-- A safe point keeps to a guarantee. -/
theorem within_safePoint (h : Guarantee R) (s : Tracked) :
    (within.safePoint s).Settles (Allowed R s) :=
  condition_allowed (h.safePoint s.context)

/-- Running a callee on a frame keeps to a guarantee if the callee does. -/
theorem apply (h : Guarantee R) {callee : Frame → Op Tracked EngineError Nat} {f : Frame}
    (hcallee : ∀ s, (callee f s).Settles (Allowed R s)) (s : Tracked) :
    (within.apply callee f s).Settles (Allowed R s) := by
  refine h.bind ?_ fun count s' => h.bind (h.within_safePoint s') fun _ s'' => h.refl s''.context
  rw [Op.settles_thenAlways]
  have hbody := h.bind (frame_allowed (h.activate f s.context)) fun _ s' => hcallee s'
  refine hbody.imp fun s' hs' => ?_
  exact (within_allowed (h.closeFrame f s'.context)).imp fun _ => h.trans hs'

/-- A call keeps to a guarantee if its callee does. -/
theorem funcall (h : Guarantee R) {callee : Frame → Op Tracked EngineError Nat} (args : List Value)
    (hcallee : ∀ f s, (callee f s).Settles (Allowed R s)) (s : Tracked) :
    (Tracked.funcall callee args s).Settles (Allowed R s) := by
  refine h.bind (h.within_safePoint s) fun _ s' => ?_
  refine h.bind (frame_allowed (h.openFrameWith args s'.context)) fun f s'' => ?_
  exact h.apply (fun s => h.bind (h.note _ s) fun _ s' => hcallee f s') s''

/-- A region without interrupts keeps to a guarantee if its body does. -/
theorem withoutInterrupts (h : Guarantee R) {body : Op Tracked EngineError α}
    (hbody : ∀ s, (body s).Settles (Allowed R s)) (s : Tracked) :
    (within.withoutInterrupts body s).Settles (Allowed R s) := by
  have hrun : within.withoutInterrupts body s =
      body.thenAlways (within.run (Op.modify Context.enableInterrupts))
        { s with context := s.context.disableInterrupts } := rfl
  rw [hrun, Op.settles_thenAlways]
  exact (hbody _).imp fun _ hallowed => h.region hallowed

/-- Every request keeps to a guarantee. -/
theorem request (h : Guarantee R) (q : Request) (s : Tracked) :
    (q.run s).Settles (Allowed R s) := by
  cases q with
  | openFrame argc =>
    exact h.bind (h.opening (h.openFrame argc s.context)) fun _ s' => h.refl s'.context
  | openFrameWith args =>
    exact h.bind (h.opening (h.openFrameWith args s.context)) fun _ s' => h.refl s'.context
  | activate serial => exact h.onFrame fun f => frame_allowed (h.activate f s.context)
  | setArg serial index value =>
    refine h.onFrame fun f => ?_
    exact h.bind (frame_allowed (h.setArg f index value s.context)) fun _ s' => h.note _ s'
  | closeFrame serial => exact h.onFrame fun f => within_allowed (h.closeFrame f s.context)
  | setValues values =>
    exact h.bind (frame_allowed (h.setValues values s.context)) fun _ s' => h.note _ s'
  | setValue value =>
    exact h.bind (within_allowed (h.setValue value s.context)) fun _ s' => h.note _ s'
  | clearValues =>
    exact h.bind (within_allowed (h.clearValues s.context)) fun _ s' => h.note _ s'
  | safePoint => exact h.within_safePoint s
  | raiseInterrupt kind => exact condition_allowed (h.raiseInterrupt kind s.context)
  | signalTrap trap => exact condition_allowed (h.signalTrap trap s.context)
  | post kind => exact h.post kind s.context

/-- Every routine keeps to a guarantee. The induction is over the routine. -/
theorem run (h : Guarantee R) (r : Routine) (s : Tracked) :
    (r.run s).Settles (Allowed R s) := by
  induction r generalizing s with
  | finish result => cases result <;> exact h.refl s.context
  | request q next ih =>
    exact h.bind (Op.settles_attempt.mpr (h.request q s)) fun answer s' => ih answer s'.context s'
  | funcall callee args next ihcallee ih =>
    have hcall := h.funcall args ihcallee s
    exact h.bind (Op.settles_attempt.mpr hcall) fun answer s' => ih answer s'.context s'
  | apply callee serial next ihcallee ih =>
    have happly : (Tracked.onFrame serial 0 (within.apply fun f => (callee f).run) s).Settles
        (Allowed R s) :=
      h.onFrame fun f => h.apply (ihcallee f) s
    exact h.bind (Op.settles_attempt.mpr happly) fun answer s' => ih answer s'.context s'
  | withoutInterrupts body next ihbody ih =>
    have hregion := h.withoutInterrupts ihbody s
    exact h.bind (Op.settles_attempt.mpr hregion) fun answer s' => ih answer s'.context s'

end Context.Guarantee

/-- What holds of every context when it is created, and is kept by every operation and at both ends
of a region without interrupts, holds of every context that can be reached. -/
theorem Tracked.Reachable.keeps {settings : Settings} {P : Context → Prop} {s : Tracked}
    (hcreated : ∀ first, Created settings first → P first.context)
    (hkeeps : Context.Guarantee fun c c' => P c → P c')
    (hdisable : ∀ c : Context, P c → P c.disableInterrupts)
    (henable : ∀ c : Context, P c → P c.enableInterrupts) (h : Reachable settings s) :
    P s.context := by
  obtain ⟨first, hfirst, hlater⟩ := h
  induction hlater with
  | refl => exact hcreated first hfirst
  | tail _ hstep ih =>
    cases hstep with
    | routine r hreturns => exact (hkeeps.run r _).state hreturns ih
    | disable => exact hdisable _ ih
    | enable => exact henable _ ih

end CallEngine
