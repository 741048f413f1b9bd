import CallEngine.Engine.ForeignCall
import CallEngine.Proofs.BuilderUses

/-!
# Activities of an engine

An activity is any finite program over an engine. It uses contexts and the engine itself, calls
hosted code, runs regions without interrupts, and calls native code, which in turn may call back.
What it does next may depend on every answer so far and on everything it can read off the engine.

What activities do can be said by a relation between the state before and the state after. If every
single use keeps to the relation, and regions and foreign calls carry it over from their bodies,
then every activity keeps to it. The induction over an activity is done here for all such relations,
and for every state that an engine can be a part of.
-/

namespace CallEngine

/-! ## Uses of a context -/

/-- One use of a context that runs nothing else, by what it is answered with. -/
inductive ContextUse : Type → Type where
  | openFrame (argc : Nat) : ContextUse Frame
  | openFrameWith (args : List Value) : ContextUse Frame
  | activate (f : Frame) : ContextUse Unit
  | args (f : Frame) : ContextUse (List Value)
  | setArg (f : Frame) (index : Nat) (value : Value) : ContextUse Unit
  | closeFrame (f : Frame) : ContextUse Unit
  | setValues (values : List Value) : ContextUse Nat
  | setValue (value : Value) : ContextUse Nat
  | clearValues : ContextUse Nat
  | primary : ContextUse Value
  | safePoint : ContextUse Unit
  | raiseInterrupt (kind : InterruptKind) : ContextUse Unit
  | signalTrap (trap : Trap) : ContextUse Unit
  /-- Make an interrupt pending from outside the context's thread. -/
  | post (kind : InterruptKind) : ContextUse Unit

/-- The operation of a use. -/
def ContextUse.op {α : Type} : ContextUse α → ContextOp EngineError α
  | openFrame argc => (Context.openFrame argc).mapError .frame
  | openFrameWith values => (Context.openFrameWith values).mapError .frame
  | activate f => (Context.activate f).mapError .frame
  | args f => (Op.read (·.args f)).mapError .frame
  | setArg f index value => (Context.setArg f index value).mapError .frame
  | closeFrame f => Context.closeFrame f
  | setValues values => (Context.setValues values).mapError .frame
  | setValue value => Context.setValue value
  | clearValues => Context.clearValues
  | primary => Op.gets (·.values.primary)
  | safePoint => Context.safePoint.mapError .condition
  | raiseInterrupt kind => (Context.raiseInterrupt kind).mapError .condition
  | signalTrap trap => (Context.signalTrap trap).mapError .condition
  | post kind => Op.modify (Context.post kind)

/-- Whether foreign functions or callbacks make this use of a context. -/
def ContextUse.isForeign {α : Type} : ContextUse α → Bool
  | args _ | setValue _ | clearValues | primary => true
  | _ => false

/-! ## Uses of an engine -/

/-- The id of the context on which an interrupt was delivered. -/
def Event.deliveredOn : Event → Option Nat
  | interruptDelivered context _ => some context
  | _ => none

/-- Whether foreign functions or callbacks record this event when they start. -/
def Event.isForeign : Event → Bool
  | foreignCall _ _ | callbackInvoked _ => true
  | _ => false

namespace Engine

/-- How many regions without interrupts are open on a context; none on one that is gone. -/
def regions (e : Engine) (number : Nat) : Nat := (e.context? number).elim 0 (·.guard.disabled)

/-- The contexts, the id of the next one, the foreign calls in progress and the limit of the heap are
left as they are, and no delivery is recorded. -/
structure Aside (e e' : Engine) : Prop where
  contexts : e'.contexts = e.contexts
  next : e'.nextContext = e.nextContext
  entered : e'.entered = e.entered
  limit : e'.heap.limit = e.heap.limit
  log : ∃ added, e'.log = added ++ e.log ∧ ∀ event ∈ added, event.deliveredOn = none

/-- A context is dropped only by whoever owns it, which is not in the middle of a region then. -/
def dropIdle (number : Nat) : EngineOp Unit := fun e =>
  if e.regions number = 0 then dropContext number e else .done () e

end Engine

/-- One use of an engine that runs nothing else, by what it is answered with. -/
inductive EngineUse : Type → Type 1 where
  | onContext {α : Type} (number : Nat) (use : ContextUse α) : EngineUse α
  | createContext : EngineUse Nat
  | dropContext (number : Nat) : EngineUse Unit
  | interruptContext (id : Nat) : EngineUse Bool
  | consoleInterrupt : EngineUse Bool
  /-- Anything that has nothing to do with contexts. -/
  | aside {α : Type} (op : EngineOp α) (haside : ∀ e, (op e).Settles e.Aside) : EngineUse α

/-- The operation of a use. -/
def EngineUse.op {α : Type} : EngineUse α → EngineOp α
  | onContext number use => Engine.onContext number use.op
  | createContext => Engine.createContext
  | dropContext number => Engine.dropIdle number
  | interruptContext id => Engine.interruptContext id
  | consoleInterrupt => Engine.consoleInterrupt
  | aside op _ => op

/-- A finite program over an engine. Every way to go on is given the answer to what was done last
and the engine as it is then. -/
inductive Activity : Type → Type 1 where
  /-- Return a result, or fail. -/
  | finish {α : Type} (result : Except EngineError α) : Activity α
  | use {α β : Type} (use : EngineUse β) (next : Except EngineError β → Engine → Activity α) :
    Activity α
  | withoutInterrupts {α β : Type} (number : Nat) (body : Activity β)
    (next : Except EngineError β → Engine → Activity α) : Activity α
  /-- Call hosted code with arguments. -/
  | funcall {α : Type} (number : Nat) (callee : Frame → Activity Nat) (args : List Value)
    (next : Except EngineError Nat → Engine → Activity α) : Activity α
  /-- Run hosted code on a frame. -/
  | apply {α : Type} (number : Nat) (callee : Frame → Activity Nat) (frame : Frame)
    (next : Except EngineError Nat → Engine → Activity α) : Activity α
  /-- Run a foreign function on a frame. The code at every address is an activity as well. -/
  | invoke {α : Type} (number : Nat) (function : ForeignFunction)
    (code : EntryPoint → List Scalar → Activity Scalar) (frame : Frame)
    (next : Except EngineError Nat → Engine → Activity α) : Activity α
  /-- Call back to hosted code. -/
  | callback {α : Type} (callback : Callback) (callee : Nat → Frame → Activity Nat)
    (args : List Scalar)
    (next : Except EngineError (Scalar × Option EngineError) → Engine → Activity α) : Activity α

/-- Run an activity inside any state that an engine is a part of. -/
def Activity.run {σ α : Type} (w : Inside σ) : Activity α → Op σ EngineError α
  | finish result => Op.ofExcept result
  | use u next => do
    let answer ← (w.run u.op).attempt
    (next answer (← w.run Op.get)).run w
  | withoutInterrupts number body next => do
    let answer ← ((w.context number).withoutInterrupts (body.run w)).attempt
    (next answer (← w.run Op.get)).run w
  | funcall number callee args next => do
    let answer ← ((w.context number).funcall (fun f => (callee f).run w) args).attempt
    (next answer (← w.run Op.get)).run w
  | apply number callee frame next => do
    let answer ← ((w.context number).apply (fun f => (callee f).run w) frame).attempt
    (next answer (← w.run Op.get)).run w
  | invoke number function code frame next => do
    let native := fun entry args => (code entry args).run w
    let answer ← (function.invoke w native number frame).attempt
    (next answer (← w.run Op.get)).run w
  | callback back callee args next => do
    let answer ← (back.run w (fun number f => (callee number f).run w) args).attempt
    (next answer (← w.run Op.get)).run w

/-! ## Operations that have nothing to do with contexts -/

/-- Looking something up does not change the state. -/
theorem Op.settles_read {σ ε α : Type} {P : σ → Prop} {f : σ → Except ε α} {s : σ} (h : P s) :
    (Op.read f s).Settles P := by
  unfold Op.read
  split
  · exact h
  · exact h

/-- A transition settles what its next states satisfy, and this one if it is refused. -/
theorem Op.settles_transition {σ ε α : Type} {P : σ → Prop} {f : σ → Except ε (α × σ)} {s : σ}
    (hrefused : P s) (hnext : ∀ a s', f s = .ok (a, s') → P s') :
    (Op.transition f s).Settles P := by
  unfold Op.transition
  split
  · rename_i a s' h
    exact hnext a s' h
  · exact hrefused

namespace Engine

/-- Nothing has changed. -/
theorem Aside.refl (e : Engine) : e.Aside e := ⟨rfl, rfl, rfl, rfl, [], rfl, by simp⟩

/-- One after the other. -/
theorem Aside.trans {a b c : Engine} (hab : a.Aside b) (hbc : b.Aside c) : a.Aside c := by
  obtain ⟨first, hfirst, hnone⟩ := hab.log
  obtain ⟨second, hsecond, hnone'⟩ := hbc.log
  refine ⟨hbc.contexts.trans hab.contexts, hbc.next.trans hab.next, hbc.entered.trans hab.entered,
    hbc.limit.trans hab.limit, second ++ first, ?_, fun event hevent => ?_⟩
  · rw [hsecond, hfirst, List.append_assoc]
  · rcases List.mem_append.mp hevent with hmem | hmem
    · exact hnone' event hmem
    · exact hnone event hmem

/-- An event that is not a delivery has nothing to do with contexts. -/
theorem note_aside {event : Event} (h : event.deliveredOn = none) (e : Engine) :
    e.Aside (e.note event) := by
  unfold note
  split
  · exact ⟨rfl, rfl, rfl, rfl, [event], rfl, by simpa⟩
  · exact .refl e

/-- Recording an event that is not a delivery has nothing to do with contexts. -/
theorem record_aside {event : Event} (h : event.deliveredOn = none) (e : Engine) :
    (record event e).Settles e.Aside :=
  note_aside h e

/-- Reading changes nothing. -/
theorem gets_aside {α : Type} (f : Engine → α) (e : Engine) :
    (Op.gets (ε := EngineError) f e).Settles e.Aside :=
  .refl e

/-- What foreign functions and callbacks do to the engine apart from contexts: they allocate
objects, copy strings to native memory and record that they start. -/
def Marshals (e e' : Engine) : Prop :=
  ∃ heap memory added, heap.limit = e.heap.limit ∧ (∀ event ∈ added, event.isForeign = true) ∧
    e' = { e with heap, memory, log := added ++ e.log }

/-- Marshaling has nothing to do with contexts. -/
theorem Marshals.aside {e e' : Engine} (h : e.Marshals e') : e.Aside e' := by
  obtain ⟨heap, memory, added, hlimit, hadded, rfl⟩ := h
  refine ⟨rfl, rfl, rfl, hlimit, added, rfl, fun event hevent => ?_⟩
  have hforeign := hadded event hevent
  cases event <;> simp_all [Event.isForeign, Event.deliveredOn]

/-- Marshaling may change nothing. -/
theorem Marshals.refl (e : Engine) : e.Marshals e := ⟨_, _, [], rfl, by simp, rfl⟩

/-- That a foreign function or a callback starts is recorded. -/
theorem record_marshals {event : Event} (h : event.isForeign = true) (e : Engine) :
    (record event e).Settles e.Marshals := by
  change e.Marshals (e.note event)
  unfold note
  split
  · exact ⟨_, _, [event], rfl, by simpa using h, rfl⟩
  · exact .refl e

/-- Marshaling a native scalar may only allocate. -/
theorem toHosted_marshals (ty : ForeignType) (raw : Scalar) (e : Engine) :
    (toHosted ty raw e).Settles e.Marshals := by
  refine Op.settles_transition (.refl e) fun value e' h => ?_
  cases hmarshal : Marshal.toHosted e.heap e.memory ty raw with
  | error error => simp [hmarshal] at h
  | ok marshaled =>
    simp only [hmarshal, Except.ok.injEq, Prod.mk.injEq] at h
    obtain ⟨_, rfl⟩ := h
    exact ⟨_, _, [], Marshal.limit_toHosted hmarshal, by simp, rfl⟩

/-- Marshaling a hosted value may only copy a string. -/
theorem toForeign_marshals (ty : ForeignType) (value : Value) (e : Engine) :
    (toForeign ty value e).Settles e.Marshals := by
  refine Op.settles_transition (.refl e) fun scalar e' h => ?_
  split at h
  · cases h
    exact ⟨_, _, [], rfl, by simp, rfl⟩
  · cases h

/-- Building a call may only copy strings. -/
theorem buildCall_marshals (signature : Signature) (args : List Value) (e : Engine) :
    (buildCall signature args e).Settles e.Marshals := by
  unfold buildCall
  dsimp only
  split
  · exact ⟨_, _, [], rfl, by simp, rfl⟩
  · exact .refl e
  · trivial

end Engine

/-! ## Foreign functions and callbacks -/

/-- Everything that foreign functions and callbacks are made of keeps to `D`: marshaling and their
uses of contexts do, and regions, foreign calls and calls of hosted code do if their bodies do. -/
structure Habit {σ : Type} (w : Inside σ) (D : σ → σ → Prop) : Prop where
  refl (s : σ) : D s s
  trans {a b c : σ} (hab : D a b) (hbc : D b c) : D a c
  marshal {α : Type} {op : EngineOp α} (hop : ∀ e, (op e).Settles e.Marshals) (s : σ) :
    (w.run op s).Settles (D s)
  use {α : Type} (number : Nat) (u : ContextUse α) (hu : u.isForeign = true) (s : σ) :
    ((w.context number).run u.op s).Settles (D s)
  region {α : Type} (number : Nat) {body : Op σ EngineError α}
    (hbody : ∀ s, (body s).Settles (D s)) (s : σ) :
    ((w.context number).withoutInterrupts body s).Settles (D s)
  entering {α : Type} (number : Nat) {body : Op σ EngineError α}
    (hbody : ∀ s, (body s).Settles (D s)) (s : σ) : (w.entering number body s).Settles (D s)
  funcall (number : Nat) {callee : Frame → Op σ EngineError Nat}
    (hcallee : ∀ f s, (callee f s).Settles (D s)) (args : List Value) (s : σ) :
    ((w.context number).funcall callee args s).Settles (D s)

namespace Habit

variable {σ α β : Type} {w : Inside σ} {D : σ → σ → Prop}

/-- Sequencing keeps to a habit if both parts do. -/
theorem bind (h : Habit w D) {x : Op σ EngineError α} {f : α → Op σ EngineError β} {s : σ}
    (hx : (x s).Settles (D s)) (hf : ∀ a s', (f a s').Settles (D s')) :
    ((x >>= f) s).Settles (D s) :=
  Op.settles_bind_of_keeps hx fun a s' hs' => (hf a s').imp fun _ => h.trans hs'

/-- A step that changes nothing keeps to a habit. -/
theorem ofExcept (h : Habit w D) (x : Except EngineError α) (s : σ) :
    (Op.ofExcept x s).Settles (D s) := by
  cases x with
  | error e => exact h.refl s
  | ok a => exact h.refl s

/-- A native call that is built keeps to a habit if the native code does. -/
theorem execute (h : Habit w D) (b : CallBuilder) (returnType : ForeignType)
    {code : List Scalar → Op σ EngineError Scalar}
    (hcode : ∀ args s, (code args s).Settles (D s)) (s : σ) :
    ((CallBuilder.execute .foreign returnType code).beside b s).Settles (D s) := by
  rcases b.execute_beside_cases returnType with ⟨_, hfailed⟩ | ⟨_, hfatal⟩ | ⟨args, hdone⟩
  · rw [hfailed]
    exact h.refl s
  · rw [hfatal]
    trivial
  · rw [hdone]
    exact h.bind (hcode args s) fun _ s' => h.refl s'

/-- Reporting the result of a native call keeps to a habit. -/
theorem report (h : Habit w D) (number : Nat) (result : Option Value) (s : σ) :
    (ForeignFunction.report w number result s).Settles (D s) := by
  cases result with
  | none => exact h.use number .clearValues rfl s
  | some value => exact h.use number (.setValue value) rfl s

/-- A foreign function keeps to a habit if native code does. -/
theorem invoke (h : Habit w D) {code : EntryPoint → List Scalar → Op σ EngineError Scalar}
    (hcode : ∀ entry args s, (code entry args s).Settles (D s)) (number : Nat)
    (function : ForeignFunction) (frame : Frame) (s : σ) :
    (function.invoke w code number frame s).Settles (D s) := by
  unfold ForeignFunction.invoke
  dsimp only
  split
  · exact h.refl s
  · refine h.bind (h.use number (.args frame) rfl s) fun args s => ?_
    refine h.bind (h.marshal (Engine.buildCall_marshals _ args) s) fun b s => ?_
    refine h.bind (h.marshal (Engine.record_marshals rfl) s) fun _ s => ?_
    have hnative := h.region number
      (h.entering number (h.execute b function.signature.ret (hcode function.entry))) s
    refine h.bind hnative fun executed s => ?_
    refine h.bind (h.marshal (Engine.toHosted_marshals _ _) s) fun result s => ?_
    exact h.report number result s

/-- Marshaling the arguments of a callback keeps to a habit. -/
theorem decode (h : Habit w D) (types : List ForeignType) (args : List Scalar) (s : σ) :
    (Callback.decode w types args s).Settles (D s) := by
  induction types generalizing args s with
  | nil => exact h.refl s
  | cons ty types ih =>
    refine h.bind (h.marshal (Engine.toHosted_marshals _ _) s) fun value s => ?_
    exact h.bind (ih _ s) fun _ s => h.refl s

/-- A callback that runs on a context keeps to a habit if hosted code does. -/
theorem perform (h : Habit w D) {callee : Frame → Op σ EngineError Nat}
    (hcallee : ∀ f s, (callee f s).Settles (D s)) (callback : Callback) (number : Nat)
    (args : List Scalar) (s : σ) : (callback.perform w callee number args s).Settles (D s) := by
  refine h.bind (h.decode _ args s) fun values s => ?_
  refine h.bind (h.marshal (Engine.record_marshals rfl) s) fun _ s => ?_
  refine h.bind (h.funcall number hcallee values s) fun _ s => ?_
  by_cases hvoid : callback.signature.ret = .void
  · rw [if_pos hvoid]
    exact h.refl s
  · rw [if_neg hvoid]
    refine h.bind (h.use number .primary rfl s) fun primary s => ?_
    exact h.marshal (Engine.toForeign_marshals _ primary) s

end Habit

/-! ## What every activity keeps to -/

/-- Every use of an engine keeps to `D`, and regions and foreign calls do if their bodies do. -/
structure Custom {σ : Type} (w : Inside σ) (D : σ → σ → Prop) : Prop where
  refl (s : σ) : D s s
  trans {a b c : σ} (hab : D a b) (hbc : D b c) : D a c
  use {α : Type} (u : EngineUse α) (s : σ) : (w.run u.op s).Settles (D s)
  region {α : Type} (number : Nat) {body : Op σ EngineError α}
    (hbody : ∀ s, (body s).Settles (D s)) (s : σ) :
    ((w.context number).withoutInterrupts body s).Settles (D s)
  entering {α : Type} (number : Nat) {body : Op σ EngineError α}
    (hbody : ∀ s, (body s).Settles (D s)) (s : σ) : (w.entering number body s).Settles (D s)

namespace Custom

variable {σ α β : Type} {w : Inside σ} {D : σ → σ → Prop}

/-- What has nothing to do with contexts keeps to a custom. -/
theorem aside (h : Custom w D) {op : EngineOp α} (haside : ∀ e, (op e).Settles e.Aside) (s : σ) :
    (w.run op s).Settles (D s) :=
  h.use (.aside op haside) s

/-- A use of a context keeps to a custom. -/
theorem onContext (h : Custom w D) (number : Nat) (u : ContextUse α) (s : σ) :
    ((w.context number).run u.op s).Settles (D s) :=
  h.use (.onContext number u) s

/-- Sequencing keeps to a custom if both parts do. -/
theorem bind (h : Custom w D) {x : Op σ EngineError α} {f : α → Op σ EngineError β} {s : σ}
    (hx : (x s).Settles (D s)) (hf : ∀ a s', (f a s').Settles (D s')) :
    ((x >>= f) s).Settles (D s) :=
  Op.settles_bind_of_keeps hx fun a s' hs' => (hf a s').imp fun _ => h.trans hs'

/-- Running hosted code on a frame keeps to a custom if the code does. -/
theorem apply (h : Custom w D) (number : Nat) {callee : Frame → Op σ EngineError Nat} (f : Frame)
    (hcallee : ∀ s, (callee f s).Settles (D s)) (s : σ) :
    ((w.context number).apply callee f s).Settles (D s) := by
  refine h.bind ?_ fun count s' => h.bind (h.onContext number .safePoint s') fun _ s'' => h.refl s''
  rw [Op.settles_thenAlways]
  have hbody := h.bind (h.onContext number (.activate f) s) fun _ s' => hcallee s'
  exact hbody.imp fun s' hs' => (h.onContext number (.closeFrame f) s').imp fun _ => h.trans hs'

/-- A call of hosted code keeps to a custom if the code does. -/
theorem funcall (h : Custom w D) (number : Nat) {callee : Frame → Op σ EngineError Nat}
    (hcallee : ∀ f s, (callee f s).Settles (D s)) (args : List Value) (s : σ) :
    ((w.context number).funcall callee args s).Settles (D s) := by
  refine h.bind (h.onContext number .safePoint s) fun _ s' => ?_
  refine h.bind (h.onContext number (.openFrameWith args) s') fun f s'' => ?_
  exact h.apply number f (hcallee f) s''

/-- A custom is a habit of foreign functions and callbacks. -/
theorem habit (h : Custom w D) : Habit w D where
  refl := h.refl
  trans := h.trans
  marshal hop := h.aside fun e => (hop e).imp fun _ => Engine.Marshals.aside
  use number u _ := h.onContext number u
  region := h.region
  entering := h.entering
  funcall number _ := h.funcall number

/-- A callback keeps to a custom if hosted code does. -/
theorem callback (h : Custom w D) {callee : Nat → Frame → Op σ EngineError Nat}
    (hcallee : ∀ number f s, (callee number f s).Settles (D s)) (callback : Callback)
    (args : List Scalar) (s : σ) : (callback.run w callee args s).Settles (D s) := by
  have hfailed (error : EngineError) (s : σ) : (callback.failed w error s).Settles (D s) :=
    h.bind (h.aside (Engine.record_aside rfl) s) fun _ s => h.refl s
  refine h.bind (h.aside (Engine.gets_aside _) s) fun entered s => ?_
  cases entered.head? with
  | none => exact hfailed _ s
  | some number =>
    have hperform := h.habit.perform (hcallee number) callback number args s
    refine h.bind (Op.settles_attempt.mpr hperform) fun answer s => ?_
    cases answer with
    | ok result => exact h.refl s
    | error error => exact hfailed error s

/-- Every activity keeps to a custom. The induction is over the activity. -/
theorem run (h : Custom w D) (a : Activity α) (s : σ) : (a.run w s).Settles (D s) := by
  -- What is done last is answered, and the activity goes on from there.
  have hnext {α β : Type} {x : Op σ EngineError β}
      {next : Except EngineError β → Engine → Activity α}
      (ih : ∀ answer e s, ((next answer e).run w s).Settles (D s))
      (hx : ∀ s, (x s).Settles (D s)) (s : σ) :
      ((do let answer ← x.attempt; (next answer (← w.run Op.get)).run w :
        Op σ EngineError α) s).Settles (D s) :=
    h.bind (Op.settles_attempt.mpr (hx s)) fun answer s =>
      h.bind (h.aside (Engine.gets_aside id) s) fun e s => ih answer e s
  induction a generalizing s with
  | finish result => exact h.habit.ofExcept result s
  | use u next ih => exact hnext ih (h.use u) s
  | withoutInterrupts number body next ihbody ih => exact hnext ih (h.region number ihbody) s
  | funcall number callee args next ihcallee ih =>
    exact hnext ih (h.funcall number ihcallee args) s
  | apply number callee frame next ihcallee ih =>
    exact hnext ih (h.apply number frame (ihcallee frame)) s
  | invoke number function code frame next ihcode ih =>
    exact hnext ih (h.habit.invoke ihcode number function frame) s
  | callback back callee args next ihcallee ih =>
    exact hnext ih (h.callback ihcallee back args) s

end Custom

end CallEngine
