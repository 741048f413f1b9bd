import CallEngine.Proofs.EngineUses
import CallEngine.Proofs.StackLevels
import CallEngine.Script.Run

/-!
# Courses of a session

A course is any finite program over a session. It uses contexts and the engine, calls hosted code,
runs regions without interrupts, calls foreign functions, creates trampolines, lets native code call
them and takes their errors. Calls, foreign calls and trampolines nest in any way, over any number
of contexts. What a course does next may depend on every answer so far and on everything it can read
off the session.

To say what the error of a trampoline has to be, a chronicle keeps a tale beside the session: which
trampolines were called, how each call ended, and when errors were taken. Nothing reads the tale,
and what a course does to a chronicle is what it does to the session alone.
-/

namespace CallEngine

namespace Script

variable {σ α β : Type}

/-! ## The tale of the trampolines -/

/-- Something that happened to a trampoline, which is known by its position. -/
inductive TrampolineEntry where
  /-- Native code has called it; the error is there if the call has failed. -/
  | invoked (index : Nat) (label : String) (error : Option EngineError)
  /-- Its error was taken. -/
  | taken (index : Nat)

/-- What happened to trampolines, the latest first. -/
abbrev Tale := List TrampolineEntry

namespace Tale

/-- The error of the latest call that has failed since the error of a trampoline was last taken. -/
def latest (index : Nat) : Tale → Option EngineError
  | [] => none
  | .invoked i _ error :: earlier =>
    if i = index then error.or (latest index earlier) else latest index earlier
  | .taken i :: earlier => if i = index then none else latest index earlier

/-- The label and the message of every call that has failed, the latest first. -/
def failures : Tale → List (String × String)
  | [] => []
  | .invoked _ label (some error) :: earlier => (label, error.message) :: failures earlier
  | .invoked _ _ none :: earlier => failures earlier
  | .taken _ :: earlier => failures earlier

end Tale

/-! ## Sessions inside a larger state -/

/-- A way to run operations of a session inside a larger state, which is told what happens to
trampolines. -/
structure Aboard (σ : Type) where
  run : {α : Type} → SessionOp α → Op σ EngineError α
  tell : TrampolineEntry → Op σ EngineError Unit

namespace Aboard

/-- A session by itself, which keeps no tale. -/
def itself : Aboard Session := ⟨id, fun _ => pure ()⟩

/-- The operations of the engine. -/
def inside (w : Aboard σ) : Inside σ := ⟨fun op => w.run (Session.onEngine op)⟩

/-- Run a trampoline, and keep its error if it fails. -/
def runTrampoline (w : Aboard σ) (callee : Nat → Target → Frame → Op σ EngineError Nat)
    (index : Nat) (args : List Scalar) : Op σ EngineError Scalar := do
  match (← w.run Op.get).trampolines[index]? with
  | none => return .ofBits .u64 0
  | some t =>
    let (result, error) ← t.callback.run w.inside (fun number => callee number t.callee) args
    if error.isSome then
      w.run <| Op.modify fun s =>
        { s with trampolines := s.trampolines.modify index fun t => { t with lastError := error } }
    w.tell (.invoked index t.callback.label error)
    return result

/-- Take the error of a trampoline. -/
def takeError (w : Aboard σ) (name : String) : Op σ EngineError Answer := do
  let index ← w.run (Session.trampolineIndex name)
  let answer ← w.run (Session.takeError name)
  w.tell (.taken index)
  return answer

/-- A trampoline of a session by itself runs as it does in a script. -/
theorem runTrampoline_itself (invoke : Invoke) (index : Nat) (args : List Scalar) :
    itself.runTrampoline invoke index args = Session.runTrampoline invoke index args := rfl

/-- The error of a trampoline of a session by itself is taken as it is in a script. -/
theorem takeError_itself (name : String) : itself.takeError name = Session.takeError name := by
  funext s
  simp only [takeError, Session.takeError, Session.trampolineIndex, itself, id_eq, Op.bind_apply,
    Op.get, Op.modify]
  cases h : s.trampolineIndex? name <;> simp [h, Op.fail]

end Aboard

end Script

/-! ## What has nothing to do with callbacks -/

/-- The label and the message of a callback that has failed. -/
def Event.failedCallback : Event → Option (String × String)
  | callbackFailed label message => some (label, message)
  | _ => none

/-- The callbacks whose failure was recorded, the latest first. -/
def Engine.failures (e : Engine) : List (String × String) := e.log.filterMap Event.failedCallback

/-- Contexts and foreign calls in progress are left as they are, and no failure of a callback is
recorded. -/
structure Engine.Apart (e e' : Engine) : Prop where
  contexts : e'.contexts = e.contexts
  entered : e'.entered = e.entered
  recording : e'.recording = e.recording
  failures : e'.failures = e.failures

namespace Engine

namespace Apart

variable {e e' e'' : Engine}

/-- Nothing has changed. -/
theorem refl (e : Engine) : Apart e e := ⟨rfl, rfl, rfl, rfl⟩

/-- One change after another. -/
theorem trans (h : Apart e e') (h' : Apart e' e'') : Apart e e'' :=
  ⟨h'.contexts.trans h.contexts, h'.entered.trans h.entered, h'.recording.trans h.recording,
    h'.failures.trans h.failures⟩

/-- An event that is no failure of a callback is recorded. -/
theorem note {event : Event} (h : event.failedCallback = none) (e : Engine) :
    Apart e (e.note event) := by
  rw [note_eq]
  refine ⟨rfl, rfl, rfl, ?_⟩
  unfold Engine.failures
  split
  · exact List.filterMap_cons_none h
  · rfl

/-- That a lock was refused is recorded. -/
theorem noteViolation (error : LockError) (e : Engine) : Apart e (e.noteViolation error) := by
  cases error with
  | orderViolation held requested => exact note rfl e
  | reentrant name => exact refl e

/-- Looking up the entry point of a name. -/
theorem resolve (name : String) (e : Engine) : (Engine.resolve name e).Settles (Apart e) := by
  unfold Engine.resolve
  cases hlock : e.locks.acquire domain .global with
  | error error =>
    rw [locked_refused hlock]
    exact noteViolation error e
  | ok locks =>
    rw [locked_granted hlock]
    refine Op.settles_thenAlways.mpr ?_
    rw [Op.bind_apply, Op.get]
    dsimp only
    cases e.symbols.get? name <|> (e.libraries.code? name).map (Code.address e.codeOrigin) <;>
      exact ⟨rfl, rfl, rfl, rfl⟩

end Apart

end Engine

namespace Script

/-- Only trampolines without an error are added, and the engine does nothing that concerns contexts
or callbacks. -/
structure Session.Apart (s s' : Session) : Prop where
  engine : s.engine.Apart s'.engine
  trampolines : ∃ added : Array Trampoline, s'.trampolines = s.trampolines ++ added ∧
    ∀ t ∈ added, t.lastError = none

namespace Session

namespace Apart

variable {s s' s'' : Session} {α β : Type}

/-- Nothing has changed. -/
theorem refl (s : Session) : Apart s s := ⟨.refl _, #[], by simp, by simp⟩

/-- One change after another. -/
theorem trans (h : Apart s s') (h' : Apart s' s'') : Apart s s'' := by
  obtain ⟨added, hadded, hfresh⟩ := h.trampolines
  obtain ⟨added', hadded', hfresh'⟩ := h'.trampolines
  refine ⟨h.engine.trans h'.engine, added ++ added', by simp [hadded', hadded], fun t ht => ?_⟩
  rcases Array.mem_append.mp ht with ht | ht
  · exact hfresh t ht
  · exact hfresh' t ht

/-- A sequence of operations. -/
theorem bind {x : SessionOp α} {g : α → SessionOp β} (hx : (x s).Settles s.Apart)
    (hg : ∀ a s', (g a s').Settles s'.Apart) : ((x >>= g) s).Settles s.Apart :=
  Op.settles_bind_of_keeps hx fun a s' h => (hg a s').imp fun _ => h.trans

/-- A computation that does not touch the session. -/
theorem ofExcept (x : Except EngineError α) (s : Session) :
    ((Op.ofExcept x : SessionOp α) s).Settles s.Apart := by
  cases x <;> exact refl s

/-- Looking up a trampoline. -/
theorem trampolineIndex (name : String) (s : Session) :
    (Session.trampolineIndex name s).Settles s.Apart := by
  refine bind (refl s) fun session s => ?_
  cases session.trampolineIndex? name <;> exact refl s

/-- Making a callee ready to be called. -/
theorem target (callee : Callee) (s : Session) : (Session.target callee s).Settles s.Apart := by
  cases callee with
  | defined name =>
    refine bind (refl s) fun session s => ?_
    cases session.functions.find? (·.name == name) <;> exact refl s
  | function function => exact refl s
  | foreign target name signature =>
    refine bind (ofExcept _ s) fun signature s => bind ?_ fun entry s => refl s
    cases target with
    | native function => exact refl s
    | trampoline name => exact bind (trampolineIndex name s) fun index s => refl s
    | symbol name =>
      have hresolve := Outcome.settles_mapState.mpr
        ((Engine.Apart.resolve name s.engine).imp fun engine h =>
          (⟨h, #[], by simp, by simp⟩ : Apart s { s with engine }))
      exact bind hresolve fun entry s => refl s

/-- Making a trampoline. -/
theorem newTrampoline (name : String) (signature : Declaration) (callee : Callee) (s : Session) :
    (Session.newTrampoline name signature callee s).Settles s.Apart := by
  refine bind (ofExcept _ s) fun signature s => bind (target callee s) fun callee s => ?_
  refine bind (ofExcept _ s) fun callback s => ?_
  exact ⟨.refl _, #[{ name, callback, callee }], by simp, by simp⟩

end Apart

end Session

/-! ## Programs -/

/-- One use of a session that runs nothing else, by what it is answered with. -/
inductive SessionUse : Type → Type 1 where
  /-- A use of a context. Frames are closed by genuine names only. -/
  | onContext {α : Type} (number : Nat) (use : ContextUse α) : SessionUse α
  | createContext : SessionUse Nat
  | dropContext (number : Nat) : SessionUse Unit
  | interruptContext (id : Nat) : SessionUse Bool
  | consoleInterrupt : SessionUse Bool
  | takeError (name : String) : SessionUse Answer
  /-- Anything that has nothing to do with contexts and with the errors of trampolines. -/
  | apart {α : Type} (op : SessionOp α) (hapart : ∀ s, (op s).Settles s.Apart) : SessionUse α

/-- Run a use inside any state that a session is a part of. -/
def SessionUse.run (w : Aboard σ) : SessionUse α → Op σ EngineError α
  | onContext number u => (w.inside.context number).run u.fairOp
  | createContext => w.inside.run Engine.createContext
  | dropContext number => w.inside.run (Engine.dropIdle number)
  | interruptContext id => w.inside.run (Engine.interruptContext id)
  | consoleInterrupt => w.inside.run Engine.consoleInterrupt
  | takeError name => w.takeError name
  | apart op _ => w.run op

/-- A finite program over a session. Every way to go on is given the answer to what was done last
and the session as it is then. -/
inductive Course : Type → Type 1 where
  /-- Return a result, or fail. -/
  | finish {α : Type} (result : Except EngineError α) : Course α
  | use {α β : Type} (use : SessionUse β) (next : Except EngineError β → Session → Course α) :
    Course α
  | withoutInterrupts {α β : Type} (number : Nat) (body : Course β)
    (next : Except EngineError β → Session → Course α) : Course α
  /-- Call hosted code with arguments. -/
  | funcall {α : Type} (number : Nat) (callee : Frame → Course Nat) (args : List Value)
    (next : Except EngineError Nat → Session → Course α) : Course α
  /-- Run hosted code on a frame, which is closed afterwards and so has to be named genuinely. -/
  | apply {α : Type} (number : Nat) (callee : Frame → Course Nat) (frame : Frame)
    (next : Except EngineError Nat → Session → Course α) : Course α
  /-- Run a foreign function on a frame. The code at every address is a course as well. -/
  | invoke {α : Type} (number : Nat) (function : ForeignFunction)
    (code : EntryPoint → List Scalar → Course Scalar) (frame : Frame)
    (next : Except EngineError Nat → Session → Course α) : Course α
  /-- Let native code call a trampoline, whose callee may be any course. -/
  | trampoline {α : Type} (index : Nat) (callee : Nat → Target → Frame → Course Nat)
    (args : List Scalar) (next : Except EngineError Scalar → Session → Course α) : Course α

/-- Run a course inside any state that a session is a part of. -/
def Course.run (w : Aboard σ) : Course α → Op σ EngineError α
  | finish result => Op.ofExcept result
  | use u next => do
    let answer ← (u.run w).attempt
    (next answer (← w.run Op.get)).run w
  | withoutInterrupts number body next => do
    let answer ← ((w.inside.context number).withoutInterrupts (body.run w)).attempt
    (next answer (← w.run Op.get)).run w
  | funcall number callee args next => do
    let answer ← ((w.inside.context number).funcall (fun f => (callee f).run w) args).attempt
    (next answer (← w.run Op.get)).run w
  | apply number callee frame next => do
    let c := w.inside.context number
    let answer ← Op.attempt do
      c.run (Context.checkName frame)
      c.apply (fun f => (callee f).run w) frame
    (next answer (← w.run Op.get)).run w
  | invoke number function code frame next => do
    let native := fun entry args => (code entry args).run w
    let answer ← (function.invoke w.inside native number frame).attempt
    (next answer (← w.run Op.get)).run w
  | trampoline index callee args next => do
    let hosted := fun number target f => (callee number target f).run w
    let answer ← (w.runTrampoline hosted index args).attempt
    (next answer (← w.run Op.get)).run w

/-! ## Chronicles -/

/-- A session with the tale of its trampolines. -/
structure Chronicle where
  session : Session
  tale : Tale := []

namespace Chronicle

/-- The operations of the session. -/
def aboard : Aboard Chronicle where
  run op s := (op s.session).mapState fun session => { s with session }
  tell entry := Op.modify fun s => { s with tale := entry :: s.tale }

/-! ## The session of a chronicle

Without the tale, everything that is done to a chronicle is done to the session by itself. -/

/-- One operation does to the session of a chronicle what the other does to a session by itself. -/
def Erases (x : Op Chronicle EngineError α) (y : SessionOp α) : Prop :=
  ∀ s, (x s).mapState session = y s.session

namespace Erases

/-- The operations of the session are the same. -/
theorem run (op : SessionOp α) : Erases (aboard.run op) (Aboard.itself.run op) := by
  intro s
  change ((op s.session).mapState _).mapState session = op s.session
  cases op s.session <;> rfl

/-- The operations of the engine are the same. -/
theorem engine (op : EngineOp α) :
    Erases (aboard.inside.run op) (Aboard.itself.inside.run op) :=
  run _

/-- A result is the same. -/
theorem pure (a : α) : Erases (Pure.pure a) (Pure.pure a) := fun _ => rfl

/-- An entry of the tale is none of the session. -/
theorem tell (entry : TrampolineEntry) :
    Erases (aboard.tell entry) (Aboard.itself.tell entry) := fun _ => rfl

/-- A computation that does not touch the state is the same. -/
theorem ofExcept (x : Except EngineError α) : Erases (Op.ofExcept x) (Op.ofExcept x) := by
  intro s
  cases x <;> rfl

/-- One operation after another. -/
theorem bind {x : Op Chronicle EngineError α} {y : SessionOp α}
    {f : α → Op Chronicle EngineError β} {g : α → SessionOp β} (hx : Erases x y)
    (hf : ∀ a, Erases (f a) (g a)) : Erases (x >>= f) (y >>= g) := by
  intro s
  rw [Op.bind_apply, Op.bind_apply, ← hx s]
  cases x s with
  | done a s' => exact hf a s'
  | failed error s' => rfl
  | fatal message s' => rfl

/-- An operation whose failure is handled. -/
theorem attempt {x : Op Chronicle EngineError α} {y : SessionOp α} (hx : Erases x y) :
    Erases x.attempt y.attempt := by
  intro s
  rw [Op.attempt, Op.attempt, ← hx s]
  cases x s <;> rfl

/-- An operation with a last step that always runs. -/
theorem thenAlways {x : Op Chronicle EngineError α} {y : SessionOp α}
    {last : Op Chronicle EngineError Unit} {last' : SessionOp Unit} (hx : Erases x y)
    (hlast : Erases last last') : Erases (x.thenAlways last) (y.thenAlways last') := by
  intro s
  rw [Op.thenAlways, Op.thenAlways, ← hx s]
  cases x s with
  | done a s' =>
    dsimp only [Outcome.mapState]
    rw [← hlast s']
    cases last s' <;> rfl
  | failed error s' =>
    dsimp only [Outcome.mapState]
    rw [← hlast s']
    cases last s' <;> rfl
  | fatal message s' => rfl

/-- A region without interrupts. -/
theorem withoutInterrupts {x : Op Chronicle EngineError α} {y : SessionOp α} (number : Nat)
    (hx : Erases x y) : Erases ((aboard.inside.context number).withoutInterrupts x)
      ((Aboard.itself.inside.context number).withoutInterrupts y) :=
  (run _).bind fun _ => hx.thenAlways (run _)

/-- A foreign call. -/
theorem entering {x : Op Chronicle EngineError α} {y : SessionOp α} (number : Nat)
    (hx : Erases x y) :
    Erases (aboard.inside.entering number x) (Aboard.itself.inside.entering number y) :=
  (engine _).bind fun _ => hx.thenAlways (engine _)

section

variable {callee : Frame → Op Chronicle EngineError Nat} {callee' : Frame → SessionOp Nat}

/-- Hosted code that is run on a frame. -/
theorem apply (number : Nat) (f : Frame) (hcallee : Erases (callee f) (callee' f)) :
    Erases ((aboard.inside.context number).apply callee f)
      ((Aboard.itself.inside.context number).apply callee' f) := by
  refine bind (thenAlways ((run _).bind fun _ => hcallee) (run _)) fun count => ?_
  exact (run _).bind fun _ => pure count

/-- A call of hosted code. -/
theorem funcall (number : Nat) (hcallee : ∀ f, Erases (callee f) (callee' f)) (args : List Value) :
    Erases ((aboard.inside.context number).funcall callee args)
      ((Aboard.itself.inside.context number).funcall callee' args) :=
  (run _).bind fun _ => (run _).bind fun f => apply number f (hcallee f)

/-- Arguments of a callback that are marshaled. -/
theorem decode (types : List ForeignType) (args : List Scalar) :
    Erases (Callback.decode aboard.inside types args)
      (Callback.decode Aboard.itself.inside types args) := by
  induction types generalizing args with
  | nil => exact pure []
  | cons ty types ih => exact (run _).bind fun _ => (ih _).bind fun _ => pure _

/-- A callback that runs on a context. -/
theorem perform (hcallee : ∀ f, Erases (callee f) (callee' f)) (callback : Callback)
    (number : Nat) (args : List Scalar) :
    Erases (callback.perform aboard.inside callee number args)
      (callback.perform Aboard.itself.inside callee' number args) := by
  refine (decode _ args).bind fun values => (engine _).bind fun _ => ?_
  refine (funcall number hcallee values).bind fun _ => ?_
  by_cases hvoid : callback.signature.ret = .void
  · rw [if_pos hvoid, if_pos hvoid]
    exact pure Scalar.void
  · rw [if_neg hvoid, if_neg hvoid]
    exact (run _).bind fun _ => engine _

end

/-- A foreign function. -/
theorem invoke {code : EntryPoint → List Scalar → Op Chronicle EngineError Scalar}
    {code' : EntryPoint → List Scalar → SessionOp Scalar}
    (hcode : ∀ entry args, Erases (code entry args) (code' entry args)) (number : Nat)
    (function : ForeignFunction) (frame : Frame) :
    Erases (function.invoke aboard.inside code number frame)
      (function.invoke Aboard.itself.inside code' number frame) := by
  unfold ForeignFunction.invoke
  dsimp only
  split
  · exact fun _ => rfl
  · refine (run _).bind fun args => (engine _).bind fun b => (engine _).bind fun _ => ?_
    refine bind (withoutInterrupts number (entering number ?_)) fun executed => ?_
    · rcases b.execute_beside_cases function.signature.ret with
        ⟨_, hfailed⟩ | ⟨_, hfatal⟩ | ⟨args, hdone⟩
      · rw [hfailed, hfailed]
        exact fun _ => rfl
      · rw [hfatal, hfatal]
        exact fun _ => rfl
      · rw [hdone, hdone]
        exact (hcode _ args).bind fun _ => pure _
    · refine (engine _).bind fun result => ?_
      cases result <;> exact run _

/-- A trampoline. -/
theorem runTrampoline {callee : Nat → Target → Frame → Op Chronicle EngineError Nat}
    {callee' : Invoke} (hcallee : ∀ number t f, Erases (callee number t f) (callee' number t f))
    (index : Nat) (args : List Scalar) :
    Erases (aboard.runTrampoline callee index args)
      (Aboard.itself.runTrampoline callee' index args) := by
  have hfailed (callback : Callback) (error : EngineError) :
      Erases (callback.failed aboard.inside error)
        (callback.failed Aboard.itself.inside error) := (engine _).bind fun _ => pure _
  refine (run _).bind fun session => ?_
  cases session.trampolines[index]? with
  | none => exact pure _
  | some t =>
    refine bind ((engine _).bind fun entered => ?_) fun answer => ?_
    · cases entered.head? with
      | none => exact hfailed _ _
      | some number =>
        refine (perform (hcallee number t.callee) _ number args).attempt.bind fun answer => ?_
        cases answer with
        | ok result => exact pure _
        | error error => exact hfailed _ error
    · obtain ⟨result, error⟩ := answer
      cases error with
      | none => exact (tell _).bind fun _ => pure _
      | some error => exact (run _).bind fun _ => (tell _).bind fun _ => pure _

/-- A use of a session. -/
theorem use (u : SessionUse α) : Erases (u.run aboard) (u.run Aboard.itself) := by
  cases u with
  | takeError name =>
    exact (run _).bind fun _ => (run _).bind fun _ => (tell _).bind fun _ => pure _
  | _ => exact run _

end Erases

/-- What a course does to a chronicle is what it does to a session by itself. -/
theorem erases_course (p : Course α) : Erases (p.run aboard) (p.run Aboard.itself) := by
  -- What is done last is answered, and the course goes on from there.
  have hnext {α β : Type} {x : Op Chronicle EngineError β} {y : SessionOp β}
      {next : Except EngineError β → Session → Course α} (hx : Erases x y)
      (ih : ∀ answer s, Erases ((next answer s).run aboard) ((next answer s).run Aboard.itself)) :
      Erases (do let answer ← x.attempt; (next answer (← aboard.run Op.get)).run aboard)
        (do let answer ← y.attempt; (next answer (← Aboard.itself.run Op.get)).run Aboard.itself) :=
    hx.attempt.bind fun answer => (Erases.run _).bind fun session => ih answer session
  induction p with
  | finish result => exact .ofExcept result
  | use u next ih => exact hnext (.use u) ih
  | withoutInterrupts number body next ihbody ih =>
    exact hnext (.withoutInterrupts number ihbody) ih
  | funcall number callee args next ihcallee ih => exact hnext (.funcall number ihcallee args) ih
  | apply number callee frame next ihcallee ih =>
    exact hnext ((Erases.run _).bind fun _ => .apply number frame (ihcallee frame)) ih
  | invoke number function code frame next ihcode ih =>
    exact hnext (.invoke ihcode number function frame) ih
  | trampoline index callee args next ihcallee ih =>
    exact hnext (.runTrampoline ihcallee index args) ih

end Chronicle

end Script

end CallEngine
