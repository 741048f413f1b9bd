/-!
# Operations that can fail or stop the engine

An operation works on a state and ends in one of three ways: it is done with a value, it has
failed with an error that its caller may handle, or it is fatal and nothing runs after it. The
state reached is kept in all three cases, so what an operation changed before it failed stays
visible.
-/

namespace CallEngine

/-- A check that the program itself makes while it runs. -/
inductive RuntimeCheck where
  /-- A sum is out of the range of its type. -/
  | arithmetic
  /-- More bytes are asked for at once than an allocation may have. -/
  | capacity
  /-- An index is out of bounds. -/
  | bounds
deriving Repr, DecidableEq

/-- What is said when a check fails. -/
def RuntimeCheck.message : RuntimeCheck → String
  | arithmetic => "attempt to add with overflow"
  | capacity => "capacity overflow"
  | bounds => "index out of bounds"

/-- Why nothing runs any more. -/
inductive Stop where
  /-- The engine cannot go on, and records why. -/
  | recorded (message : String)
  /-- A check of the program failed. -/
  | panic (check : RuntimeCheck)
  /-- Memory was accessed that cannot be. -/
  | fault
deriving Repr, DecidableEq

instance : Coe String Stop := ⟨Stop.recorded⟩

def Stop.message : Stop → String
  | recorded message => message
  | panic check => check.message
  | fault => "invalid memory reference"

/-- How an operation ended, with the state it left. -/
inductive Outcome (σ ε α : Type) where
  | done (value : α) (state : σ)
  | failed (error : ε) (state : σ)
  | fatal (stop : Stop) (state : σ)

/-- An operation on a state `σ` that yields an `α`, fails with an `ε`, or is fatal. -/
def Op (σ ε α : Type) : Type := σ → Outcome σ ε α

namespace Outcome

variable {σ τ ε α : Type}

/-- The state an operation left, however it ended. -/
def state : Outcome σ ε α → σ
  | done _ s => s
  | failed _ s => s
  | fatal _ s => s

/-- The same ending over another state. -/
def mapState (f : σ → τ) : Outcome σ ε α → Outcome τ ε α
  | done a s => done a (f s)
  | failed e s => failed e (f s)
  | fatal m s => fatal m (f s)

/-- Whether the engine has to stop. -/
def isFatal : Outcome σ ε α → Bool
  | fatal _ _ => true
  | _ => false

end Outcome

namespace Op

variable {σ τ ε δ α β : Type}

/-- Leave the state alone and yield `a`. -/
def pure (a : α) : Op σ ε α := fun s => .done a s

/-- Run `x`; if it is done, go on with `f`. -/
def bind (x : Op σ ε α) (f : α → Op σ ε β) : Op σ ε β := fun s =>
  match x s with
  | .done a s' => f a s'
  | .failed e s' => .failed e s'
  | .fatal m s' => .fatal m s'

instance : Monad (Op σ ε) where
  pure := Op.pure
  bind := Op.bind

/-- The current state. -/
def get : Op σ ε σ := fun s => .done s s

/-- Read something off the current state. -/
def gets (f : σ → α) : Op σ ε α := fun s => .done (f s) s

/-- Change the state. -/
def modify (f : σ → σ) : Op σ ε Unit := fun s => .done () (f s)

/-- Replace the state by one computed together with a result. -/
def change (f : σ → α × σ) : Op σ ε α := fun s => .done (f s).1 (f s).2

/-- Fail with `e`. -/
def fail (e : ε) : Op σ ε α := fun s => .failed e s

/-- Nothing runs any more. -/
def stop (why : Stop) : Op σ ε α := fun s => .fatal why s

/-- Stop the engine, and have it recorded why. -/
def fatal (message : String) : Op σ ε α := fun s => .fatal (.recorded message) s

/-- Stop because a check of the program failed. -/
def panic (check : RuntimeCheck) : Op σ ε α := fun s => .fatal (.panic check) s

/-- Take the result of a computation that does not touch the state. -/
def ofExcept (x : Except ε α) : Op σ ε α := fun s =>
  match x with
  | .ok a => .done a s
  | .error e => .failed e s

/-- Look something up that may be refused, without changing the state. -/
def read (f : σ → Except ε α) : Op σ ε α := fun s =>
  match f s with
  | .ok a => .done a s
  | .error e => .failed e s

/-- Compute the next state together with a result, or be refused and leave the state alone. -/
def transition (f : σ → Except ε (α × σ)) : Op σ ε α := fun s =>
  match f s with
  | .ok (a, s') => .done a s'
  | .error e => .failed e s

/-- Run `x` and hand a failure over as a value; a fatal ending stays fatal. -/
def attempt (x : Op σ ε α) : Op σ δ (Except ε α) := fun s =>
  match x s with
  | .done a s' => .done (.ok a) s'
  | .failed e s' => .done (.error e) s'
  | .fatal m s' => .fatal m s'

/-- Run `x` under another type of error. -/
def mapError (f : ε → δ) (x : Op σ ε α) : Op σ δ α := fun s =>
  match x s with
  | .done a s' => .done a s'
  | .failed e s' => .failed (f e) s'
  | .fatal m s' => .fatal m s'

/-- Run `x`, then `last` whether `x` was done or failed, and end as `x` ended. -/
def thenAlways (x : Op σ ε α) (last : Op σ ε Unit) : Op σ ε α := fun s =>
  match x s with
  | .done a s' =>
    match last s' with
    | .done _ t => .done a t
    | .failed e t => .failed e t
    | .fatal m t => .fatal m t
  | .failed e s' =>
    match last s' with
    | .done _ t => .failed e t
    | .failed _ t => .failed e t
    | .fatal m t => .fatal m t
  | .fatal m s' => .fatal m s'

/-- Run `x` on the first of two states. -/
def first (x : Op σ ε α) : Op (σ × τ) ε α := fun s => (x s.1).mapState (·, s.2)

/-- Run `x` on the second of two states. -/
def second (x : Op τ ε α) : Op (σ × τ) ε α := fun s => (x s.2).mapState (s.1, ·)

/-- Run `x` with a state of its own beside the one it is run on. What becomes of that state is part
of the result; it is given up if `x` is not done. -/
def beside (x : Op (σ × τ) ε α) (own : σ) : Op τ ε (α × σ) := fun s =>
  match x (own, s) with
  | .done a (own', s') => .done (a, own') s'
  | .failed e (_, s') => .failed e s'
  | .fatal m (_, s') => .fatal m s'

@[simp] theorem pure_apply (a : α) (s : σ) : (Pure.pure a : Op σ ε α) s = .done a s := rfl

theorem bind_apply (x : Op σ ε α) (f : α → Op σ ε β) (s : σ) :
    (x >>= f) s = match x s with
      | .done a s' => f a s'
      | .failed e s' => .failed e s'
      | .fatal m s' => .fatal m s' := rfl

end Op

end CallEngine
