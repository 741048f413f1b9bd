import CallEngine.Outcome

/-!
# What operations leave behind

An operation that does not stop the engine leaves a state, whether it was done or has failed. Here
it is said what holds of that state, for sequences of operations, for operations whose failures are
handled and for operations with a last step that always runs.
-/

namespace CallEngine

variable {σ τ ε δ α β : Type}

namespace Outcome

/-- Whether an operation has failed. -/
def isFailed : Outcome σ ε α → Bool
  | failed _ _ => true
  | _ => false

/-- Whether a check of the program has failed. -/
def isPanic : Outcome σ ε α → Bool
  | fatal (.panic _) _ => true
  | _ => false

/-- The value of an operation that is done. -/
def value? : Outcome σ ε α → Option α
  | done a _ => some a
  | _ => none

/-- The state that was left satisfies `P`, unless the engine has to stop. -/
def Settles (P : σ → Prop) : Outcome σ ε α → Prop
  | done _ s => P s
  | failed _ s => P s
  | fatal _ _ => True

@[simp] theorem settles_done {P : σ → Prop} {a : α} {s : σ} :
    (done a s : Outcome σ ε α).Settles P ↔ P s := Iff.rfl

@[simp] theorem settles_failed {P : σ → Prop} {e : ε} {s : σ} :
    (failed e s : Outcome σ ε α).Settles P ↔ P s := Iff.rfl

/-- What settles gives its property to the state of every ending that is not fatal. -/
theorem Settles.state {P : σ → Prop} {o : Outcome σ ε α} (h : o.Settles P)
    (hreturns : o.isFatal = false) : P o.state := by
  cases o with
  | done _ s => exact h
  | failed _ s => exact h
  | fatal _ s => simp [isFatal] at hreturns

/-- A weaker property is settled as well. -/
theorem Settles.imp {P Q : σ → Prop} {o : Outcome σ ε α} (h : o.Settles P)
    (himp : ∀ s, P s → Q s) : o.Settles Q := by
  cases o with
  | done _ s => exact himp s h
  | failed _ s => exact himp s h
  | fatal _ s => trivial

/-- Two properties that are settled are settled together. -/
theorem Settles.and {P Q : σ → Prop} {o : Outcome σ ε α} (hp : o.Settles P) (hq : o.Settles Q) :
    o.Settles fun s => P s ∧ Q s := by
  cases o with
  | done _ s => exact ⟨hp, hq⟩
  | failed _ s => exact ⟨hp, hq⟩
  | fatal _ s => trivial

/-- What is settled under an assumption is settled as an implication. -/
theorem settles_of_imp {p : Prop} {P : σ → Prop} {o : Outcome σ ε α} (h : p → o.Settles P) :
    o.Settles fun s => p → P s := by
  cases o with
  | done _ s => exact h
  | failed _ s => exact h
  | fatal _ s => trivial

/-- An ending over another state is fatal if the original ending is. -/
@[simp] theorem isFatal_mapState (f : σ → τ) (o : Outcome σ ε α) :
    (o.mapState f).isFatal = o.isFatal := by
  cases o <;> rfl

/-- In an ending over another state a check has failed if it has in the original ending. -/
@[simp] theorem isPanic_mapState (f : σ → τ) (o : Outcome σ ε α) :
    (o.mapState f).isPanic = o.isPanic := by
  cases o with
  | fatal stop s => cases stop <;> rfl
  | _ => rfl

/-- An ending over another state settles what the original ending settles about its image. -/
theorem settles_mapState {P : τ → Prop} {f : σ → τ} {o : Outcome σ ε α} :
    (o.mapState f).Settles P ↔ o.Settles fun s => P (f s) := by
  cases o <;> rfl

end Outcome

namespace Op

/-- Sequencing settles a property if every way to go on from the first operation does. -/
theorem settles_bind {P : σ → Prop} {x : Op σ ε α} {f : α → Op σ ε β} {s : σ}
    (hdone : ∀ a s', x s = .done a s' → (f a s').Settles P)
    (hfailed : ∀ e s', x s = .failed e s' → P s') : ((x >>= f) s).Settles P := by
  rw [bind_apply]
  cases hx : x s with
  | done a s' => exact hdone a s' hx
  | failed e s' => exact hfailed e s' hx
  | fatal m s' => trivial

/-- Sequencing settles a property that the first operation settles and the second one keeps. -/
theorem settles_bind_of_keeps {P : σ → Prop} {x : Op σ ε α} {f : α → Op σ ε β} {s : σ}
    (hx : (x s).Settles P) (hf : ∀ a s', P s' → (f a s').Settles P) : ((x >>= f) s).Settles P := by
  refine settles_bind (fun a s' hdone => ?_) fun e s' hfailed => ?_
  · rw [hdone] at hx
    exact hf a s' hx
  · rw [hfailed] at hx
    exact hx

/-- Under another type of error the same checks fail. -/
@[simp] theorem isPanic_mapError (f : ε → δ) (x : Op σ ε α) (s : σ) :
    (x.mapError f s).isPanic = (x s).isPanic := by
  unfold mapError
  cases x s with
  | fatal stop s => cases stop <;> rfl
  | _ => rfl

/-- A last step that always runs decides what is settled. -/
theorem settles_thenAlways {P : σ → Prop} {x : Op σ ε α} {last : Op σ ε Unit} {s : σ} :
    ((x.thenAlways last) s).Settles P ↔ (x s).Settles fun s' => (last s').Settles P := by
  unfold thenAlways
  cases x s with
  | done a s' =>
    simp only [Outcome.settles_done]
    cases last s' <;> rfl
  | failed e s' =>
    simp only [Outcome.settles_failed]
    cases last s' <;> rfl
  | fatal m s' => rfl

/-- Sequencing is done if both operations are. -/
theorem bind_eq_done {x : Op σ ε α} {f : α → Op σ ε β} {s t : σ} {b : β}
    (h : (x >>= f) s = .done b t) : ∃ a s', x s = .done a s' ∧ f a s' = .done b t := by
  rw [bind_apply] at h
  cases hx : x s with
  | done a s' =>
    rw [hx] at h
    exact ⟨a, s', rfl, h⟩
  | failed e s' =>
    rw [hx] at h
    cases h
  | fatal m s' =>
    rw [hx] at h
    cases h

/-- An operation with a last step that always runs is done if both are. -/
theorem thenAlways_eq_done {x : Op σ ε α} {last : Op σ ε Unit} {s t : σ} {a : α}
    (h : x.thenAlways last s = .done a t) : ∃ s', x s = .done a s' ∧ last s' = .done () t := by
  unfold thenAlways at h
  cases hx : x s with
  | done b s' =>
    rw [hx] at h
    cases hlast : last s' with
    | done u t' =>
      simp only [hlast, Outcome.done.injEq] at h
      obtain ⟨rfl, rfl⟩ := h
      exact ⟨s', rfl, hlast⟩
    | failed e t' => simp [hlast] at h
    | fatal m t' => simp [hlast] at h
  | failed e s' =>
    rw [hx] at h
    cases hlast : last s' <;> simp [hlast] at h
  | fatal m s' =>
    rw [hx] at h
    cases h

/-- A sequence goes on where its first operation was done. -/
theorem bind_of_done {x : Op σ ε α} {s s' : σ} {a : α} (h : x s = .done a s')
    (f : α → Op σ ε β) : (x >>= f) s = f a s' := by
  rw [bind_apply, h]

/-- Sequencing only depends on how its first operation ends. -/
theorem bind_apply_congr {x y : Op σ ε α} {s t : σ} (h : x s = y t) (f : α → Op σ ε β) :
    (x >>= f) s = (y >>= f) t := by
  rw [bind_apply, bind_apply, h]

/-- A last step that always runs only depends on how the operation before it ends. -/
theorem thenAlways_congr {x y : Op σ ε α} {s t : σ} (h : x s = y t) (last : Op σ ε Unit) :
    x.thenAlways last s = y.thenAlways last t := by
  unfold thenAlways
  rw [h]

/-- Handing a failure over as a value does not change the state. -/
theorem settles_attempt {P : σ → Prop} {x : Op σ ε α} {s : σ} :
    (x.attempt (δ := δ) s).Settles P ↔ (x s).Settles P := by
  unfold attempt
  cases x s <;> rfl

/-- Another type of error does not change the state. -/
theorem settles_mapError {P : σ → Prop} {g : ε → δ} {x : Op σ ε α} {s : σ} :
    ((x.mapError g) s).Settles P ↔ (x s).Settles P := by
  unfold mapError
  cases x s <;> rfl

end Op

end CallEngine
