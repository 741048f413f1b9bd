import CallEngine.Engine.Registry
import CallEngine.Proofs.Creation
import CallEngine.Proofs.EngineUses

/-!
# Interrupts are deferred

While a region without interrupts or a foreign call is in progress on a context, nothing is taken
from its pending word. Regions, foreign calls, callbacks and hosted code may be nested in any way,
on this context and on others, and interrupts may be raised, trapped and posted at any moment. To
speak of every moment, the engine is observed: all states that it passes through are kept, and
before each operation other threads may post interrupts.

When the outermost region or call has ended, whether it was done or failed, delivery is enabled
again, and the next safe point delivers the most urgent interrupt that is pending.
-/

namespace CallEngine

/-! ## Delivery at safe points -/

namespace Engine

variable {e : Engine} {number : Nat} {c : Context}

/-- A safe point on a context delivers the most urgent pending interrupt, if any is pending. -/
def Delivers (number : Nat) (e : Engine) : Prop :=
  ∀ c, e.context? number = some c → ∃ kinds, c.guard.pending.Encodes kinds ∧
    (kinds = ∅ → ∃ e', (within number).safePoint e = .done () e') ∧
    ∀ kind, MostUrgent kinds kind → ∃ e' c',
      (within number).safePoint e = .failed (.condition (.ofKind kind)) e' ∧
      e'.context? number = some c' ∧ c'.guard.pending.Encodes (kinds.erase kind) ∧
      (e.recording = true →
        e'.deliveries c.id = .interruptDelivered c.id kind.name :: e.deliveries c.id)

/-- A safe point of a context is one of the engine. -/
theorem within_safePoint (hc : e.context? number = some c) :
    (within number).safePoint e =
      ((Context.safePoint.mapError EngineError.condition) c).mapState (e.putContext number) := by
  change onContext number _ e = _
  rw [onContext, hc]

/-- A safe point delivers if no region is open. -/
theorem Orderly.delivers (h : e.Orderly) (hregions : e.regions number = 0) : Delivers number e := by
  intro c hc
  obtain ⟨kinds, hkinds⟩ := h.encodes hc
  rw [regions, hc] at hregions
  refine ⟨kinds, hkinds, fun hempty => ?_, fun kind hurgent => ?_⟩
  · refine ⟨e.putContext number c.settleStack, ?_⟩
    rw [within_safePoint hc, Op.mapError, Context.safePoint_idle hkinds (.inr hempty)]
    rfl
  · have hput (c' : Context) : (e.putContext number c').context? number =
        some { c' with journal := [] } := by
      rw [context?_putContext hc, if_pos rfl]
    rw [within_safePoint hc, Op.mapError, Context.safePoint_taken hkinds hregions hurgent]
    refine ⟨_, _, rfl, hput _, ?_, fun hrecording => ?_⟩
    · have herased := hkinds.erase kind
      rwa [← c.settleStack_guard.1] at herased
    · rw [deliveries, putContext_eq, h.journal hc]
      simp [hrecording, Event.deliveredOn, deliveries]

/-! ## Regions and threads -/

/-- Another number of regions on a context is all that has changed, and no delivery is recorded. -/
structure Regions (number : Nat) (count : Nat) (e e' : Engine) : Prop where
  orderly (h : e.Orderly) : e'.Orderly
  regions : e'.regions number = count
  others (other : Nat) (hother : other ≠ number) : e'.regions other = e.regions other
  defers (h : e.Orderly) {other : Nat} {c : Context} (hc : e.context? other = some c) :
    Defers other e e'

/-- Opening or closing a region on a context takes no interrupt. -/
theorem regions_of_putContext (hc : e.context? number = some c) {guard : InterruptGuard}
    (hpending : guard.pending = c.guard.pending) :
    Regions number guard.disabled e (e.putContext number { c with guard }) where
  orderly h := h.putContext hc rfl (by rw [hpending]; exact h.encodes hc)
  regions := by rw [regions_putContext hc, if_pos rfl]
  others other hother := by rw [regions_putContext hc, if_neg hother]
  defers h other d hd := by
    have hid : ({ c with guard } : Context).id = c.id := rfl
    refine h.defers_putContext hc hid hd (fun event hevent => ?_) fun _ kind hkind => ?_
    · rw [h.journal hc] at hevent
      cases hevent
    · rwa [hpending]

/-- Interrupts that other threads have posted, each to a context by number. -/
def posted : List (Nat × InterruptKind) → Engine → Engine
  | [], e => e
  | (number, kind) :: rest, e =>
    posted rest (onContext number (ContextUse.post kind).op e).state

/-- Interrupts that are posted are deferred. -/
theorem posted_heeds {quiet : Prop} (posts : List (Nat × InterruptKind)) (e : Engine) :
    Heeds quiet e (e.posted posts) := by
  induction posts generalizing e with
  | nil => exact .refl e
  | cons post rest ih =>
    obtain ⟨number, kind⟩ := post
    have hpost : (onContext number (ContextUse.post kind).op e).Settles (Heeds quiet e) :=
      onContext_heeds (fun c => ((ContextUse.post kind).heeds c).imp fun _ h =>
        h.mono fun _ => .inl rfl) number e
    have hreturns : (onContext number (ContextUse.post kind).op e).isFatal = false := by
      unfold onContext
      cases e.context? number <;> rfl
    exact (hpost.state hreturns).trans (ih _)

/-- Where a region is open, there is a context. -/
theorem exists_context (h : e.regions number ≠ 0) :
    ∃ c, e.context? number = some c ∧ c.guard.disabled = e.regions number := by
  unfold regions at h ⊢
  cases hc : e.context? number with
  | none =>
    rw [hc] at h
    exact absurd rfl h
  | some c => exact ⟨c, rfl, rfl⟩

end Engine

/-! ## Moments -/

/-- An engine that is observed: its states so far, and what other threads will post. -/
structure Observed where
  engine : Engine
  /-- The engine at all earlier moments, the latest first. -/
  past : List Engine := []
  /-- What is posted before each operation to come, each interrupt to a context by number. -/
  coming : List (List (Nat × InterruptKind)) := []

namespace Observed

/-- The engine at all moments so far, the latest first. -/
def moments (s : Observed) : List Engine := s.engine :: s.past

/-- The engine at all moments from `s` to `s'`, the latest first. -/
def since (s s' : Observed) : List Engine := s'.moments.take (s'.moments.length - s.past.length)

/-- The engine has become another. -/
def next (s : Observed) (engine : Engine) : Observed := { s with engine, past := s.moments }

/-- Other threads have posted interrupts. -/
def arrive (s : Observed) : Observed :=
  { s.next (s.engine.posted (s.coming.headD [])) with coming := s.coming.drop 1 }

/-- The operations of the engine. Before each of them other threads may post interrupts. -/
def inside : Inside Observed := ⟨fun op s => (op s.arrive.engine).mapState s.arrive.next⟩

/-- `s'` is one moment after `s`, and the engine has changed in a way that `R` allows. -/
def Next (R : Engine → Engine → Prop) (s s' : Observed) : Prop :=
  s'.past = s.moments ∧ R s.engine s'.engine

/-- From each moment to the next, the engine has changed in a way that `R` allows. -/
abbrev Trail (R : Engine → Engine → Prop) : Observed → Observed → Prop :=
  Relation.ReflTransGen (Next R)

variable {s s' : Observed} {R : Engine → Engine → Prop} {number depth : Nat}

/-- If the changes that are allowed can be put together, any two moments are related. -/
theorem Trail.exists_pairwise (htrans : ∀ a b c, R a b → R b c → R a c) (h : Trail R s s') :
    ∃ later, s'.moments = later ++ s.moments ∧
      (later ++ [s.engine]).Pairwise (fun e' e => R e e') ∧
      ∀ e ∈ later ++ [s.engine], e = s'.engine ∨ R e s'.engine := by
  induction h with
  | refl =>
    refine ⟨[], rfl, List.pairwise_singleton _ _, fun e he => .inl ?_⟩
    simpa using he
  | @tail t s' _ hnext ih =>
    obtain ⟨later, hmoments, hpairwise, hlast⟩ := ih
    obtain ⟨hpast, hstep⟩ := hnext
    have hrelated : ∀ e ∈ later ++ [s.engine], R e s'.engine := by
      intro e he
      rcases hlast e he with rfl | hbefore
      · exact hstep
      · exact htrans _ _ _ hbefore hstep
    refine ⟨s'.engine :: later, ?_, List.pairwise_cons.mpr ⟨hrelated, hpairwise⟩, fun e he => ?_⟩
    · rw [moments, hpast, hmoments, List.cons_append]
    · rcases List.mem_cons.mp he with rfl | hmem
      · exact .inl rfl
      · exact .inr (hrelated e hmem)

/-- Any two moments on the trail are related. -/
theorem Trail.pairwise_since (htrans : ∀ a b c, R a b → R b c → R a c) (h : Trail R s s') :
    (s.since s').Pairwise fun e' e => R e e' := by
  obtain ⟨later, hmoments, hpairwise, _⟩ := h.exists_pairwise htrans
  have hsplit : s'.moments = (later ++ [s.engine]) ++ s.past := by
    rw [hmoments, moments, List.append_assoc, List.singleton_append]
  rwa [since, hsplit, List.length_append, Nat.add_sub_cancel, List.take_left]

/-- What is kept from one moment to the next by everything that is done while `depth` regions are
open on a context: at least as many are, and interrupts are deferred as long as any is. -/
structure Keeps (number depth : Nat) (e e' : Engine) : Prop where
  orderly : e'.Orderly
  regions : depth ≤ e'.regions number
  defers (h : e.regions number ≠ 0) : e.Defers number e'

/-- Fewer regions may be asked for. -/
theorem Trail.fewer {depth' : Nat} (h : Trail (Keeps number depth') s s') (hle : depth ≤ depth') :
    Trail (Keeps number depth) s s' :=
  Relation.ReflTransGen.mono (fun _ _ hnext =>
    ⟨hnext.1, hnext.2.orderly, Nat.le_trans hle hnext.2.regions, hnext.2.defers⟩) _ _ h

/-- Interrupts are deferred from moment to moment while a region is open. -/
theorem Trail.defers (h : Trail (Keeps number depth) s s') (hdepth : depth ≠ 0)
    (hs : depth ≤ s.engine.regions number) : Trail (Engine.Defers number) s s' := by
  suffices hboth : Trail (Engine.Defers number) s s' ∧ depth ≤ s'.engine.regions number from hboth.1
  induction h with
  | refl => exact ⟨.refl, hs⟩
  | tail _ hnext ih =>
    obtain ⟨htrail, hopen⟩ := ih
    exact ⟨htrail.tail ⟨hnext.1, hnext.2.defers (by omega)⟩, hnext.2.regions⟩

/-! ## What is done between two moments -/

/-- What every activity does: it leaves as many regions open as it found, and no fewer are open and
interrupts are deferred at every moment in between. -/
structure Develops (s s' : Observed) : Prop where
  orderly (h : s.engine.Orderly) : s'.engine.Orderly
  regions (number : Nat) : s'.engine.regions number = s.engine.regions number
  trail (h : s.engine.Orderly) (number : Nat) :
    Trail (Keeps number (s.engine.regions number)) s s'

/-- Interrupts on a context are deferred at every moment. -/
structure Calm (number : Nat) (s s' : Observed) : Prop where
  orderly (h : s.engine.Orderly) : s'.engine.Orderly
  alive (h : s.engine.Orderly) {c : Context} (hc : s.engine.context? number = some c) :
    ∃ c', s'.engine.context? number = some c'
  trail (h : s.engine.Orderly) {c : Context} (hc : s.engine.context? number = some c) :
    Trail (Engine.Defers number) s s'

namespace Develops

/-- Nothing has happened. -/
theorem refl (s : Observed) : Develops s s := ⟨id, fun _ => rfl, fun _ _ => .refl⟩

/-- One development after another. -/
theorem trans {a b c : Observed} (hab : Develops a b) (hbc : Develops b c) : Develops a c where
  orderly h := hbc.orderly (hab.orderly h)
  regions number := (hbc.regions number).trans (hab.regions number)
  trail h number :=
    (hab.trail h number).trans (hab.regions number ▸ hbc.trail (hab.orderly h) number)

/-- A use of the engine is a development. -/
theorem ofNext (hpast : s'.past = s.moments) (h : s.engine.Heeds False s'.engine) :
    Develops s s' where
  orderly := h.orderly
  regions := h.regions
  trail horderly number := .single ⟨hpast, h.orderly horderly, Nat.le_of_eq (h.regions number).symm,
    fun hopen => by
      obtain ⟨c, hc, hdisabled⟩ := Engine.exists_context hopen
      exact h.defers horderly hc (.inr (hdisabled ▸ hopen))⟩

end Develops

namespace Calm

/-- Nothing has happened. -/
theorem refl (s : Observed) : Calm number s s :=
  ⟨id, fun _ c hc => ⟨c, hc⟩, fun _ _ _ => .refl⟩

/-- Calm before and calm after. -/
theorem trans {a b c : Observed} (hab : Calm number a b) (hbc : Calm number b c) :
    Calm number a c where
  orderly h := hbc.orderly (hab.orderly h)
  alive h _ ha := by
    obtain ⟨_, hb⟩ := hab.alive h ha
    exact hbc.alive (hab.orderly h) hb
  trail h _ ha := by
    obtain ⟨_, hb⟩ := hab.alive h ha
    exact (hab.trail h ha).trans (hbc.trail (hab.orderly h) hb)

/-- Interrupts that are deferred by one step. -/
theorem ofDefers (hpast : s'.past = s.moments) (horderly : s.engine.Orderly → s'.engine.Orderly)
    (hdefers : s.engine.Orderly → ∀ c, s.engine.context? number = some c →
      s.engine.Defers number s'.engine) : Calm number s s' where
  orderly := horderly
  alive h c hc := by
    obtain ⟨_, c', _, hc', _, _, _⟩ := hdefers h c hc
    exact ⟨c', hc'⟩
  trail h c hc := .single ⟨hpast, hdefers h c hc⟩

/-- A quiet use of the engine is calm. -/
theorem ofNext (hpast : s'.past = s.moments) (h : s.engine.Heeds True s'.engine) :
    Calm number s s' :=
  .ofDefers hpast h.orderly fun horderly _ hc => h.defers horderly hc (.inl trivial)

/-- A sequence is calm if its parts are. -/
theorem bind {α β : Type} {x : Op Observed EngineError α} {f : α → Op Observed EngineError β}
    (hx : (x s).Settles (Calm number s)) (hf : ∀ a s', (f a s').Settles (Calm number s')) :
    ((x >>= f) s).Settles (Calm number s) :=
  Op.settles_bind_of_keeps hx fun a s' hs' => (hf a s').imp fun _ => hs'.trans

end Calm

/-- What other threads post is deferred. -/
theorem arrive_develops (s : Observed) : Develops s s.arrive :=
  .ofNext rfl (Engine.posted_heeds _ s.engine)

/-- What other threads post is deferred on every context. -/
theorem arrive_calm (s : Observed) : Calm number s s.arrive :=
  .ofNext rfl (Engine.posted_heeds _ s.engine)

/-- An operation of the engine is a development if it defers interrupts where a region is open. -/
theorem run_develops {α : Type} {op : EngineOp α} (hop : ∀ e, (op e).Settles (e.Heeds False))
    (s : Observed) : (inside.run op s).Settles (Develops s) :=
  Outcome.settles_mapState.mpr
    ((hop s.arrive.engine).imp fun _ h => s.arrive_develops.trans (.ofNext rfl h))

/-- An operation of the engine is calm if it is quiet. -/
theorem run_calm {α : Type} {op : EngineOp α} (hop : ∀ e, (op e).Settles (e.Heeds True))
    (s : Observed) : (inside.run op s).Settles (Calm number s) :=
  Outcome.settles_mapState.mpr
    ((hop s.arrive.engine).imp fun _ h => s.arrive_calm.trans (.ofNext rfl h))

/-! ## Regions and foreign calls -/

/-- The number of regions on a context is set by one step, in which interrupts are deferred. -/
theorem Trail.regions {count : Nat} {e : Engine}
    (h : Engine.Regions number count s.engine e) (horderly : s.engine.Orderly) {other : Nat}
    (hdepth : depth ≤ e.regions other) : Trail (Keeps other depth) s (s.next e) :=
  .single ⟨rfl, h.orderly horderly, hdepth, fun hopen => by
    obtain ⟨c, hc, _⟩ := Engine.exists_context hopen
    exact h.defers horderly hc⟩

/-- Setting the number of regions on a context is calm. -/
theorem Calm.regions {count other : Nat} {e : Engine}
    (h : Engine.Regions other count s.engine e) : Calm number s (s.next e) :=
  .ofDefers rfl h.orderly fun horderly _ hc => h.defers horderly hc

/-- A context that is alive is changed in one step, after what other threads have posted. -/
theorem run_modify {c : Context} (hc : s.arrive.engine.context? number = some c)
    (f : Context → Context) : (inside.context number).run (Op.modify f) s =
      .done () (s.arrive.next (s.arrive.engine.putContext number (f c))) := by
  change (Engine.onContext number (Op.modify f) s.arrive.engine).mapState s.arrive.next = _
  rw [Engine.onContext, hc]
  rfl

/-- A context that is not alive is refused. -/
theorem run_unknown (hc : s.arrive.engine.context? number = none) {α : Type}
    (op : ContextOp EngineError α) : (inside.context number).run op s =
      .failed (.signalled s!"unknown context {number}") (s.arrive.next s.arrive.engine) := by
  change (Engine.onContext number op s.arrive.engine).mapState s.arrive.next = _
  rw [Engine.onContext, hc]
  rfl

/-- A region is closed by one step, in which interrupts are deferred on every context. -/
theorem close_region (hopen : s.engine.regions number ≠ 0) :
    ∃ e, (inside.context number).run (Op.modify Context.enableInterrupts) s =
        .done () (s.arrive.next e) ∧
      Engine.Regions number (s.engine.regions number - 1) s.arrive.engine e := by
  have hregions := s.arrive_develops.regions number
  obtain ⟨c, hc, hdisabled⟩ := Engine.exists_context (hregions ▸ hopen)
  have hpending : c.guard.enable.pending = c.guard.pending := rfl
  have hclosed := Engine.regions_of_putContext hc hpending
  have hcount : c.guard.enable.disabled = s.engine.regions number - 1 := by
    rw [← hregions, ← hdisabled]
    rfl
  exact ⟨_, run_modify hc _, hcount ▸ hclosed⟩

/-- What is done while a region is open on a context is calm there. -/
theorem Develops.calm (h : Develops s s') (hopen : s.engine.regions number ≠ 0) :
    Calm number s s' where
  orderly := h.orderly
  alive _ _ _ := by
    obtain ⟨c', hc', _⟩ := Engine.exists_context (h.regions number ▸ hopen)
    exact ⟨c', hc'⟩
  trail horderly _ _ := (h.trail horderly number).defers hopen (Nat.le_refl _)

/-- A region that is opened and closed around a development is one as a whole. -/
theorem Develops.bracket {e e' : Engine}
    (hopened : Engine.Regions number (s.engine.regions number + 1) s.arrive.engine e)
    (hbody : Develops (s.arrive.next e) s')
    (hclosed : Engine.Regions number (s.engine.regions number) s'.arrive.engine e') :
    Develops s (s'.arrive.next e') where
  orderly h := by
    have h₁ := hopened.orderly (s.arrive_develops.orderly h)
    exact hclosed.orderly (s'.arrive_develops.orderly (hbody.orderly h₁))
  regions other := by
    by_cases heq : other = number
    · subst heq
      exact hclosed.regions
    · have hbefore := (hopened.others other heq).trans (s.arrive_develops.regions other)
      have hafter := (s'.arrive_develops.regions other).trans (hbody.regions other)
      exact ((hclosed.others other heq).trans hafter).trans hbefore
  trail h other := by
    have h₀ := s.arrive_develops.orderly h
    have h₁ := hopened.orderly h₀
    have h₂ := hbody.orderly h₁
    have hopen : s.engine.regions other ≤ e.regions other := by
      by_cases heq : other = number
      · subst heq
        rw [hopened.regions]
        exact Nat.le_succ _
      · rw [hopened.others other heq, s.arrive_develops.regions other]
    have hkept : s'.engine.regions other = e.regions other := hbody.regions other
    have hclose : s.engine.regions other ≤ e'.regions other := by
      by_cases heq : other = number
      · subst heq
        rw [hclosed.regions]
      · rw [hclosed.others other heq, s'.arrive_develops.regions other, hkept]
        exact hopen
    have hbefore := (s.arrive_develops.trail h other).trans (Trail.regions hopened h₀ hopen)
    have hduring := hbefore.trans ((hbody.trail h₁ other).fewer hopen)
    have hafter := hduring.trans ((s'.arrive_develops.trail h₂ other).fewer (hkept ▸ hopen))
    exact hafter.trans (Trail.regions hclosed (s'.arrive_develops.orderly h₂) hclose)

/-- A region without interrupts is a development if its body is, and it is calm on its context. -/
theorem region_settles {α : Type} {body : Op Observed EngineError α}
    (hbody : ∀ s, (body s).Settles (Develops s)) (number : Nat) (s : Observed) :
    ((inside.context number).withoutInterrupts body s).Settles
      fun s' => Develops s s' ∧ Calm number s s' := by
  have harrive := s.arrive_develops
  have hcalm : Calm number s s.arrive := s.arrive_calm
  rw [Within.withoutInterrupts, Op.bind_apply]
  cases hc : s.arrive.engine.context? number with
  | none =>
    rw [run_unknown hc]
    exact ⟨harrive.trans (.ofNext rfl (.refl _)), hcalm.trans (.ofNext rfl (.refl _))⟩
  | some c =>
    have hpending : c.guard.deepen.pending = c.guard.pending := rfl
    have hopened := Engine.regions_of_putContext hc hpending
    have hcount : c.guard.deepen.disabled = s.engine.regions number + 1 := by
      rw [← harrive.regions number, Engine.regions, hc]
      rfl
    rw [hcount] at hopened
    rw [run_modify hc]
    dsimp only
    refine Op.settles_thenAlways.mpr ((hbody _).imp fun s₂ hdevelops => ?_)
    have hfound : s₂.engine.regions number = s.engine.regions number + 1 :=
      (hdevelops.regions number).trans hopened.regions
    have hopen : s₂.engine.regions number ≠ 0 := hfound ▸ Nat.succ_ne_zero _
    obtain ⟨e, hclose, hclosed⟩ := close_region hopen
    rw [hfound, Nat.add_sub_cancel] at hclosed
    rw [hclose]
    have hduring : Calm number _ s₂ := hdevelops.calm (hdevelops.regions number ▸ hopen)
    exact ⟨.bracket hopened hdevelops hclosed, ((hcalm.trans (.regions hopened)).trans hduring).trans
      (s₂.arrive_calm.trans (.regions hclosed))⟩

/-- Entering and leaving a foreign call delivers nothing. -/
theorem entering_settles {α : Type} {body : Op Observed EngineError α}
    (hbody : ∀ s, (body s).Settles (Develops s)) (number : Nat) (s : Observed) :
    (inside.entering number body s).Settles (Develops s) := by
  have hentered (f : List Nat → List Nat) (s : Observed) :
      (inside.run (Op.modify fun e => { e with entered := f e.entered }) s).Settles (Develops s) := by
    refine run_develops (fun e => ?_) s
    have hsame : e.Heeds False { e with entered := f e.entered } :=
      .ofLog rfl rfl rfl ⟨[], rfl, by simp⟩
    exact hsame
  refine Op.settles_bind_of_keeps (hentered (number :: ·) s) fun _ s₁ h₁ => ?_
  refine Op.settles_thenAlways.mpr ((hbody s₁).imp fun s₂ h₂ => ?_)
  exact (hentered (·.drop 1) s₂).imp fun _ h₃ => h₁.trans (h₂.trans h₃)

/-- Every activity is a development. -/
theorem custom : Custom inside Develops where
  refl := .refl
  trans := .trans
  use u := run_develops u.heeds
  region number _ hbody s := (region_settles hbody number s).imp fun _ h => h.1
  entering number _ hbody s := entering_settles hbody number s

/-- A foreign function is calm on its context, whatever native code does. -/
theorem invoke_calm {code : EntryPoint → List Scalar → Op Observed EngineError Scalar}
    (hcode : ∀ entry args s, (code entry args s).Settles (Develops s)) (number : Nat)
    (function : ForeignFunction) (frame : Frame) (s : Observed) :
    (function.invoke inside code number frame s).Settles (Calm number s) := by
  have hmarshal {α : Type} {op : EngineOp α} (hop : ∀ e, (op e).Settles e.Marshals)
      (s : Observed) : (inside.run op s).Settles (Calm number s) :=
    run_calm (fun e => (hop e).imp fun _ h => .ofAside h.aside) s
  have huse {α : Type} (u : ContextUse α) (hquiet : u.delivers = false) (s : Observed) :
      ((inside.context number).run u.op s).Settles (Calm number s) :=
    run_calm (Engine.onContext_heeds (fun c => (u.heeds c).imp fun _ h =>
      h.mono fun _ => .inl hquiet) number) s
  unfold ForeignFunction.invoke
  dsimp only
  split
  · exact .refl s
  · refine Calm.bind (huse (.args frame) rfl s) fun args s => ?_
    refine Calm.bind (hmarshal (Engine.buildCall_marshals _ args) s) fun b s => ?_
    refine Calm.bind (hmarshal (Engine.record_marshals rfl) s) fun _ s => ?_
    have hnative := region_settles
      (custom.entering number (custom.habit.execute b function.signature.ret (hcode function.entry)))
      number s
    refine Calm.bind (hnative.imp fun _ h => h.2) fun executed s => ?_
    refine Calm.bind (hmarshal (Engine.toHosted_marshals _ _) s) fun result s => ?_
    cases result with
    | none => exact huse .clearValues rfl s
    | some value => exact huse (.setValue value) rfl s

end Observed

/-! ## Started engines -/

/-- Whether the loading of libraries may record this event. -/
def Event.isLoading : Event → Bool
  | libraryLoaded _ | lockOrderViolation _ _ => true
  | _ => false

namespace Engine

/-- Libraries were loaded, and nothing else was done. -/
def Loads (e e' : Engine) : Prop :=
  ∃ libraries added, (∀ event ∈ added, event.isLoading = true) ∧
    e' = { e with libraries, log := added ++ e.log }

/-- Nothing was loaded. -/
theorem Loads.refl (e : Engine) : e.Loads e := ⟨_, [], by simp, rfl⟩

/-- One library after another. -/
theorem Loads.trans {a b c : Engine} (hab : a.Loads b) (hbc : b.Loads c) : a.Loads c := by
  obtain ⟨_, first, hfirst, rfl⟩ := hab
  obtain ⟨libraries, second, hsecond, rfl⟩ := hbc
  refine ⟨libraries, second ++ first, fun event hevent => ?_, by simp⟩
  rcases List.mem_append.mp hevent with hmem | hmem
  · exact hsecond event hmem
  · exact hfirst event hmem

/-- What is recorded when a library is loaded. -/
theorem Loads.note {event : Event} (h : event.isLoading = true) (e : Engine) :
    e.Loads (e.note event) := by
  unfold Engine.note
  split
  · exact ⟨_, [event], by simpa using h, rfl⟩
  · exact .refl e

/-- Loading a library. -/
theorem loadLibrary_loads (name : String) (e : Engine) :
    (loadLibrary name e).Settles e.Loads := by
  unfold loadLibrary
  rw [Op.bind_apply]
  cases hlock : e.locks.acquire domain .global with
  | error error =>
    rw [locked_refused hlock]
    cases error with
    | orderViolation held requested => exact .note rfl e
    | reentrant name => exact .refl e
  | ok locks =>
    have hreleased := HeldLocks.release_acquired hlock
    rw [locked_granted hlock]
    simp only [Op.bind_apply, Op.thenAlways, Op.get, Op.ofExcept, Op.modify, giveBack]
    cases (e.libraries.load e.files name).mapError EngineError.load with
    | error error =>
      simp only [hreleased]
      exact .refl e
    | ok loaded =>
      have hloaded : e.Loads { e with libraries := loaded.2 } := ⟨_, [], by simp, rfl⟩
      simp only [Op.pure_apply, hreleased]
      exact hloaded.trans (.note rfl _)

/-- Loading libraries. -/
theorem preload_loads (names : List String) (e : Engine) : (preload names e).Settles e.Loads := by
  induction names generalizing e with
  | nil => exact .refl e
  | cons name rest ih =>
    refine Op.settles_bind_of_keeps (loadLibrary_loads name e) fun _ e₁ h₁ => ?_
    exact (ih e₁).imp fun _ => h₁.trans

/-- An engine that was just started has loaded libraries and done nothing else. -/
theorem eq_of_start {machine : Machine} {settings : Settings} {files : FileSystem} {heap : Heap}
    {recording : Bool} {e : Engine} (h : start machine settings files heap recording = .ok e) :
    ∃ libraries log, (∀ event ∈ log, event.isLoading = true) ∧
      e = { machine, settings, files, heap, recording, libraries, log } := by
  obtain ⟨_, _, h⟩ := bind_eq_ok.mp h
  dsimp only at h
  have hloads := preload_loads settings.preload
    { machine, settings, files, heap, recording
      libraries := LibraryLoader.create files settings.libraryPaths }
  split at h
  · rename_i hpreload
    rw [hpreload] at hloads
    cases h
    obtain ⟨libraries, added, hadded, rfl⟩ := hloads
    exact ⟨libraries, added, hadded, by simp⟩
  · cases h
  · cases h

/-- An engine that was just started has no contexts. -/
theorem orderly_of_start {machine : Machine} {settings : Settings} {files : FileSystem} {heap : Heap}
    {recording : Bool} {e : Engine} (h : start machine settings files heap recording = .ok e) :
    e.Orderly := by
  obtain ⟨libraries, log, _, rfl⟩ := eq_of_start h
  exact ⟨nofun, nofun, nofun, rfl⟩

end Engine

namespace Observed

variable {s s' : Observed} {number : Nat}

/-- All moments of a development are in order. -/
theorem Trail.orderly {depth : Nat} (h : Trail (Keeps number depth) s s')
    (hs : ∀ e ∈ s.moments, e.Orderly) : ∀ e ∈ s'.moments, e.Orderly := by
  induction h with
  | refl => exact hs
  | tail _ hnext ih =>
    intro e he
    rw [moments, hnext.1, List.mem_cons] at he
    rcases he with rfl | hmem
    · exact hnext.2.orderly
    · exact ih e hmem

/-- What a region without interrupts or a foreign call on a context has done. At no two moments from
its start to its end was an interrupt taken or a delivery recorded in between, so that everything
that has become pending still is. As many regions are open as before. If none is, then from now on
every safe point delivers the most urgent interrupt that is pending. -/
structure Deferred (number : Nat) (s s' : Observed) : Prop where
  moments : (s.since s').Pairwise fun later earlier => earlier.Defers number later
  regions : s'.engine.regions number = s.engine.regions number
  delivers (h : s.engine.regions number = 0) {α : Type} (a : Activity α) :
    (a.run inside s').Settles fun t => t.engine.Delivers number

/-- A development that is calm on a context has deferred interrupts there. -/
theorem Deferred.ofCalm (horderly : s.engine.Orderly) {c : Context}
    (hc : s.engine.context? number = some c) (hdevelops : Develops s s') (hcalm : Calm number s s') :
    Deferred number s s' where
  moments := (hcalm.trail horderly hc).pairwise_since fun _ _ _ hab hbc => hab.trans hbc
  regions := hdevelops.regions number
  delivers h _ a := (custom.run a s').imp fun _ ht =>
    (ht.orderly (hdevelops.orderly horderly)).delivers
      ((ht.regions number).trans ((hdevelops.regions number).trans h))

/-- Interrupts are deferred by regions without interrupts and by foreign calls. This holds of every
region and every foreign call on every context, at every moment of every run of a started engine,
whatever is done within and however it ends, with interrupts posted by other threads at any time. -/
theorem interrupts_deferred {machine : Machine} {settings : Settings} {files : FileSystem}
    {heap : Heap} {recording : Bool} {e : Engine}
    (hstart : Engine.start machine settings files heap recording = .ok e)
    {α : Type} (program : Activity α) (coming : List (List (Nat × InterruptKind)))
    (hreturns : (program.run inside { engine := e, coming }).isFatal = false) (s : Observed)
    (hs : s.engine ∈ (program.run inside { engine := e, coming }).state.moments) (number : Nat)
    {c : Context} (hc : s.engine.context? number = some c) :
    (∀ (β : Type) (body : Activity β),
      ((inside.context number).withoutInterrupts (body.run inside) s).Settles
        (Deferred number s)) ∧
    ∀ (function : ForeignFunction) (code : EntryPoint → List Scalar → Activity Scalar)
      (frame : Frame),
      (function.invoke inside (fun entry args => (code entry args).run inside) number frame
        s).Settles (Deferred number s) := by
  have hstarted : ∀ e' ∈ ({ engine := e, coming } : Observed).moments, e'.Orderly := by
    intro e' he'
    rw [List.mem_singleton.mp he']
    exact Engine.orderly_of_start hstart
  have hprogram := (custom.run program { engine := e, coming }).state hreturns
  have horderly : s.engine.Orderly :=
    (hprogram.trail (Engine.orderly_of_start hstart) number).orderly hstarted _ hs
  refine ⟨fun β body => ?_, fun function code frame => ?_⟩
  · refine (region_settles (custom.run body) number s).imp fun s' h => ?_
    exact .ofCalm horderly hc h.1 h.2
  · have hcode (entry : EntryPoint) (args : List Scalar) (s : Observed) :
        ((code entry args).run inside s).Settles (Develops s) := custom.run _ s
    have hdevelops := custom.habit.invoke hcode number function frame s
    refine (hdevelops.and (invoke_calm hcode number function frame s)).imp fun s' h => ?_
    exact .ofCalm horderly hc h.1 h.2

/-- An engine that was just started. -/
def started : Engine where
  machine := .bounded true 0x10000000000
  settings := .small
  libraries := LibraryLoader.create {} Settings.small.libraryPaths

/-- Create a context. -/
def creation : Activity Unit := .use .createContext fun _ _ => .finish (.ok ())

/-- The started engine once a context was created. -/
def ready : Observed := (creation.run inside { engine := started }).state

/-- Hosted code that raises an interrupt, passes a safe point and fails. -/
def raising (number : Nat) : Activity Nat :=
  .use (.onContext number (.raiseInterrupt .user)) fun _ _ =>
  .use (.onContext number .safePoint) fun _ _ => .finish (.error .shutDown)

/-- A foreign function without arguments and result. -/
def ping : ForeignFunction :=
  { name := "ping", entry := 0, signature := { params := [], ret := .void } }

/-- Call a foreign function that calls back to that code, and fail. -/
def interrupted : Activity Unit :=
  .funcall 0 (fun f =>
    .invoke 0 ping (fun _ _ =>
      .callback { signature := ping.signature, label := "ping" } (fun number _ => raising number) []
        fun _ _ => .finish (.ok .void)) f
      fun answer _ => .finish answer) [] fun _ _ => .finish (.error .shutDown)

/-- How a region ends in which this is done. -/
def interruption : Outcome Observed EngineError Unit :=
  (inside.context 0).withoutInterrupts (interrupted.run inside) ready

/-- The interrupt that is raised in the callback is deferred by the region, and is pending when the
region has failed. -/
theorem raised_interrupt_deferred :
    interruption.isFailed = true ∧
    (interruption.state.engine.context? 0).map (·.guard.pending.contains .user) = some true ∧
    Deferred 0 ready interruption.state ∧ interruption.state.engine.Delivers 0 := by
  have hfailed : interruption.isFailed = true := by decide +kernel
  have hpending : (interruption.state.engine.context? 0).map
      (·.guard.pending.contains .user) = some true := by decide +kernel
  have hreturns : interruption.isFatal = false := by decide +kernel
  have hstart : Engine.start (.bounded true 0x10000000000) .small {} {} true = .ok started := rfl
  have hcreation : (creation.run inside { engine := started }).isFatal = false := rfl
  have hready : ready.engine ∈ (creation.run inside { engine := started }).state.moments :=
    List.mem_cons_self
  have halive : (ready.engine.context? 0).isSome = true := rfl
  obtain ⟨c, hc⟩ := Option.isSome_iff_exists.mp halive
  -- Said of any state, so that nothing is evaluated on the way.
  have hregion (s : Observed) (hc : s.engine.context? 0 = some c)
      (hs : s.engine ∈ (creation.run inside { engine := started }).state.moments)
      (o : Outcome Observed EngineError Unit)
      (ho : (inside.context 0).withoutInterrupts (interrupted.run inside) s = o)
      (hreturns : o.isFatal = false) (hidle : s.engine.regions 0 = 0) :
      Deferred 0 s o.state ∧ o.state.engine.Delivers 0 := by
    have hdeferred : Deferred 0 s o.state := by
      subst ho
      exact ((interrupts_deferred hstart creation [] hcreation s hs 0 hc).1 Unit interrupted).state
        hreturns
    exact ⟨hdeferred, hdeferred.delivers hidle (.finish (.ok ()))⟩
  exact ⟨hfailed, hpending, hregion ready hc hready interruption rfl hreturns rfl⟩

end Observed

end CallEngine
