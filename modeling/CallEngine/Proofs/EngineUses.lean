import CallEngine.Proofs.ContextUses

/-!
# What the uses of an engine do

While a region without interrupts is open on a context, no use of the engine takes an interrupt from
its pending word or records a delivery on it, and the context stays where it is, with its frames.
No use opens or closes a region. Contexts are created without regions, and only a context without
regions is dropped. Interrupts may be posted to any context at any time.
-/

namespace CallEngine

/-! ## Locks and events -/

/-- A lock that was granted and is given back was not held before. -/
theorem HeldLocks.release_acquired {held held' : HeldLocks} {domain : Nat} {name : DomainLock}
    (h : held.acquire domain name = .ok held') : held'.release domain = held := by
  unfold acquire at h
  split at h
  · cases h
  · rename_i hfree
    split at h
    · cases h
    · cases h
      have hother : ∀ d ∈ held.domains, (d != domain) = true := by
        intro d hd
        simp only [bne_iff_ne]
        rintro rfl
        exact hfree (by simpa [holds] using hd)
      simp [release, List.filter_eq_self.mpr hother]

namespace Engine

variable {e : Engine}

/-- An operation under a lock that is refused is not done. -/
theorem locked_refused {α : Type} {name : DomainLock} {error : LockError}
    (h : e.locks.acquire domain name = .error error) (op : EngineOp α) :
    locked name op e = .failed (.lock error) (e.noteViolation error) := by
  simp [locked, Op.bind_apply, takeChecked, take, h]

/-- An operation under a lock that is granted is done before the lock is given back. -/
theorem locked_granted {α : Type} {name : DomainLock} {locks : HeldLocks}
    (h : e.locks.acquire domain name = .ok locks) (op : EngineOp α) :
    locked name op e = op.thenAlways giveBack { e with locks } := by
  simp [locked, Op.bind_apply, takeChecked, take, h]

/-- Recording an event changes nothing but the log. -/
theorem note_eq (e : Engine) (event : Event) :
    e.note event = { e with log := if e.recording then event :: e.log else e.log } := by
  unfold note
  split <;> rfl

end Engine

/-! ## Contexts of an engine -/

namespace Engine

/-- Events are kept in order, and nothing else is changed. -/
theorem foldl_note (events : List Event) (e : Engine) :
    events.foldl (fun e event => e.note event) e =
      { e with log := if e.recording then events.reverse ++ e.log else e.log } := by
  induction events generalizing e with
  | nil => simp
  | cons event rest ih =>
    rw [List.foldl_cons, ih]
    by_cases hrecording : e.recording = true
    · simp [note, hrecording]
    · simp [note, hrecording]

/-- A context that is put back takes its place, and its journal goes to the log. -/
theorem putContext_eq (e : Engine) (number : Nat) (c : Context) :
    e.putContext number c =
      { e with
        contexts := e.contexts.setIfInBounds number (some { c with journal := [] })
        log := if e.recording then c.journal ++ e.log else e.log } := by
  rw [putContext, foldl_note, List.reverse_reverse]

variable {e e' : Engine} {number other : Nat} {c : Context}

/-- Only contexts that are numbered are alive. -/
theorem lt_size_of_context? (h : e.context? number = some c) : number < e.contexts.size := by
  rw [context?, Option.join_eq_some_iff] at h
  obtain ⟨hlt, _⟩ := Array.getElem?_eq_some_iff.mp h
  exact hlt

/-- A context that is put back is found at its number, and every other one where it was. -/
theorem context?_putContext (h : e.context? number = some c) (c' : Context) (other : Nat) :
    (e.putContext number c').context? other =
      if other = number then some { c' with journal := [] } else e.context? other := by
  rw [putContext_eq]
  by_cases heq : other = number
  · subst heq
    simp [context?, lt_size_of_context? h]
  · simp [context?, heq, Ne.symm heq]

/-- The contexts of an engine are as they are between any two uses: the id of each follows from its
number, its events were collected, and its pending word stands for a set of interrupts. The next id
will follow from the next number. -/
structure Orderly (e : Engine) : Prop where
  id {number : Nat} {c : Context} (h : e.context? number = some c) : c.id = number + 1
  journal {number : Nat} {c : Context} (h : e.context? number = some c) : c.journal = []
  encodes {number : Nat} {c : Context} (h : e.context? number = some c) :
    ∃ kinds, c.guard.pending.Encodes kinds
  next : e.nextContext = e.contexts.size + 1

/-- The deliveries on the context with an id, the latest first. -/
def deliveries (e : Engine) (id : Nat) : List Event :=
  e.log.filter fun event => event.deliveredOn == some id

/-- The context stays alive, everything that is pending on it stays pending, and no delivery on it
is recorded. -/
def Defers (number : Nat) (e e' : Engine) : Prop :=
  ∃ c c', e.context? number = some c ∧ e'.context? number = some c' ∧ c'.id = c.id ∧
    (∀ kind, c.guard.pending.contains kind = true → c'.guard.pending.contains kind = true) ∧
    e'.deliveries c.id = e.deliveries c.id

/-- Interrupts that are deferred once and again are deferred. -/
theorem Defers.trans {a b c : Engine} (hab : Defers number a b) (hbc : Defers number b c) :
    Defers number a c := by
  obtain ⟨ca, cb, hca, hcb, hid, hpending, hlog⟩ := hab
  obtain ⟨cb', cc, hcb', hcc, hid', hpending', hlog'⟩ := hbc
  obtain rfl : cb = cb' := Option.some.inj (hcb.symm.trans hcb')
  refine ⟨ca, cc, hca, hcc, hid'.trans hid, fun kind hkind => hpending' kind (hpending kind hkind),
    ?_⟩
  rw [← hlog, ← hid]
  exact hlog'

/-- As many regions are open on a context as the engine counts. -/
theorem disabled_of_regions {c' : Context} (hc : e.context? number = some c)
    (hc' : e'.context? number = some c') (h : e'.regions number = e.regions number) :
    c'.guard.disabled = c.guard.disabled := by
  rw [regions, hc', regions, hc] at h
  exact h

/-- What a use of an engine does to its contexts. No region is opened or closed, and where one is
open, the context stays. Interrupts are deferred there, and everywhere if the use is `quiet`. The
limit of the heap is never changed. -/
structure Heeds (quiet : Prop) (e e' : Engine) : Prop where
  limit : e'.heap.limit = e.heap.limit
  orderly (h : e.Orderly) : e'.Orderly
  regions (number : Nat) : e'.regions number = e.regions number
  stays {number : Nat} {c : Context} (hc : e.context? number = some c)
    (hopen : c.guard.disabled ≠ 0) : ∃ c', e'.context? number = some c' ∧ c.Stays c'
  defers (h : e.Orderly) {number : Nat} {c : Context} (hc : e.context? number = some c)
    (hheld : quiet ∨ c.guard.disabled ≠ 0) : Defers number e e'

namespace Heeds

variable {quiet : Prop}

/-- The contexts are the same, and no delivery is recorded. -/
theorem ofLog (hcontexts : e'.contexts = e.contexts) (hnext : e'.nextContext = e.nextContext)
    (hlimit : e'.heap.limit = e.heap.limit)
    (hlog : ∃ added, e'.log = added ++ e.log ∧ ∀ event ∈ added, event.deliveredOn = none) :
    Heeds quiet e e' := by
  have hcontext (number : Nat) : e'.context? number = e.context? number := by
    rw [context?, context?, hcontexts]
  refine ⟨hlimit, fun horderly => ?_, fun number => ?_, fun {number c} hc _ => ?_,
    fun _ number c hc _ => ?_⟩
  · exact ⟨fun hc => horderly.id (hcontext _ ▸ hc), fun hc => horderly.journal (hcontext _ ▸ hc),
      fun hc => horderly.encodes (hcontext _ ▸ hc), by rw [hnext, hcontexts, horderly.next]⟩
  · rw [Engine.regions, hcontext, Engine.regions]
  · exact ⟨c, (hcontext number).trans hc, .refl c⟩
  · refine ⟨c, c, hc, (hcontext number).trans hc, rfl, fun _ hkind => hkind, ?_⟩
    obtain ⟨added, hlog, hadded⟩ := hlog
    have hnone : added.filter (fun event => event.deliveredOn == some c.id) = [] := by
      refine List.filter_eq_nil_iff.mpr fun event hevent => ?_
      simp [hadded event hevent]
    rw [deliveries, hlog, List.filter_append, hnone, List.nil_append, deliveries]

/-- What has nothing to do with contexts delivers nothing. -/
theorem ofAside (h : e.Aside e') : Heeds quiet e e' :=
  .ofLog h.contexts h.next h.limit h.log

/-- Nothing has happened. -/
theorem refl (e : Engine) : Heeds quiet e e := .ofAside (.refl e)

/-- One use after another. -/
theorem trans {a b c : Engine} (hab : Heeds quiet a b) (hbc : Heeds quiet b c) :
    Heeds quiet a c where
  limit := hbc.limit.trans hab.limit
  orderly h := hbc.orderly (hab.orderly h)
  regions number := (hbc.regions number).trans (hab.regions number)
  stays {number ca} hca hopen := by
    obtain ⟨cb, hcb, hstays⟩ := hab.stays hca hopen
    have hregions := disabled_of_regions hca hcb (hab.regions number)
    obtain ⟨cc, hcc, hstays'⟩ := hbc.stays hcb (hregions ▸ hopen)
    exact ⟨cc, hcc, hstays.trans hstays'⟩
  defers h number ca hca hheld := by
    have hfirst := hab.defers h hca hheld
    obtain ⟨_, cb, hca', hcb, _, _, _⟩ := id hfirst
    have hregions := disabled_of_regions hca hcb (hab.regions number)
    have hheld' := hheld.imp_right fun hopen => hregions ▸ hopen
    exact hfirst.trans (hbc.defers (hab.orderly h) hcb hheld')

/-- A sequence does what its parts do. -/
theorem bind {α β : Type} {x : EngineOp α} {f : α → EngineOp β} (hx : (x e).Settles (Heeds quiet e))
    (hf : ∀ a e', (f a e').Settles (Heeds quiet e')) : ((x >>= f) e).Settles (Heeds quiet e) :=
  Op.settles_bind_of_keeps hx fun a e' he' => (hf a e').imp fun _ => he'.trans

end Heeds

/-! ## Uses of an engine -/

/-- Events that are not deliveries on a context do not count as such. -/
theorem deliveries_putContext {id : Nat}
    (h : ∀ event ∈ c.journal, event.deliveredOn ≠ some id) :
    (e.putContext number c).deliveries id = e.deliveries id := by
  have hnone : c.journal.filter (fun event => event.deliveredOn == some id) = [] := by
    refine List.filter_eq_nil_iff.mpr fun event hevent => ?_
    simpa using h event hevent
  rw [putContext_eq, deliveries, deliveries]
  dsimp only
  split
  · rw [List.filter_append, hnone, List.nil_append]
  · rfl

/-- A context is put back in order if its id and its pending word are. -/
theorem Orderly.putContext (h : e.Orderly) (hc : e.context? number = some c) {c' : Context}
    (hid : c'.id = c.id) (hencodes : ∃ kinds, c'.guard.pending.Encodes kinds) :
    (e.putContext number c').Orderly := by
  have hordered {other : Nat} {d : Context}
      (hd : (e.putContext number c').context? other = some d) :
      d.id = other + 1 ∧ d.journal = [] ∧ ∃ kinds, d.guard.pending.Encodes kinds := by
    rw [context?_putContext hc] at hd
    split at hd
    · rename_i heq
      cases hd
      exact ⟨by rw [heq, ← h.id hc]; exact hid, rfl, hencodes⟩
    · exact ⟨h.id hd, h.journal hd, h.encodes hd⟩
  refine ⟨fun hd => (hordered hd).1, fun hd => (hordered hd).2.1, fun hd => (hordered hd).2.2, ?_⟩
  rw [putContext_eq]
  simp [h.next]

/-- A context that is put back defers interrupts on itself if nothing was taken and no delivery is
in its journal. It defers them on every other context, as no two contexts have the same id. -/
theorem Orderly.defers_putContext (h : e.Orderly) (hc : e.context? number = some c) {c' : Context}
    (hid : c'.id = c.id) {other : Nat} {d : Context} (hd : e.context? other = some d)
    (hdelivered : ∀ event ∈ c'.journal, ∀ id, event.deliveredOn = some id →
      id = c.id ∧ other ≠ number)
    (hpending : other = number → ∀ kind, c.guard.pending.contains kind = true →
      c'.guard.pending.contains kind = true) : Defers other e (e.putContext number c') := by
  have hlog : (e.putContext number c').deliveries d.id = e.deliveries d.id := by
    refine deliveries_putContext fun event hevent hdelivery => ?_
    obtain ⟨hsame, hother⟩ := hdelivered event hevent _ hdelivery
    rw [h.id hd, h.id hc] at hsame
    omega
  by_cases heq : other = number
  · subst heq
    obtain rfl : c = d := Option.some.inj (hc.symm.trans hd)
    exact ⟨c, { c' with journal := [] }, hc, by rw [context?_putContext hc, if_pos rfl], hid,
      hpending rfl, hlog⟩
  · exact ⟨d, d, hd, by rw [context?_putContext hc, if_neg heq, hd], rfl, fun _ hkind => hkind, hlog⟩

/-- The regions on a context that is put back are those it has, and those on others stay. -/
theorem regions_putContext (hc : e.context? number = some c) (c' : Context) (other : Nat) :
    (e.putContext number c').regions other =
      if other = number then c'.guard.disabled else e.regions other := by
  rw [regions, context?_putContext hc]
  split
  · rfl
  · rfl

/-- What a context heeds is heeded by the engine it is put back into. -/
theorem heeds_putContext {quiet : Prop} {c' : Context} (hc : e.context? number = some c)
    (h : c.Heeds (quiet ∨ c.guard.disabled ≠ 0) c') : Heeds quiet e (e.putContext number c') := by
  obtain ⟨added, hjournal, hdelivered⟩ := h.journal
  refine ⟨by rw [putContext_eq], fun horderly => horderly.putContext hc h.stays.id
    (h.guard.encodes (horderly.encodes hc)), fun other => ?_, fun {other d} hd _ => ?_,
    fun horderly other d hd hheld => ?_⟩
  · rw [regions_putContext hc]
    split
    · rename_i heq
      rw [h.guard.disabled, heq, regions, hc]
      rfl
    · rfl
  · rw [context?_putContext hc]
    split
    · rename_i heq
      subst heq
      obtain rfl : c = d := Option.some.inj (hc.symm.trans hd)
      exact ⟨_, rfl, h.stays.trans (.same rfl rfl rfl rfl rfl)⟩
    · exact ⟨d, hd, .refl d⟩
  · have hadded : c'.journal = added := by rw [hjournal, horderly.journal hc, List.append_nil]
    have hsame (heq : other = number) : d = c := by
      rw [heq, hc] at hd
      exact (Option.some.inj hd).symm
    refine horderly.defers_putContext hc h.stays.id hd (fun event hevent id hid => ?_) fun heq => ?_
    · obtain ⟨hown, hnot⟩ := hdelivered event (hadded ▸ hevent) id hid
      exact ⟨hown, fun heq => hnot (hsame heq ▸ hheld)⟩
    · exact h.guard.pending (hsame heq ▸ hheld)

/-- An operation of a context does to the engine what it does to the context. -/
theorem onContext_heeds {quiet : Prop} {α : Type} {op : ContextOp EngineError α}
    (hop : ∀ c, (op c).Settles (c.Heeds (quiet ∨ c.guard.disabled ≠ 0))) (number : Nat)
    (e : Engine) : (onContext number op e).Settles (Heeds quiet e) := by
  unfold onContext
  cases hc : e.context? number with
  | none => exact .refl e
  | some c => exact Outcome.settles_mapState.mpr ((hop c).imp fun c' h => heeds_putContext hc h)

/-- Taking the lock has nothing to do with contexts. -/
theorem takeChecked_aside (name : DomainLock) (e : Engine) :
    (takeChecked name e).Settles e.Aside := by
  have hlocks (locks : HeldLocks) : e.Aside { e with locks } := ⟨rfl, rfl, rfl, rfl, [], rfl, by simp⟩
  unfold takeChecked take
  cases e.locks.acquire domain name with
  | ok locks => exact hlocks locks
  | error error =>
    cases error with
    | orderViolation held requested => exact note_aside rfl e
    | reentrant name => exact .refl e

/-- Giving the lock back has nothing to do with contexts. -/
theorem giveBack_aside (e : Engine) : (giveBack e).Settles e.Aside :=
  ⟨rfl, rfl, rfl, rfl, [], rfl, by simp⟩

/-- An operation under the lock keeps to what it keeps to without it. -/
theorem locked_settles {R : Engine → Engine → Prop} (haside : ∀ e e', e.Aside e' → R e e')
    (htrans : ∀ a b c, R a b → R b c → R a c) {α : Type} {op : EngineOp α}
    (hop : ∀ e, (op e).Settles (R e)) (name : DomainLock) (e : Engine) :
    (locked name op e).Settles (R e) := by
  have htake := (takeChecked_aside name e).imp (haside e)
  refine Op.settles_bind_of_keeps htake fun _ e₁ h₁ => Op.settles_thenAlways.mpr ?_
  refine (hop e₁).imp fun e₂ h₂ => (giveBack_aside e₂).imp fun e₃ h₃ => ?_
  exact htrans _ _ _ h₁ (htrans _ _ _ h₂ (haside e₂ e₃ h₃))

/-- A new context, as far as the delivery of interrupts goes. -/
structure Fresh (number : Nat) (c : Context) : Prop where
  id : c.id = number + 1
  journal : c.journal = []
  pending : c.guard.pending = {}
  disabled : c.guard.disabled = 0

/-- Contexts may be created, contexts without regions may be dropped, and interrupts may be posted
to all others. -/
theorem Heeds.ofContexts (hdelivered : ∀ id, e'.deliveries id = e.deliveries id)
    (hlimit : e'.heap.limit = e.heap.limit)
    (hnext : e.Orderly → e'.nextContext = e'.contexts.size + 1)
    (hnew : ∀ number c', e.context? number = none → e'.context? number = some c' →
      c'.guard.disabled = 0 ∧ (e.Orderly → Fresh number c'))
    (hkept : ∀ number c, e.context? number = some c →
      e'.context? number = none ∧ c.guard.disabled = 0 ∨
      ∃ c', e'.context? number = some c' ∧ c.Stays c' ∧ c'.journal = c.journal ∧
        c.guard.Heeds True c'.guard) : Heeds False e e' := by
  refine ⟨hlimit, fun horderly => ?_, fun number => ?_, fun {number c} hc hopen => ?_,
    fun _ number c hc hheld => ?_⟩
  · have hordered {number : Nat} {c' : Context} (hc' : e'.context? number = some c') :
        c'.id = number + 1 ∧ c'.journal = [] ∧ ∃ kinds, c'.guard.pending.Encodes kinds := by
      cases hc : e.context? number with
      | none =>
        have hfresh := (hnew number c' hc hc').2 horderly
        exact ⟨hfresh.id, hfresh.journal, ∅, hfresh.pending ▸ PendingWord.Encodes.empty⟩
      | some c =>
        rcases hkept number c hc with ⟨hgone, _⟩ | ⟨kept, hkept, hstays, hjournal, hguard⟩
        · rw [hc'] at hgone
          cases hgone
        · obtain rfl : kept = c' := Option.some.inj (hkept.symm.trans hc')
          exact ⟨hstays.id.trans (horderly.id hc), hjournal.trans (horderly.journal hc),
            hguard.encodes (horderly.encodes hc)⟩
    exact ⟨fun hc => (hordered hc).1, fun hc => (hordered hc).2.1, fun hc => (hordered hc).2.2,
      hnext horderly⟩
  · rw [Engine.regions, Engine.regions]
    cases hc : e.context? number with
    | none =>
      cases hc' : e'.context? number with
      | none => rfl
      | some c' => exact (hnew number c' hc hc').1
    | some c =>
      rcases hkept number c hc with ⟨hgone, hidle⟩ | ⟨c', hc', _, _, hguard⟩
      · rw [hgone]
        exact hidle.symm
      · rw [hc']
        exact hguard.disabled
  · rcases hkept number c hc with ⟨_, hidle⟩ | ⟨c', hc', hstays, _, _⟩
    · exact absurd hidle hopen
    · exact ⟨c', hc', hstays⟩
  · rcases hkept number c hc with ⟨_, hidle⟩ | ⟨c', hc', hstays, _, hguard⟩
    · exact absurd hidle (hheld.resolve_left id)
    · exact ⟨c, c', hc, hc', hstays.id, hguard.pending trivial, hdelivered c.id⟩

/-- An operation under the lock heeds what it heeds without it. -/
theorem locked_heeds {α : Type} {op : EngineOp α} (hop : ∀ e, (op e).Settles (Heeds False e))
    (name : DomainLock) (e : Engine) : (locked name op e).Settles (Heeds False e) :=
  locked_settles (fun _ _ h => Heeds.ofAside h) (fun _ _ _ hab hbc => hab.trans hbc) hop name e

/-- Recording an event that is not a delivery delivers nothing. -/
theorem record_heeds {event : Event} (hevent : event.deliveredOn = none) (e : Engine) :
    (record event e).Settles (Heeds False e) :=
  (record_aside hevent e).imp fun _ h => .ofAside h

/-! ## The creation of contexts -/

/-- The lock of the engine is granted to whoever asks. -/
def LockFree (e : Engine) : Prop := ∃ locks, e.locks.acquire domain .global = .ok locks

/-- What was refused has changed nothing, except that it may be recorded that a lock was. -/
def Refused (e e' : Engine) : Prop := e' = e ∨ ∃ error, e' = e.noteViolation error

/-- Going on with a context that is there. -/
theorem inPlace_some {α : Type} (hc : e.context? number = some c) (next : Context → EngineOp α) :
    inPlace number next e = next c e := by
  simp only [inPlace, hc]

/-- What is kept to with every context, and when there is none. -/
theorem inPlace_settles {α : Type} {next : Context → EngineOp α} {P : Engine → Prop} (hnone : P e)
    (hnext : ∀ c, (next c e).Settles P) : (inPlace number next e).Settles P := by
  unfold inPlace
  cases e.context? number with
  | none => exact hnone
  | some c => exact hnext c

/-- What is recorded has nothing to do with contexts. -/
theorem context?_note (event : Event) (e : Engine) (number : Nat) :
    (e.note event).context? number = e.context? number := by
  rw [note_eq]
  rfl

/-- The creation of a context is recorded. -/
theorem announceContext_done (hc : e.context? number = some c) :
    announceContext number e = .done () (e.note (.contextCreated c.id c.stack.capacity)) := by
  rw [announceContext, inPlace_some hc]
  rfl

/-- That the guard of a context is installed is recorded. -/
theorem announceGuard_done (hc : e.context? number = some c) :
    announceGuard number e =
      .done () (e.note (.guardInstalled c.id c.stack.guardSlots c.stack.region.guarded)) := by
  rw [announceGuard, inPlace_some hc]
  rfl

/-- Giving the console to a context changes nothing but its owner. -/
theorem routeConsole_eq (id : Nat) (e : Engine) :
    e.routeConsole id = { e with
      consoleOwner :=
        if e.settings.signalHandlers && e.consoleOwner.isNone then some id
        else e.consoleOwner } := by
  unfold routeConsole
  split <;> rfl

/-- The console has nothing to do with the places of contexts. -/
theorem context?_routeConsole (id : Nat) (e : Engine) (number : Nat) :
    (e.routeConsole id).context? number = e.context? number := by
  rw [routeConsole_eq]
  rfl

/-- The console may go to a context. -/
theorem routeContext_done (hc : e.context? number = some c) :
    routeContext number e = .done () (e.routeConsole c.id) := by
  rw [routeContext, inPlace_some hc]
  rfl

/-- A creation that has started is recorded, and then completed. -/
theorem createContext_parts {started : Engine} (hstart : startContext e = .done number started)
    (hc : started.context? number = some c) :
    createContext e = finishContext number
      (((started.note (.contextCreated c.id c.stack.capacity)).note
        (.guardInstalled c.id c.stack.guardSlots c.stack.region.guarded)).routeConsole c.id) := by
  have hannounced := (context?_note (.contextCreated c.id c.stack.capacity) started number).trans hc
  have htold := (context?_note (.guardInstalled c.id c.stack.guardSlots c.stack.region.guarded) _
    number).trans hannounced
  simp only [createContext, Op.bind_apply, hstart, announceContext_done hc,
    announceGuard_done hannounced, routeContext_done htold]

/-- What was put last is replaced. -/
theorem setIfInBounds_push {α : Type} (xs : Array α) (x y : α) :
    (xs.push x).setIfInBounds xs.size y = xs.push y := by
  apply Array.ext_getElem?
  intro i
  rw [Array.getElem?_setIfInBounds, Array.getElem?_push, Array.getElem?_push]
  by_cases hi : xs.size = i
  · simp [hi]
  · simp [hi, Ne.symm hi]

/-- The engine with a context that is registered, and not more. -/
def withPlace (e : Engine) (stack : OperandStack) : Engine :=
  { e with
    nextContext := e.nextContext + 1
    registered := e.registered ++ [e.nextContext]
    contexts := e.contexts.push (some (.unfinished e.nextContext e.settings.limits stack)) }

/-- A creation starts if there is memory for the stack, the lock is free and the engine is not shut
down. Otherwise there is no trace of it. -/
theorem startContext_cases (e : Engine) :
    (∃ error e', startContext e = .failed error e' ∧ Refused e e') ∨
    (∃ check, startContext e = .fatal (.panic check) e) ∨
    (∃ stack, e.LockFree ∧ e.isShutDown = false ∧
      startContext e = .done e.contexts.size (e.withPlace stack)) := by
  simp only [startContext, Op.bind_apply, Op.get]
  rcases OperandStack.create_cases e.machine e.settings.limits.operandStackSlots
    e.settings.limits.guardSlots e.settings.limits.guardPage e with
    ⟨stack, hstack⟩ | ⟨error, hstack⟩ | hstack
  · simp only [Op.mapError, hstack]
    cases hlock : e.locks.acquire domain .global with
    | error error =>
      left
      rw [locked_refused hlock]
      exact ⟨_, _, rfl, .inr ⟨error, rfl⟩⟩
    | ok locks =>
      have hreleased := HeldLocks.release_acquired hlock
      rw [locked_granted hlock]
      by_cases hdown : e.isShutDown = true
      · left
        refine ⟨.shutDown, e, ?_, .inl rfl⟩
        simp only [register, Op.bind_apply, Op.thenAlways, Op.get, if_pos hdown, Op.fail, giveBack,
          Op.modify, hreleased]
      · right; right
        refine ⟨stack, ⟨locks, hlock⟩, by simpa using hdown, ?_⟩
        simp [register, Op.bind_apply, Op.thenAlways, Op.get, giveBack, Op.modify, hdown, hreleased,
          withPlace]
  · simp only [Op.mapError, hstack]
    exact .inl ⟨_, e, rfl, .inl rfl⟩
  · simp only [Op.mapError, hstack]
    exact .inr (.inl ⟨_, rfl⟩)

/-- The context that was registered last is in its place, and all others are where they were. -/
theorem context?_withPlace (e : Engine) (stack : OperandStack) (number : Nat) :
    (e.withPlace stack).context? number =
      if number = e.contexts.size then some (.unfinished e.nextContext e.settings.limits stack)
      else e.context? number := by
  rw [context?, withPlace, Array.getElem?_push]
  split
  · rfl
  · rfl

/-- A context gets its channel of values if there can be one. Otherwise it is gone. -/
theorem finishContext_apply (hc : e.context? number = some c) :
    finishContext number e =
      if e.settings.multipleValuesLimit < 2 ^ 59 then
        .done c.id
          (e.setPlace number (some { c with values := .blank e.settings.multipleValuesLimit }))
      else .fatal (.panic .capacity) (e.setPlace number none) := by
  have hlimit : (e.setPlace number none).settings.limits.multipleValuesLimit =
      e.settings.multipleValuesLimit := rfl
  rw [finishContext, inPlace_some hc]
  simp only [Op.bind_apply, Op.modify, Op.get, ValueChannel.create_apply, hlimit]
  by_cases hchannel : e.settings.multipleValuesLimit < 2 ^ 59
  · rw [if_pos hchannel, if_pos hchannel]
    simp [setPlace]
  · rw [if_neg hchannel, if_neg hchannel]

/-- The engine after a creation that has put something into the place of its context. -/
def withCreation (e : Engine) (stack : OperandStack) (place : Option Context) : Engine :=
  let placed := { e.withPlace stack with contexts := e.contexts.push place }
  ((placed.note (.contextCreated e.nextContext stack.capacity)).note
    (.guardInstalled e.nextContext stack.guardSlots stack.region.guarded)).routeConsole e.nextContext

/-- What an engine knows after a creation. -/
theorem withCreation_eq (e : Engine) (stack : OperandStack) (place : Option Context) :
    e.withCreation stack place = { e with
      nextContext := e.nextContext + 1
      registered := e.registered ++ [e.nextContext]
      contexts := e.contexts.push place
      log := (e.withCreation stack place).log
      consoleOwner :=
        if e.settings.signalHandlers && e.consoleOwner.isNone then some e.nextContext
        else e.consoleOwner } := by
  simp [withCreation, withPlace, note_eq, routeConsole_eq]

/-- A creation that has started is completed if there can be a channel of values. Otherwise the
program stops, and the context is registered, but not there. -/
theorem createContext_of_start {stack : OperandStack}
    (h : startContext e = .done e.contexts.size (e.withPlace stack)) :
    createContext e =
      if e.settings.multipleValuesLimit < 2 ^ 59 then
        .done e.nextContext
          (e.withCreation stack (some (.create e.nextContext e.settings.limits stack)))
      else .fatal (.panic .capacity) (e.withCreation stack none) := by
  have hplaced := (e.context?_withPlace stack e.contexts.size).trans (if_pos rfl)
  let told := (((e.withPlace stack).note (.contextCreated e.nextContext stack.capacity)).note
    (.guardInstalled e.nextContext stack.guardSlots stack.region.guarded)).routeConsole e.nextContext
  have htold : told.context? e.contexts.size =
      some (.unfinished e.nextContext e.settings.limits stack) := by
    rw [context?_routeConsole, context?_note, context?_note, hplaced]
  have hsettings : told.settings = e.settings := by
    simp [told, note_eq, routeConsole_eq, withPlace]
  have hput (place : Option Context) :
      told.setPlace e.contexts.size place = e.withCreation stack place := by
    simp [told, withCreation, setPlace, note_eq, routeConsole_eq, withPlace, setIfInBounds_push]
  have hcreated : { Context.unfinished e.nextContext e.settings.limits stack with
      values := .blank e.settings.multipleValuesLimit } =
      Context.create e.nextContext e.settings.limits stack := rfl
  refine (createContext_parts h hplaced).trans ((finishContext_apply htold).trans ?_)
  rw [hput, hput, hsettings, hcreated]
  rfl

/-- A context is created if there is memory for its stack and its channel, the lock is free and the
engine is not shut down. What is refused leaves no trace, and neither does a stack whose size cannot
be computed. -/
theorem createContext_cases (e : Engine) :
    (∃ error e', createContext e = .failed error e' ∧ Refused e e') ∨
    (∃ check, createContext e = .fatal (.panic check) e) ∨
    (∃ stack, e.LockFree ∧ e.isShutDown = false ∧ createContext e =
      if e.settings.multipleValuesLimit < 2 ^ 59 then
        .done e.nextContext
          (e.withCreation stack (some (.create e.nextContext e.settings.limits stack)))
      else .fatal (.panic .capacity) (e.withCreation stack none)) := by
  rcases e.startContext_cases with ⟨error, e', hended, hrefused⟩ | ⟨check, hended⟩ |
    ⟨stack, hfree, hdown, hended⟩
  · exact .inl ⟨error, e', by simp only [createContext, Op.bind_apply, hended], hrefused⟩
  · exact .inr (.inl ⟨check, by simp only [createContext, Op.bind_apply, hended]⟩)
  · exact .inr (.inr ⟨stack, hfree, hdown, createContext_of_start hended⟩)

/-- A context that was created is new, and the others stay as they are. -/
theorem withCreation_heeds (stack : OperandStack) (e : Engine) :
    Heeds False e
      (e.withCreation stack (some (.create e.nextContext e.settings.limits stack))) := by
  have hcontext (number : Nat) (hlt : number < e.contexts.size) :
      (e.withCreation stack (some (.create e.nextContext e.settings.limits stack))).context? number =
        e.context? number := by
    rw [withCreation_eq, context?, context?, Array.getElem?_push, if_neg (Nat.ne_of_lt hlt)]
  refine .ofContexts (fun id => ?_) (by rw [withCreation_eq]) (fun horderly => ?_)
    (fun number c' hnone hc' => ?_) fun number c hc => .inr ⟨c, ?_, .refl c, rfl, .same rfl rfl⟩
  · simp only [deliveries, withCreation, withPlace, note_eq, routeConsole_eq]
    by_cases hrecording : e.recording = true
    · simp [hrecording, Event.deliveredOn]
    · simp [hrecording]
  · rw [withCreation_eq]
    simp [horderly.next]
  · by_cases hlt : number < e.contexts.size
    · rw [hcontext number hlt, hnone] at hc'
      cases hc'
    · rw [withCreation_eq, context?, Array.getElem?_push] at hc'
      split at hc'
      · rename_i hnumber
        cases hc'
        exact ⟨rfl, fun horderly => ⟨by rw [hnumber, ← horderly.next]; rfl, rfl, rfl, rfl⟩⟩
      · rw [Array.getElem?_eq_none (by omega)] at hc'
        cases hc'
  · rw [hcontext number (lt_size_of_context? hc)]
    exact hc

/-- A lock that was refused has nothing to do with contexts. -/
theorem noteViolation_aside (error : LockError) (e : Engine) : e.Aside (e.noteViolation error) := by
  cases error with
  | orderViolation held requested => exact note_aside rfl e
  | reentrant name => exact .refl e

/-- Creating a context delivers nothing. -/
theorem createContext_heeds (e : Engine) : (createContext e).Settles (Heeds False e) := by
  rcases e.createContext_cases with ⟨error, e', hended, rfl | ⟨violation, rfl⟩⟩ |
    ⟨check, hended⟩ | ⟨stack, _, _, hended⟩
  · rw [hended]
    exact .refl _
  · rw [hended]
    exact .ofAside (noteViolation_aside violation e)
  · rw [hended]
    trivial
  · rw [hended]
    split
    · exact withCreation_heeds stack e
    · trivial

/-- A context without regions can be taken off the registry. -/
theorem unregister_heeds (hidle : e.regions number = 0) :
    (unregister number e).Settles (Heeds False e) := by
  have hset (id : Nat) (e : Engine) (hidle : e.regions number = 0) :
      Heeds False e { setPlace number none e with registered := e.registered.erase id } := by
    refine .ofContexts (fun _ => rfl) rfl (fun horderly => ?_) (fun other c' hnone hc' => ?_)
      fun other c hc => ?_
    · simp [setPlace, horderly.next]
    · rw [context?, setPlace, Array.getElem?_setIfInBounds] at hc'
      split at hc'
      · split at hc' <;> cases hc'
      · rw [context?] at hnone
        rw [hnone] at hc'
        cases hc'
    · by_cases heq : number = other
      · subst heq
        rw [regions, hc] at hidle
        exact .inl ⟨by simp [setPlace, context?, lt_size_of_context? hc], hidle⟩
      · exact .inr ⟨c, by simpa [setPlace, context?, heq] using hc, .refl c, rfl, .same rfl rfl⟩
  have hmove (id : Nat) (e : Engine) : e.Aside (e.moveConsole id) := by
    unfold moveConsole
    split
    · exact ⟨rfl, rfl, rfl, rfl, [], rfl, by simp⟩
    · exact .refl e
  have htake : (((takeChecked .global).attempt (δ := EngineError)) e).Settles e.Aside :=
    Op.settles_attempt.mpr (takeChecked_aside .global e)
  refine inPlace_settles (.refl e) fun c => ?_
  refine Op.settles_bind_of_keeps (htake.imp fun _ h => Heeds.ofAside h) fun answer e₁ h₁ => ?_
  cases answer with
  | error error => trivial
  | ok _ =>
    have hidle₁ := (h₁.regions number).trans hidle
    exact h₁.trans ((hset c.id e₁ hidle₁).trans ((Heeds.ofAside (hmove c.id _)).trans
      (.ofAside (giveBack_aside _))))

/-- Dropping a context without regions delivers nothing. -/
theorem dropIdle_heeds (number : Nat) (e : Engine) :
    (dropIdle number e).Settles (Heeds False e) := by
  unfold dropIdle
  split
  · rename_i hidle
    simp only [dropContext, Op.bind_apply, Op.get]
    split
    · have hguard : (announceRemoval number e).Settles (Heeds False e) :=
        inPlace_settles (.refl e) fun _ => record_heeds rfl e
      refine Op.settles_bind_of_keeps hguard fun _ e₁ h₁ => ?_
      have hend : (announceEnd number e₁).Settles (Heeds False e₁) :=
        inPlace_settles (.refl e₁) fun _ => record_heeds rfl e₁
      refine Op.settles_bind_of_keeps (hend.imp fun _ => h₁.trans) fun _ e₂ h₂ => ?_
      exact (unregister_heeds ((h₂.regions number).trans hidle)).imp fun _ => h₂.trans
    · exact .refl e
  · exact .refl e

/-- Posting an interrupt to the context with an id delivers nothing. -/
theorem postUser_heeds (id : Nat) (e : Engine) : Heeds False e (e.postUser id) := by
  have hcontext (number : Nat) : (e.postUser id).context? number =
      (e.context? number).map fun c => if c.id = id then c.post .user else c := by
    rw [context?, context?, postUser, Array.getElem?_map]
    cases e.contexts[number]? <;> rfl
  refine .ofContexts (fun _ => rfl) rfl (fun horderly => ?_) (fun number c' hnone hc' => ?_)
    fun number c hc => .inr ?_
  · simp [postUser, horderly.next]
  · rw [hcontext, hnone] at hc'
    cases hc'
  · refine ⟨_, by rw [hcontext, hc]; rfl, ?_⟩
    dsimp only
    split
    · exact ⟨.same rfl rfl rfl rfl rfl, rfl, .post True c.guard .user⟩
    · exact ⟨.refl c, rfl, .same rfl rfl⟩

/-- Interrupting the context with an id delivers nothing. -/
theorem interruptContext_heeds (id : Nat) (e : Engine) :
    (interruptContext id e).Settles (Heeds False e) := by
  refine locked_heeds (fun e => ?_) _ e
  refine Heeds.bind (.refl e) fun e₀ e => ?_
  by_cases hregistered : e₀.registered.contains id = true
  · rw [if_pos hregistered]
    refine Heeds.bind (postUser_heeds id e) fun _ e => ?_
    exact Heeds.bind (record_heeds rfl e) fun _ e => .refl e
  · rw [if_neg hregistered]
    exact .refl e

/-- Interrupting from the console delivers nothing. -/
theorem consoleInterrupt_heeds (e : Engine) : (consoleInterrupt e).Settles (Heeds False e) := by
  refine Heeds.bind (.refl e) fun e₀ e => ?_
  cases e₀.consoleOwner with
  | none => exact .refl e
  | some id => exact Heeds.bind (postUser_heeds id e) fun _ e => .refl e

end Engine

/-- Every use of an engine defers interrupts where a region is open. -/
theorem EngineUse.heeds {α : Type} (u : EngineUse α) (e : Engine) :
    (u.op e).Settles (e.Heeds False) := by
  cases u with
  | onContext number u =>
    refine Engine.onContext_heeds (fun c => ?_) number e
    exact (u.heeds c).imp fun _ h => h.mono fun hheld => .inr (hheld.resolve_left id)
  | createContext => exact e.createContext_heeds
  | dropContext number => exact e.dropIdle_heeds number
  | interruptContext id => exact e.interruptContext_heeds id
  | consoleInterrupt => exact e.consoleInterrupt_heeds
  | aside op haside => exact (haside e).imp fun _ h => .ofAside h

end CallEngine
