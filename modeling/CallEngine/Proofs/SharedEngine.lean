import CallEngine.Proofs.LifeParts

/-!
# Threads that share an engine

Several threads may create and drop contexts of one engine at the same time. Here a run is a
sequence of steps, each of which one thread takes alone: it starts a creation, takes the next part of
a creation or of an end that it is in the middle of, shuts the engine down, interrupts a context or
works on one. A run keeps how far the life of each context is, and everything the engine knows about
contexts is compared with that after every step.

A thread that stops because a check failed does not stop the others, so a context may be lost in the
middle of its creation. If creations overlap, the first context to which the console is offered need
not be the oldest.
-/

namespace CallEngine

/-! ## Runs -/

/-- One step of a run, which one thread takes alone. -/
inductive LifeStep : Type 1 where
  /-- Start to create a context. -/
  | start
  /-- Take the next part of the creation or of the end of a context; one that is alive starts to
  end. -/
  | advance (number : Nat)
  | shutdown
  | interrupt (id : Nat)
  | console
  /-- The thread that goes on holds these locks, of this engine or of others. -/
  | locks (held : HeldLocks)
  /-- Work on a context that is alive. -/
  | work {α : Type} (number : Nat) (use : ContextUse α)

/-- An engine, and how far the lives of its contexts are. -/
structure EngineLife where
  engine : Engine
  /-- The lives by number. -/
  lives : List Life := []
  /-- Whether a creation was started while the console was not yet offered to an older context. -/
  overlapped : Bool := false

namespace EngineLife

/-- The life of the context with an id. -/
def life? (s : EngineLife) : Nat → Option Life
  | 0 => none
  | number + 1 => s.lives[number]?

/-- A context is registered. -/
def started (s : EngineLife) : EngineLife :=
  { s with
    lives := s.lives ++ [.registered]
    overlapped := s.overlapped || s.lives.any Life.isUnrouted }

/-- The life of a context goes on. -/
def become (number : Nat) (life : Life) (s : EngineLife) : EngineLife :=
  { s with lives := s.lives.set number life }

/-- Go on after an operation. A check that has failed stops one thread; what is recorded as fatal, or
an access to memory that cannot be, stops all of them. -/
def goOn {α : Type} (s : EngineLife) (next stopped : EngineLife → EngineLife) :
    Outcome Engine EngineError α → Option EngineLife
  | .done _ engine => some (next { s with engine })
  | .failed _ engine => some { s with engine }
  | .fatal (.panic _) engine => some (stopped { s with engine })
  | .fatal _ _ => none

/-- Run one step; there is no way on if the engine has stopped. -/
def step (s : EngineLife) : LifeStep → Option EngineLife
  | .start => s.goOn started id (Engine.startContext s.engine)
  | .advance number =>
    match s.lives[number]? with
    | none => some s
    | some life => s.goOn (become number life.next) (become number .lost) (life.part number s.engine)
  | .shutdown => s.goOn id id (Engine.shutdown s.engine)
  | .interrupt context => s.goOn id id (Engine.interruptContext context s.engine)
  | .console => s.goOn id id (Engine.consoleInterrupt s.engine)
  | .locks held => some { s with engine := { s.engine with locks := held } }
  | .work number use =>
    if s.lives[number]? = some .alive then s.goOn id id (Engine.onContext number use.op s.engine)
    else some s

/-- Run steps one after the other. -/
def after (s : EngineLife) : List LifeStep → Option EngineLife
  | [] => some s
  | step :: rest => (s.step step).bind (·.after rest)

variable {settings : Settings} {recording : Bool} {s s' : EngineLife} {number : Nat} {c : Context}

/-- The life that goes on is another one, and all others are as they were. -/
theorem life?_become {old : Life} (h : s.lives[number]? = some old) (new : Life) (id : Nat) :
    (s.become number new).life? id = if id = number + 1 then some new else s.life? id := by
  obtain ⟨hlt, _⟩ := List.getElem?_eq_some_iff.mp h
  cases id with
  | zero => simp [life?]
  | succ other =>
    by_cases heq : other = number
    · simp [life?, become, heq, hlt]
    · simp [life?, become, heq, Ne.symm heq]

/-- A new life comes behind all others. -/
theorem life?_started (s : EngineLife) (id : Nat) :
    s.started.life? id = if id = s.lives.length + 1 then some .registered else s.life? id := by
  cases id with
  | zero => simp [life?]
  | succ other =>
    rcases Nat.lt_trichotomy other s.lives.length with hlt | heq | hgt
    · simp [life?, started, List.getElem?_append_left hlt, Nat.ne_of_lt hlt]
    · simp [life?, started, heq]
    · have hnone : s.lives[other]? = none := List.getElem?_eq_none (Nat.le_of_lt hgt)
      have hnone' : (s.lives ++ [Life.registered])[other]? = none :=
        List.getElem?_eq_none (by simp; omega)
      simp [life?, started, hnone, hnone', Nat.ne_of_gt hgt]

/-- What is not said of a new life is said of the same ids as before. -/
theorem any_started (s : EngineLife) {p : Life → Bool} (hp : p .registered = false) (id : Nat) :
    (s.started.life? id).any p = (s.life? id).any p := by
  rw [life?_started]
  split
  · rename_i heq
    have hnone : s.life? (s.lives.length + 1) = none := by simp [life?]
    rw [heq, hnone, Option.any_some, hp, Option.any_none]
  · rfl

/-- Ids that are collected when a life comes to a point are those of the lives that have come to it. -/
theorem mem_turned {old new point : Life} {p : Life → Bool} {ids : List Nat}
    (hold : s.lives[number]? = some old) (hids : ∀ id, id ∈ ids ↔ (s.life? id).any p = true)
    (hp : p new = (decide (new = point) || p old)) (id : Nat) :
    id ∈ (if new = point then (number + 1) :: ids else ids) ↔
      ((s.become number new).life? id).any p = true := by
  have hlife : s.life? (number + 1) = some old := hold
  rw [life?_become hold]
  by_cases hid : id = number + 1
  · subst hid
    have hbefore := hids (number + 1)
    rw [hlife, Option.any_some] at hbefore
    rw [if_pos rfl, Option.any_some, hp]
    by_cases hpoint : new = point
    · simp [hpoint]
    · simp [hpoint, hbefore]
  · rw [if_neg hid, ← hids]
    split
    · simp [hid]
    · rfl

/-- There are no more lives than ids that were handed out. -/
theorem le_of_life? {id : Nat} {life : Life} (h : s.life? id = some life) : id ≤ s.lives.length := by
  cases id with
  | zero => exact Nat.zero_le _
  | succ number => exact (List.getElem?_eq_some_iff.mp h).1

/-! ## What the engine knows -/

/-- Where the console is. -/
structure Console (s : EngineLife) : Prop where
  owned {id : Nat} (h : s.engine.consoleOwner = some id) : id ∈ s.engine.registered
  unowned (h : s.engine.consoleOwner = none) {id : Nat} (hid : id ∈ s.engine.registered) :
    (s.life? id).any Life.isUnrouted = true
  oldest (h : s.overlapped = false) {id : Nat} (howner : s.engine.consoleOwner = some id) {other : Nat}
    (hother : other ∈ s.engine.registered) : id ≤ other

/-- What the engine knows agrees with the lives of its contexts. -/
structure Lives (settings : Settings) (recording : Bool) (s : EngineLife) : Prop where
  configured : s.engine.settings = settings
  records : s.engine.recording = recording
  orderly : s.engine.Orderly
  size : s.engine.contexts.size = s.lives.length
  place (number : Nat) :
    (s.engine.context? number).isSome = (s.life? (number + 1)).any Life.inPlace
  registered (id : Nat) : id ∈ s.engine.registered ↔ (s.life? id).any Life.isRegistered = true
  sorted : s.engine.registered.Pairwise (· < ·)
  born (h : recording = true) (id : Nat) :
    id ∈ s.engine.births ↔ (s.life? id).any Life.isBorn = true
  dead (h : recording = true) (id : Nat) :
    id ∈ s.engine.deaths ↔ (s.life? id).any Life.isDead = true
  down (h : s.engine.isShutDown = true) : s.engine.registered = []
  /-- Unless creations overlap, the console was offered to all contexts but the last one. -/
  last (h : s.overlapped = false) {id : Nat} (hid : (s.life? id).any Life.isUnrouted = true) :
    id = s.lives.length
  console (h : settings.signalHandlers = true) : s.Console
  complete (h : settings.multipleValuesLimit < 2 ^ 59) (id : Nat) : s.life? id ≠ some .lost
  incomplete (h : ¬ settings.multipleValuesLimit < 2 ^ 59) (id : Nat) : s.life? id ≠ some .alive

namespace Lives

/-- What does not concern lives keeps the agreement. -/
theorem same (h : Lives settings recording s) {engine : Engine}
    (hsame : s.engine.SameLives engine) (horderly : engine.Orderly) :
    Lives settings recording { s with engine } where
  configured := hsame.settings.trans h.configured
  records := hsame.recording.trans h.records
  orderly := horderly
  size := hsame.size.trans h.size
  place number := (hsame.places number).trans (h.place number)
  registered id := by rw [hsame.registered, h.registered]; rfl
  sorted := by rw [hsame.registered]; exact h.sorted
  born hrecording id := by rw [hsame.births, h.born hrecording]; rfl
  dead hrecording id := by rw [hsame.deaths, h.dead hrecording]; rfl
  down hdown := by rw [hsame.registered]; exact h.down (hsame.isShutDown ▸ hdown)
  last hnot _ hid := h.last hnot hid
  console hhandlers := by
    have hconsole := h.console hhandlers
    refine ⟨fun howner => ?_, fun howner id hid => ?_, fun hnot id howner other hother => ?_⟩
    · rw [hsame.registered]
      exact hconsole.owned (hsame.consoleOwner ▸ howner)
    · rw [hsame.registered] at hid
      exact hconsole.unowned (hsame.consoleOwner ▸ howner) hid
    · rw [hsame.registered] at hother
      exact hconsole.oldest hnot (hsame.consoleOwner ▸ howner) hother
  complete := h.complete
  incomplete := h.incomplete

/-- No registered id is beyond those that were handed out. -/
theorem le_length (h : Lives settings recording s) {id : Nat} (hid : id ∈ s.engine.registered) :
    id ≤ s.lives.length := by
  obtain ⟨life, hlife, _⟩ := (Option.any_eq_true _ _).mp ((h.registered id).mp hid)
  exact le_of_life? hlife

/-- The next id is new. -/
theorem fresh (h : Lives settings recording s) : s.engine.nextContext = s.lives.length + 1 := by
  rw [h.orderly.next, h.size]

/-- The id of a context that is registered comes behind the others. -/
theorem registered_start (h : Lives settings recording s) (stack : OperandStack) :
    (s.engine.withPlace stack).registered = s.engine.registered ++ [s.lives.length + 1] := by
  rw [← h.fresh]
  rfl

/-- Where the console is does not change when a context is registered. -/
theorem console_start (h : Lives settings recording s) (hhandlers : settings.signalHandlers = true)
    (stack : OperandStack) : ({ s with engine := s.engine.withPlace stack }.started).Console := by
  have hconsole := h.console hhandlers
  have hmember (id : Nat) : id ∈ (s.engine.withPlace stack).registered ↔
      id ∈ s.engine.registered ∨ id = s.lives.length + 1 := by
    rw [h.registered_start, List.mem_append, List.mem_singleton]
  constructor
  case owned => exact fun {id} howner => (hmember id).mpr (.inl (hconsole.owned howner))
  case unowned =>
    intro howner id hid
    rw [life?_started]
    split
    · rfl
    · rename_i hne
      exact hconsole.unowned howner (((hmember id).mp hid).resolve_right hne)
  case oldest =>
    intro hnot id howner other hother
    have hbefore : s.overlapped = false := (Bool.or_eq_false_iff.mp hnot).1
    rcases (hmember other).mp hother with hold | hnew
    · exact hconsole.oldest hbefore howner hold
    · rw [hnew]
      exact Nat.le_succ_of_le (h.le_length (hconsole.owned howner))

/-- A context that is registered has the next id. -/
theorem start (h : Lives settings recording s) (stack : OperandStack)
    (hdown : s.engine.isShutDown = false) :
    Lives settings recording { s with engine := s.engine.withPlace stack }.started := by
  have hlife (id : Nat) : ({ s with engine := s.engine.withPlace stack }.started).life? id =
      if id = s.lives.length + 1 then some .registered else s.life? id := life?_started _ id
  have hnone (id : Nat) (life : Life) (hlater : life ≠ .registered) (hid : s.life? id ≠ some life) :
      ({ s with engine := s.engine.withPlace stack }.started).life? id ≠ some life := by
    rw [hlife]
    split
    · exact fun heq => hlater (Option.some.inj heq).symm
    · exact hid
  refine
    { configured := h.configured
      records := h.records
      orderly := h.orderly.withPlace stack
      size := by simp [started, Engine.withPlace, h.size]
      place := fun number => ?_
      registered := fun id => ?_
      sorted := ?_
      born := fun hrecording id => ?_
      dead := fun hrecording id => ?_
      down := fun hdown' => absurd (hdown.symm.trans hdown') Bool.false_ne_true
      last := fun hnot id hid => ?_
      console := fun hhandlers => h.console_start hhandlers stack
      complete := fun hlimit id => hnone id .lost (by decide) (h.complete hlimit id)
      incomplete := fun hlimit id => hnone id .alive (by decide) (h.incomplete hlimit id) }
  · rw [hlife]
    refine (congrArg Option.isSome (s.engine.context?_withPlace stack number)).trans ?_
    rw [← h.size]
    by_cases heq : number = s.engine.contexts.size
    · simp [heq, Life.inPlace]
    · simp [heq, h.place]
  · change id ∈ (s.engine.withPlace stack).registered ↔ _
    rw [h.registered_start, hlife, List.mem_append, List.mem_singleton, h.registered]
    split
    · rename_i heq
      simp [heq, Life.isRegistered]
    · rename_i hne
      simp [hne]
  · change (s.engine.withPlace stack).registered.Pairwise (· < ·)
    rw [h.registered_start]
    refine List.pairwise_append.mpr
      ⟨h.sorted, List.pairwise_singleton _ _, fun id hid other hother => ?_⟩
    rw [List.mem_singleton.mp hother]
    exact Nat.lt_succ_of_le (h.le_length hid)
  · rw [any_started _ (by rfl)]
    exact h.born hrecording id
  · rw [any_started _ (by rfl)]
    exact h.dead hrecording id
  · -- Before, the console was offered to all contexts, as creations do not overlap.
    have hrouted := (Bool.or_eq_false_iff.mp hnot).2
    rw [hlife] at hid
    split at hid
    · rename_i heq
      simpa [started] using heq
    · obtain ⟨life, hold, hlast⟩ := (Option.any_eq_true _ _).mp hid
      have hmem : life ∈ s.lives := by
        cases id with
        | zero => cases hold
        | succ number => exact List.mem_of_getElem? hold
      exact absurd hlast (List.any_eq_false.mp hrouted life hmem)

section

variable {old new : Life} {engine : Engine}

/-- The console goes to the first context it is offered to. If creations do not overlap, that is the
oldest one. -/
theorem console_offered (h : Lives settings recording s) (hconsole : s.Console)
    (hmember : number + 1 ∈ s.engine.registered) (hnone : s.engine.consoleOwner = none)
    (hregistered : engine.registered = s.engine.registered)
    (howner : engine.consoleOwner = some (number + 1)) :
    ({ s with engine }.become number new).Console := by
  constructor
  case owned =>
    intro id hid
    obtain rfl := Option.some.inj (howner.symm.trans hid)
    exact hregistered ▸ hmember
  case unowned =>
    intro hid
    cases howner.symm.trans hid
  case oldest =>
    -- All registered contexts are unrouted, and there is but one such context.
    intro hnot id hid other hother
    obtain rfl := Option.some.inj (howner.symm.trans hid)
    have hother := hconsole.unowned hnone (hregistered ▸ hother)
    rw [h.last hnot hother, ← h.last hnot (hconsole.unowned hnone hmember)]

/-- The console is handed over to the oldest context that is left. -/
theorem console_handed (howner : engine.consoleOwner = engine.registered.min?) :
    ({ s with engine }.become number new).Console := by
  constructor
  case owned =>
    intro id hid
    exact List.min?_mem (howner.symm.trans hid)
  case unowned =>
    intro hid id hother
    have hempty := List.min?_eq_none_iff.mp (howner.symm.trans hid)
    exact absurd hother (List.eq_nil_iff_forall_not_mem.mp hempty id)
  case oldest =>
    intro hnot id hid other hother
    exact (List.min?_eq_some_iff.mp (howner.symm.trans hid)).2 other hother

/-- The console stays where it is when its owner stays, and where it is not when the life that goes
on is not offered it. -/
theorem console_kept (hconsole : s.Console) (hold : s.lives[number]? = some old)
    (howner : engine.consoleOwner = s.engine.consoleOwner)
    (hkeeps : ∀ id, s.engine.consoleOwner = some id → id ∈ s.engine.registered →
      id ∈ engine.registered)
    (hleaves : ∀ id ∈ engine.registered, id ∈ s.engine.registered)
    (hunrouted : s.engine.consoleOwner = none → number + 1 ∈ engine.registered →
      old.isUnrouted = true → new.isUnrouted = true) :
    ({ s with engine }.become number new).Console := by
  have hlife : s.life? (number + 1) = some old := hold
  have hbecome (id : Nat) : ({ s with engine }.become number new).life? id =
      if id = number + 1 then some new else s.life? id := life?_become hold new id
  constructor
  case owned =>
    intro id hid
    have hid := howner.symm.trans hid
    exact hkeeps id hid (hconsole.owned hid)
  case unowned =>
    intro hid id hother
    have hnone := howner.symm.trans hid
    have hstill := hconsole.unowned hnone (hleaves id hother)
    rw [hbecome]
    split
    · rename_i heq
      rw [heq, hlife, Option.any_some] at hstill
      exact hunrouted hnone (heq ▸ hother) hstill
    · exact hstill
  case oldest =>
    intro hnot id hid other hother
    exact hconsole.oldest hnot (howner.symm.trans hid) (hleaves other hother)

/-- The console stays with a registered context when a life goes on. -/
theorem console_turn (h : Lives settings recording s) (hhandlers : settings.signalHandlers = true)
    (hold : s.lives[number]? = some old) (hleads : old.Leads new)
    (hturns : s.engine.Turns number new engine) :
    ({ s with engine }.become number new).Console := by
  have hconsole := h.console hhandlers
  have hlife : s.life? (number + 1) = some old := hold
  have hmember : number + 1 ∈ s.engine.registered := by
    rw [h.registered, hlife]
    exact hleads.registered
  have howner := hturns.console
  rw [h.configured] at howner
  have hregistered := hturns.registered
  -- The console is offered, or its owner is gone, or nothing happens to it.
  by_cases hoffered : new = .routed ∧ s.engine.consoleOwner = none
  · obtain ⟨rfl, hnone⟩ := hoffered
    rw [if_pos ⟨rfl, hhandlers, hnone⟩] at howner
    rw [if_neg (by decide)] at hregistered
    exact h.console_offered hconsole hmember hnone hregistered howner
  · rw [if_neg fun hall => hoffered ⟨hall.1, hall.2.2⟩] at howner
    by_cases hhanded : new = .gone ∧ s.engine.consoleOwner = some (number + 1)
    · rw [if_pos hhanded] at howner
      exact console_handed howner
    · rw [if_neg hhanded] at howner
      have hnodup : s.engine.registered.Nodup := h.sorted.imp Nat.ne_of_lt
      have hmem (id : Nat) : id ∈ engine.registered ↔
          (new = .gone → id ≠ number + 1) ∧ id ∈ s.engine.registered := by
        rw [hregistered]
        split
        · rename_i hgone
          simp [hnodup.mem_erase_iff, hgone]
        · rename_i hgone
          simp [hgone]
      refine console_kept hconsole hold howner (fun id hid hin => ?_) (fun id hid => ?_)
        fun hnone hin hstill => ?_
      · exact (hmem id).mpr ⟨fun hgone heq => hhanded ⟨hgone, heq ▸ hid⟩, hin⟩
      · exact ((hmem id).mp hid).2
      · have hrouted : new ≠ .routed := fun heq => hoffered ⟨heq, hnone⟩
        simpa [hleads.isUnrouted, hrouted] using hstill

end

/-- When a life goes on, the engine knows. -/
theorem turn (h : Lives settings recording s) {old new : Life} (hold : s.lives[number]? = some old)
    (hleads : old.Leads new) {engine : Engine} (hturns : s.engine.Turns number new engine)
    (hlost : new = .lost → ¬ settings.multipleValuesLimit < 2 ^ 59)
    (halive : new = .alive → settings.multipleValuesLimit < 2 ^ 59) :
    Lives settings recording ({ s with engine }.become number new) := by
  have hlife : s.life? (number + 1) = some old := hold
  have hbecome (id : Nat) : ({ s with engine }.become number new).life? id =
      if id = number + 1 then some new else s.life? id :=
    life?_become hold new id
  have hrecords (hrecording : recording = true) : s.engine.recording = true :=
    h.records.trans hrecording
  have hnodup : s.engine.registered.Nodup := h.sorted.imp Nat.ne_of_lt
  have hmember := h.registered (number + 1)
  rw [hlife] at hmember
  have hnone (id : Nat) (life : Life) (hnew : new ≠ life) (hid : s.life? id ≠ some life) :
      ({ s with engine }.become number new).life? id ≠ some life := by
    rw [hbecome]
    split
    · exact fun heq => hnew (Option.some.inj heq)
    · exact hid
  refine
    { configured := hturns.settings.trans h.configured
      records := hturns.recording.trans h.records
      orderly := hturns.orderly
      size := by simpa [become] using hturns.size.trans h.size
      place := fun other => ?_
      registered := fun id => ?_
      sorted := ?_
      born := fun hrecording id => ?_
      dead := fun hrecording id => ?_
      down := fun hdown => ?_
      last := fun hnot id hid => ?_
      console := fun hhandlers => h.console_turn hhandlers hold hleads hturns
      complete := fun hlimit id =>
        hnone id .lost (fun heq => hlost heq hlimit) (h.complete hlimit id)
      incomplete := fun hlimit id =>
        hnone id .alive (fun heq => hlimit (halive heq)) (h.incomplete hlimit id) }
  · rw [hbecome]
    refine (hturns.place other).trans ?_
    by_cases heq : other = number
    · simp [heq]
    · simp [heq, h.place]
  · rw [hbecome]
    change id ∈ engine.registered ↔ _
    rw [hturns.registered]
    by_cases hid : id = number + 1
    · subst hid
      by_cases hgone : new = .gone
      · simp [hgone, hnodup.mem_erase_iff, Life.isRegistered]
      · simp [hgone, hmember, hleads.registered, Life.isRegistered_eq new]
    · by_cases hgone : new = .gone
      · simp [hgone, hnodup.mem_erase_iff, hid, h.registered]
      · simp [hgone, hid, h.registered]
  · change engine.registered.Pairwise (· < ·)
    rw [hturns.registered]
    split
    · exact h.sorted.sublist List.erase_sublist
    · exact h.sorted
  · change id ∈ engine.births ↔ _
    rw [hturns.births (hrecords hrecording)]
    exact mem_turned hold (h.born hrecording) hleads.isBorn id
  · change id ∈ engine.deaths ↔ _
    rw [hturns.deaths (hrecords hrecording)]
    exact mem_turned hold (h.dead hrecording) hleads.isDead id
  · have hempty := h.down (hturns.isShutDown.symm.trans hdown)
    rw [hempty] at hmember
    simp [hleads.registered] at hmember
  · have hlength : ({ s with engine }.become number new).lives.length = s.lives.length := by
      simp [become]
    rw [hbecome] at hid
    rw [hlength]
    split at hid
    · rename_i heq
      refine h.last hnot ?_
      rw [heq, hlife, Option.any_some, hleads.isUnrouted]
      simpa using .inr hid
    · exact h.last hnot hid

/-- An engine without registered contexts is shut down. -/
theorem shutdown (h : Lives settings recording s) (hempty : s.engine.registered = []) :
    Lives settings recording
      { s with engine := { s.engine with isShutDown := true, consoleOwner := none } } where
  configured := h.configured
  records := h.records
  orderly := h.orderly.of_contexts rfl rfl
  size := h.size
  place := h.place
  registered := h.registered
  sorted := h.sorted
  born := h.born
  dead := h.dead
  down _ := hempty
  last := h.last
  console _ := by
    refine ⟨nofun, fun _ id hid => ?_, nofun⟩
    exact absurd hid (List.eq_nil_iff_forall_not_mem.mp hempty id)
  complete := h.complete
  incomplete := h.incomplete

end Lives

/-! ## One step after another -/

/-- What a step does to lives. -/
inductive Lived (settings : Settings) (s : EngineLife) : EngineLife → Prop where
  /-- Nothing. -/
  | same {engine : Engine} (h : s.engine.SameLives engine) (horderly : engine.Orderly) :
    Lived settings s { s with engine }
  | started (stack : OperandStack) (hdown : s.engine.isShutDown = false) :
    Lived settings s { s with engine := s.engine.withPlace stack }.started
  | turned {number : Nat} {old new : Life} {engine : Engine} (hold : s.lives[number]? = some old)
    (hleads : old.Leads new) (hturns : s.engine.Turns number new engine)
    (hlost : new = .lost → ¬ settings.multipleValuesLimit < 2 ^ 59)
    (halive : new = .alive → settings.multipleValuesLimit < 2 ^ 59) :
    Lived settings s ({ s with engine }.become number new)
  | shut (h : s.engine.registered = []) :
    Lived settings s
      { s with engine := { s.engine with isShutDown := true, consoleOwner := none } }

/-- An operation that does not concern lives, however it ends. -/
theorem lived_goOn {α : Type} {o : Outcome Engine EngineError α} (horderly : s.engine.Orderly)
    (hsame : o.Settles s.engine.SameLives) (hheeds : o.Settles (s.engine.Heeds False))
    (hpanic : o.isPanic = false) (hstep : s.goOn id id o = some s') : Lived settings s s' := by
  cases o with
  | done a engine =>
    cases hstep
    exact .same hsame (hheeds.orderly horderly)
  | failed error engine =>
    cases hstep
    exact .same hsame (hheeds.orderly horderly)
  | fatal stop engine =>
    cases stop with
    | panic check => cases hpanic
    | recorded message => cases hstep
    | fault => cases hstep

/-- A life that is over does not go on. -/
theorem lived_over {life : Life} (hold : s.lives[number]? = some life) (hover : life.inPlace = false)
    (horderly : s.engine.Orderly)
    (hstep : s.goOn (become number life.next) (become number .lost) (life.part number s.engine) =
      some s') : Lived settings s s' := by
  have hkept : s.become number life = s := by
    obtain ⟨hlt, rfl⟩ := List.getElem?_eq_some_iff.mp hold
    rw [become, List.set_getElem_self]
  have hdone : s.goOn (become number life.next) (become number .lost) (life.part number s.engine) =
      some (s.become number life) := by
    cases life with
    | gone | lost => rfl
    | _ => cases hover
  rw [hdone, hkept] at hstep
  cases hstep
  exact .same (.refl s.engine) horderly

/-- The next part of a life. -/
theorem step_advance {life : Life} (hold : s.lives[number]? = some life) :
    s.step (.advance number) =
      s.goOn (become number life.next) (become number .lost) (life.part number s.engine) := by
  simp only [step, hold]

/-- A creation starts a life, or is refused. -/
theorem Lives.lived_start (h : Lives settings recording s)
    (hstep : s.goOn started id (Engine.startContext s.engine) = some s') : Lived settings s s' := by
  rcases s.engine.startContext_cases with ⟨error, e', hended, hrefused⟩ | ⟨check, hended⟩ |
    ⟨stack, _, hdown, hended⟩
  · rw [hended] at hstep
    cases hstep
    exact .same hrefused.sameLives (h.orderly.of_aside hrefused.aside)
  · rw [hended] at hstep
    cases hstep
    exact .same (.refl s.engine) h.orderly
  · rw [hended] at hstep
    cases hstep
    exact .started stack hdown

/-- A life goes on with its next part, is lost, or is over. -/
theorem Lives.lived_advance (h : Lives settings recording s) {life : Life}
    (hold : s.lives[number]? = some life)
    (hstep : s.goOn (become number life.next) (become number .lost) (life.part number s.engine) =
      some s') : Lived settings s s' := by
  have hlife : s.life? (number + 1) = some life := hold
  have hplace := h.place number
  rw [hlife, Option.any_some] at hplace
  cases hthere : life.inPlace with
  | false => exact lived_over hold hthere h.orderly hstep
  | true =>
    obtain ⟨c, hc⟩ := Option.isSome_iff_exists.mp (hplace.trans hthere)
    rcases Engine.part_cases h.orderly hc hthere with ⟨e', hended, hturns, hlimit⟩ |
      ⟨e', hended, rfl, hturns, hlimit⟩ | ⟨message, e', hended⟩
    · rw [hended] at hstep
      cases hstep
      rw [h.configured] at hlimit
      refine .turned hold (.next life hthere) hturns (fun hlost => ?_) fun halive => hlimit ?_
      · cases life with
        | lost => cases hthere
        | _ => cases hlost
      · cases life <;> first | rfl | cases halive
    · rw [hended] at hstep
      cases hstep
      rw [h.configured] at hlimit
      exact .turned hold .lost hturns (fun _ => hlimit) (fun halive => by cases halive)
    · rw [hended] at hstep
      cases hstep

/-- A shutdown finds no context registered, or is refused. -/
theorem Lives.lived_shutdown (h : Lives settings recording s)
    (hstep : s.goOn id id (Engine.shutdown s.engine) = some s') : Lived settings s s' := by
  rcases s.engine.shutdown_cases with ⟨error, _, hended⟩ | ⟨_, hempty, hended⟩ | ⟨_, _, hended⟩
  · rw [hended] at hstep
    cases hstep
    exact .same (.noteViolation error)
      (h.orderly.of_aside (Engine.noteViolation_aside error s.engine))
  · rw [hended] at hstep
    cases hstep
    exact .shut hempty
  · rw [hended] at hstep
    cases hstep
    exact .same (.refl s.engine) h.orderly

/-- Every step starts a life, goes on with one, shuts the engine down or does nothing to lives. -/
theorem Lives.lived (h : Lives settings recording s) {step : LifeStep}
    (hstep : s.step step = some s') : Lived settings s s' := by
  cases step with
  | start => exact h.lived_start hstep
  | advance number =>
    cases hold : s.lives[number]? with
    | none =>
      simp only [EngineLife.step, hold] at hstep
      cases hstep
      exact .same (.refl s.engine) h.orderly
    | some life => exact h.lived_advance hold (step_advance hold ▸ hstep)
  | shutdown => exact h.lived_shutdown hstep
  | interrupt id =>
    refine lived_goOn h.orderly (s.engine.interruptContext_same id)
      (s.engine.interruptContext_heeds id) ?_ hstep
    rcases s.engine.interruptContext_cases id with ⟨error, _, hended⟩ | ⟨_, _, hended⟩ |
      ⟨_, _, hended⟩
    all_goals
      rw [hended]
      rfl
  | console =>
    refine lived_goOn h.orderly s.engine.consoleInterrupt_same s.engine.consoleInterrupt_heeds ?_ hstep
    simp only [Engine.consoleInterrupt, Op.bind_apply, Op.get]
    cases s.engine.consoleOwner <;> rfl
  | locks held =>
    cases hstep
    exact .same ⟨rfl, rfl, fun _ => rfl, rfl, rfl, rfl, rfl, rfl, rfl, rfl⟩
      (h.orderly.of_contexts rfl rfl)
  | work number use =>
    simp only [EngineLife.step] at hstep
    split at hstep
    · refine lived_goOn h.orderly (Engine.work_same use h.orderly number)
        ((EngineUse.onContext number use).heeds s.engine) ?_ hstep
      unfold Engine.onContext
      cases s.engine.context? number with
      | none => rfl
      | some c => simpa using use.isPanic_op c
    · cases hstep
      exact .same (.refl s.engine) h.orderly

/-- Every step keeps the agreement. -/
theorem Lives.step (h : Lives settings recording s) {step : LifeStep}
    (hstep : s.step step = some s') : Lives settings recording s' := by
  cases h.lived hstep with
  | same hsame horderly => exact h.same hsame horderly
  | started stack hdown => exact h.start stack hdown
  | turned hold hleads hturns hlost halive => exact h.turn hold hleads hturns hlost halive
  | shut hempty => exact h.shutdown hempty

/-- Every run keeps the agreement. -/
theorem Lives.after (h : Lives settings recording s) {steps : List LifeStep}
    (hafter : s.after steps = some s') : Lives settings recording s' := by
  induction steps generalizing s with
  | nil =>
    cases hafter
    exact h
  | cons step rest ih =>
    obtain ⟨t, hstep, hrest⟩ := Option.bind_eq_some_iff.mp hafter
    exact ih (h.step hstep) hrest

/-- A started engine has no contexts. -/
theorem Lives.begin {machine : Machine} {files : FileSystem} {heap : Heap} {e : Engine}
    (h : Engine.start machine settings files heap recording = .ok e) :
    Lives settings recording { engine := e } := by
  have horderly := Engine.orderly_of_start h
  obtain ⟨libraries, log, hloading, rfl⟩ := Engine.eq_of_start h
  have hbirths := List.filterMap_eq_nil_iff.mpr fun event hevent =>
    (Event.aloof_of_isLoading (hloading event hevent)).1
  have hdeaths := List.filterMap_eq_nil_iff.mpr fun event hevent =>
    (Event.aloof_of_isLoading (hloading event hevent)).2
  have hnone (id : Nat) : EngineLife.life?
      { engine := { machine, settings, files, heap, recording, libraries, log } } id = none := by
    cases id <;> rfl
  refine ⟨rfl, rfl, horderly, rfl, fun number => ?_, fun id => ?_, .nil, fun _ id => ?_,
    fun _ id => ?_, nofun, fun _ id hid => ?_, fun _ => ⟨nofun, fun _ _ => nofun, nofun⟩,
    fun _ id => ?_, fun _ id => ?_⟩
  · rw [hnone]
    rfl
  · simp [hnone]
  · simp [hnone, Engine.births, hbirths]
  · simp [hnone, Engine.deaths, hdeaths]
  · simp [hnone] at hid
  · simp [hnone]
  · simp [hnone]

/-- An engine that is shut down stays so, and hands out no more ids. -/
theorem Lives.down_after (h : Lives settings recording s) {steps : List LifeStep}
    (hdown : s.engine.isShutDown = true) (hafter : s.after steps = some s') :
    s'.engine.isShutDown = true ∧ s'.lives.length = s.lives.length := by
  induction steps generalizing s with
  | nil =>
    cases hafter
    exact ⟨hdown, rfl⟩
  | cons step rest ih =>
    obtain ⟨t, hstep, hrest⟩ := Option.bind_eq_some_iff.mp hafter
    have hstay : t.engine.isShutDown = true ∧ t.lives.length = s.lives.length := by
      cases h.lived hstep with
      | same hsame _ => exact ⟨hsame.isShutDown.trans hdown, rfl⟩
      | started stack hnot => simp [hdown] at hnot
      | turned _ _ hturns _ _ => exact ⟨hturns.isShutDown.trans hdown, by simp [become]⟩
      | shut hempty => exact ⟨rfl, rfl⟩
    obtain ⟨hdown', hlength⟩ := ih (h.step hstep) hstay.1 hrest
    exact ⟨hdown', hlength.trans hstay.2⟩

end EngineLife

end CallEngine
