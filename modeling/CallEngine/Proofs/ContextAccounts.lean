import CallEngine.Proofs.SharedEngine

/-!
# Contexts that are accounted for

What an engine answers about its contexts, after every run of threads that share it: which ids it has
registered, which are in its log, which ids it hands out, when it can be shut down and which contexts
can be interrupted. When no creation and no end is in progress, the registered contexts are those
that are alive, and the console is with the oldest of them unless creations have overlapped.
-/

namespace CallEngine

namespace EngineLife

variable {settings : Settings} {recording : Bool} {s s' : EngineLife} {number : Nat}

/-! ## Whole creations and ends -/

/-- The steps of a creation. -/
def creation (number : Nat) : List LifeStep := .start :: List.replicate 4 (.advance number)

/-- The steps of the end of a context. -/
def ending (number : Nat) : List LifeStep := List.replicate 3 (.advance number)

/-- One part of a life, and then the others. -/
theorem after_advance (life : Life) (hlt : number < s.lives.length) {engine : Engine}
    (hpart : life.part number s.engine = .done () engine) (rest : List LifeStep) :
    (s.become number life).after (.advance number :: rest) =
      ({ s with engine }.become number life.next).after rest := by
  have hold : (s.become number life).lives[number]? = some life := by simp [become, hlt]
  have hengine : (s.become number life).engine = s.engine := rfl
  rw [after, step_advance hold, hengine, hpart]
  simp [goOn, become]

/-- A creation that nothing comes between is the run of its parts. -/
theorem Lives.after_creation (h : Lives settings recording s) {id : Nat} {e : Engine}
    (hcreated : Engine.createContext s.engine = .done id e) :
    s.after (creation s.lives.length) =
      some ({ s with engine := e }.started.become s.lives.length .alive) := by
  obtain ⟨number, e₀, hstart, hrest⟩ := Op.bind_eq_done hcreated
  obtain ⟨_, e₁, hannounced, hrest⟩ := Op.bind_eq_done hrest
  obtain ⟨_, e₂, hguarded, hrest⟩ := Op.bind_eq_done hrest
  obtain ⟨_, e₃, hrouted, hfinished⟩ := Op.bind_eq_done hrest
  have hnumber : number = s.lives.length := by
    rw [← h.size]
    rcases s.engine.startContext_cases with ⟨error, e', hended, _⟩ | ⟨check, hended⟩ |
      ⟨stack, _, _, hended⟩
    · rw [hended] at hstart
      cases hstart
    · rw [hended] at hstart
      cases hstart
    · rw [hended] at hstart
      cases hstart
      rfl
  subst hnumber
  have hcompleted : Life.part s.lives.length .routed e₃ = .done () e := by
    rw [Life.part, Op.bind_apply, hfinished]
    rfl
  have hlt (engine : Engine) : s.lives.length < ({ s with engine }.started).lives.length := by
    simp [started]
  have hbegun : s.after (creation s.lives.length) =
      ({ s with engine := e₀ }.started.become s.lives.length .registered).after
        (List.replicate 4 (.advance s.lives.length)) := by
    rw [creation, EngineLife.after, EngineLife.step, hstart]
    simp [goOn, started, become]
  rw [hbegun]
  refine (after_advance .registered (hlt e₀) hannounced _).trans ?_
  refine (after_advance .announced (hlt e₁) hguarded _).trans ?_
  refine (after_advance .guarded (hlt e₂) hrouted _).trans ?_
  exact after_advance .routed (hlt e₃) hcompleted []

/-- The end of a context that nothing comes between is the run of its parts. -/
theorem Lives.after_ending (h : Lives settings recording s) (halive : s.lives[number]? = some .alive)
    {e : Engine} (hdropped : Engine.dropContext number s.engine = .done () e) :
    s.after (ending number) = some ({ s with engine := e }.become number .gone) := by
  obtain ⟨hlt, _⟩ := List.getElem?_eq_some_iff.mp halive
  have hplace : (s.engine.context? number).isSome = true := by
    rw [h.place, show s.life? (number + 1) = some .alive from halive]
    rfl
  have hparts : Engine.dropContext number s.engine = (Engine.announceRemoval number >>= fun _ =>
      Engine.announceEnd number >>= fun _ => Engine.unregister number) s.engine := by
    simp only [Engine.dropContext, Op.bind_apply, Op.get, hplace, if_true]
  obtain ⟨_, e₁, hremoved, hrest⟩ := Op.bind_eq_done (hparts.symm.trans hdropped)
  obtain ⟨_, e₂, hended, hfinished⟩ := Op.bind_eq_done hrest
  have hkept : s.become number .alive = s := by
    obtain ⟨hlt, hget⟩ := List.getElem?_eq_some_iff.mp halive
    rw [become, ← hget, List.set_getElem_self]
  have hbegun : s.after (ending number) = (s.become number .alive).after (ending number) := by
    rw [hkept]
  rw [hbegun]
  refine (after_advance .alive hlt hremoved _).trans ?_
  have hlt' (engine : Engine) : number < ({ s with engine } : EngineLife).lives.length := hlt
  refine (after_advance .unguarded (hlt' e₁) hended _).trans ?_
  exact after_advance .destroyed (hlt' e₂) hfinished []

/-! ## Contexts that are accounted for -/

/-- No creation and no end is in progress, and no context was lost. -/
def Settled (s : EngineLife) : Prop := ∀ life ∈ s.lives, life = .alive ∨ life = .gone

/-- What is registered, what is recorded and where the console is, when all lives are settled. -/
structure Agreed (settings : Settings) (recording : Bool) (s : EngineLife) : Prop where
  registered (id : Nat) : id ∈ s.engine.registered ↔ s.life? id = some .alive
  recorded (h : recording = true) (id : Nat) :
    id ∈ s.engine.registered ↔ (∃ slots, .contextCreated id slots ∈ s.engine.log) ∧
      .contextDestroyed id ∉ s.engine.log
  unowned (h : settings.signalHandlers = true) :
    s.engine.consoleOwner = none ↔ s.engine.registered = []
  /-- Unless creations have overlapped, the console is with the oldest context. -/
  oldest (h : settings.signalHandlers = true) (hnot : s.overlapped = false) (id : Nat) :
    s.engine.consoleOwner = some id ↔
      id ∈ s.engine.registered ∧ ∀ other ∈ s.engine.registered, id ≤ other

/-- What an engine knows about its contexts is what is so, and what is asked of it is answered
accordingly. -/
structure Accounted (settings : Settings) (recording : Bool) (s : EngineLife) : Prop where
  registered (id : Nat) : id ∈ s.engine.registered ↔ (s.life? id).any Life.isRegistered = true
  unique : s.engine.registered.Nodup
  recorded (h : recording = true) (id : Nat) :
    ((∃ slots, .contextCreated id slots ∈ s.engine.log) ∧ .contextDestroyed id ∉ s.engine.log) ↔
      (s.life? id).any (fun life => life.isBorn && !life.isDead) = true
  /-- Ids are handed out one after the other, and to those only who are registered. -/
  handed : s.engine.nextContext = s.lives.length + 1
  /-- A creation is the run of its parts. -/
  creates {id : Nat} {e : Engine} (h : Engine.createContext s.engine = .done id e) :
    id = s.engine.nextContext ∧ e.nextContext = id + 1 ∧ e.registered = s.engine.registered ++ [id] ∧
      s.after (creation s.lives.length) =
        some ({ s with engine := e }.started.become s.lives.length .alive)
  /-- A creation that is refused leaves no trace. -/
  refused {error : EngineError} {e : Engine} (h : Engine.createContext s.engine = .failed error e) :
    s.engine.SameLives e ∧ e.contexts = s.engine.contexts
  /-- A creation that is stopped leaves no trace, unless there can be no channel of values. -/
  stopped {stop : Stop} {e : Engine} (h : Engine.createContext s.engine = .fatal stop e) :
    e = s.engine ∨ ¬ settings.multipleValuesLimit < 2 ^ 59 ∧
      e.registered = s.engine.registered ++ [s.engine.nextContext] ∧
      e.context? s.lives.length = none
  /-- The end of a context is the run of its parts. -/
  drops {number : Nat} (halive : s.lives[number]? = some .alive) {e : Engine}
    (h : Engine.dropContext number s.engine = .done () e) :
    s.after (ending number) = some ({ s with engine := e }.become number .gone)
  shutdown : (∃ e, Engine.shutdown s.engine = .done () e) ↔
    s.engine.LockFree ∧ s.engine.registered = []
  /-- After a shutdown, no context is registered again and no id is handed out. -/
  shut {e : Engine} (h : Engine.shutdown s.engine = .done () e) {later : List LifeStep}
    {s' : EngineLife} (hlater : { s with engine := e }.after later = some s') :
    s'.engine.registered = [] ∧ s'.engine.nextContext = s.engine.nextContext
  interruptible (id : Nat) : (∃ e, Engine.interruptContext id s.engine = .done true e) ↔
    s.engine.LockFree ∧ id ∈ s.engine.registered
  /-- Where there is no such context, the answer is that there is none. -/
  missing (id : Nat) : (∃ e, Engine.interruptContext id s.engine = .done false e) ↔
    s.engine.LockFree ∧ id ∉ s.engine.registered
  /-- An interrupt becomes pending on the context it is meant for, and on no other. -/
  interrupted {id : Nat} {e : Engine}
    (h : Engine.interruptContext id s.engine = .done true e) {number : Nat} {c : Context}
    (hc : s.engine.context? number = some c) :
    ∃ c', e.context? number = some c' ∧
      (c.id = id → c' = c.post .user ∧ c'.guard.pending.contains .user = true) ∧
      (c.id ≠ id → c' = c)
  /-- The console is with a registered context, and with none only before it is offered. -/
  console (h : settings.signalHandlers = true) : s.Console
  complete (h : settings.multipleValuesLimit < 2 ^ 59) : .lost ∉ s.lives
  settled (h : s.Settled) : s.Agreed settings recording

namespace Lives

/-- The lives are those of the ids that were handed out. -/
theorem mem_lives {life : Life} (h : life ∈ s.lives) : ∃ id, s.life? id = some life := by
  obtain ⟨number, hnumber⟩ := List.mem_iff_getElem?.mp h
  exact ⟨number + 1, hnumber⟩

/-- What was recorded about a context tells how far its life is. -/
theorem recorded (h : Lives settings recording s) (hrecording : recording = true) (id : Nat) :
    ((∃ slots, .contextCreated id slots ∈ s.engine.log) ∧ .contextDestroyed id ∉ s.engine.log) ↔
      (s.life? id).any (fun life => life.isBorn && !life.isDead) = true := by
  have hborn : (∃ slots, .contextCreated id slots ∈ s.engine.log) ↔ id ∈ s.engine.births := by
    rw [Engine.births, List.mem_filterMap]
    constructor
    · rintro ⟨slots, hmem⟩
      exact ⟨_, hmem, rfl⟩
    · rintro ⟨event, hmem, hevent⟩
      cases event <;> simp only [Event.createdOn, Option.some.injEq, reduceCtorEq] at hevent
      subst hevent
      exact ⟨_, hmem⟩
  have hdead : .contextDestroyed id ∈ s.engine.log ↔ id ∈ s.engine.deaths := by
    rw [Engine.deaths, List.mem_filterMap]
    constructor
    · intro hmem
      exact ⟨_, hmem, rfl⟩
    · rintro ⟨event, hmem, hevent⟩
      cases event <;> simp only [Event.destroyedOn, Option.some.injEq, reduceCtorEq] at hevent
      subst hevent
      exact hmem
  rw [hborn, hdead, h.born hrecording, h.dead hrecording]
  cases s.life? id with
  | none => simp
  | some life => simp

/-- What a creation leaves behind that is not refused. -/
theorem created (h : Lives settings recording s) :
    (∃ error e, Engine.createContext s.engine = .failed error e ∧ s.engine.Refused e) ∨
    (∃ check, Engine.createContext s.engine = .fatal (.panic check) s.engine) ∨
    (∃ e, e.registered = s.engine.registered ++ [s.engine.nextContext] ∧
      e.nextContext = s.engine.nextContext + 1 ∧
      (Engine.createContext s.engine = .done s.engine.nextContext e ∨
        Engine.createContext s.engine = .fatal (.panic .capacity) e ∧
        ¬ settings.multipleValuesLimit < 2 ^ 59 ∧ e.context? s.lives.length = none)) := by
  rcases s.engine.createContext_cases with ⟨error, e, hended, hrefused⟩ | ⟨check, hended⟩ |
    ⟨stack, _, _, hended⟩
  · exact .inl ⟨error, e, hended, hrefused⟩
  · exact .inr (.inl ⟨check, hended⟩)
  · refine .inr (.inr ?_)
    rw [h.configured] at hended
    by_cases hlimit : settings.multipleValuesLimit < 2 ^ 59
    · rw [if_pos hlimit] at hended
      exact ⟨_, by rw [Engine.withCreation_eq], by rw [Engine.withCreation_eq], .inl hended⟩
    · rw [if_neg hlimit] at hended
      refine ⟨_, by rw [Engine.withCreation_eq], by rw [Engine.withCreation_eq],
        .inr ⟨hended, hlimit, ?_⟩⟩
      rw [Engine.withCreation_eq, ← h.size]
      simp [Engine.context?]

/-- An engine that is shut down never has contexts again. -/
theorem shut (h : Lives settings recording s) {e : Engine}
    (hshut : Engine.shutdown s.engine = .done () e) {later : List LifeStep}
    (hlater : { s with engine := e }.after later = some s') :
    s'.engine.registered = [] ∧ s'.engine.nextContext = s.engine.nextContext := by
  have hstep : s.step .shutdown = some { s with engine := e } := by
    simp [EngineLife.step, hshut, goOn]
  have hdown : e.isShutDown = true := by
    rcases s.engine.shutdown_cases with ⟨error, _, hended⟩ | ⟨_, _, hended⟩ | ⟨_, _, hended⟩
    · simp [hended] at hshut
    · rw [hended] at hshut
      cases hshut
      rfl
    · simp [hended] at hshut
  have hlives := h.step hstep
  obtain ⟨hdown', hlength⟩ := hlives.down_after hdown hlater
  have hlives' := hlives.after hlater
  exact ⟨hlives'.down hdown', by rw [hlives'.fresh, h.fresh, hlength]⟩

/-- When all lives are settled, what is registered is what is alive, by the log too, and the console
is with one of them. -/
theorem agreed (h : Lives settings recording s) (hsettled : s.Settled) :
    s.Agreed settings recording := by
  have hlife {id : Nat} {life : Life} (hlife : s.life? id = some life) :
      life = .alive ∨ life = .gone := by
    cases id with
    | zero => cases hlife
    | succ number => exact hsettled life (List.mem_of_getElem? hlife)
  have hregistered (id : Nat) : id ∈ s.engine.registered ↔ s.life? id = some .alive := by
    rw [h.registered]
    cases hid : s.life? id with
    | none => simp
    | some life => rcases hlife hid with rfl | rfl <;> simp [Life.isRegistered]
  refine ⟨hregistered, fun hrecording id => ?_, fun hhandlers => ?_, fun hhandlers hnot id => ?_⟩
  · rw [h.recorded hrecording, hregistered]
    cases hid : s.life? id with
    | none => simp
    | some life => rcases hlife hid with rfl | rfl <;> simp [Life.isBorn, Life.isDead]
  · constructor
    · intro hnone
      refine List.eq_nil_iff_forall_not_mem.mpr fun id hid => ?_
      have hunrouted := (h.console hhandlers).unowned hnone hid
      rw [(hregistered id).mp hid] at hunrouted
      cases hunrouted
    · intro hempty
      refine Option.eq_none_iff_forall_ne_some.mpr fun id howner => ?_
      have howned := (h.console hhandlers).owned howner
      rw [hempty] at howned
      cases howned
  · constructor
    · intro howner
      exact ⟨(h.console hhandlers).owned howner,
        fun other hother => (h.console hhandlers).oldest hnot howner hother⟩
    · rintro ⟨hid, hle⟩
      cases howner : s.engine.consoleOwner with
      | none =>
        have hunrouted := (h.console hhandlers).unowned howner hid
        rw [(hregistered id).mp hid] at hunrouted
        cases hunrouted
      | some owner =>
        have howned := (h.console hhandlers).owned howner
        have holdest := (h.console hhandlers).oldest hnot howner hid
        rw [Nat.le_antisymm holdest (hle owner howned)]

/-- What agrees is accounted for. -/
theorem accounted (h : Lives settings recording s) : Accounted settings recording s where
  registered := h.registered
  unique := h.sorted.imp Nat.ne_of_lt
  recorded := h.recorded
  handed := h.fresh
  creates {id e} hcreated := by
    rcases h.created with ⟨error, e', hended, _⟩ | ⟨check, hended⟩ |
      ⟨e', hregistered, hnext, hended | ⟨hended, _⟩⟩
    · simp [hended] at hcreated
    · simp [hended] at hcreated
    · have hrun := h.after_creation hcreated
      rw [hended] at hcreated
      cases hcreated
      exact ⟨rfl, hnext, hregistered, hrun⟩
    · simp [hended] at hcreated
  refused {error e} hrefused := by
    rcases h.created with ⟨error, e', hended, hleft⟩ | ⟨check, hended⟩ |
      ⟨e', _, _, hended | ⟨hended, _⟩⟩
    · rw [hended] at hrefused
      cases hrefused
      exact ⟨hleft.sameLives, hleft.aside.contexts⟩
    · simp [hended] at hrefused
    · simp [hended] at hrefused
    · simp [hended] at hrefused
  stopped {stop e} hstopped := by
    rcases h.created with ⟨error, e', hended, _⟩ | ⟨check, hended⟩ |
      ⟨e', hregistered, _, hended | ⟨hended, hlimit, hnone⟩⟩
    · simp [hended] at hstopped
    · rw [hended] at hstopped
      cases hstopped
      exact .inl rfl
    · simp [hended] at hstopped
    · rw [hended] at hstopped
      cases hstopped
      exact .inr ⟨hlimit, hregistered, hnone⟩
  drops halive _ hdropped := h.after_ending halive hdropped
  shutdown := by
    rcases s.engine.shutdown_cases with ⟨error, hlock, hended⟩ | ⟨hfree, hempty, hended⟩ |
      ⟨_, hsome, hended⟩
    · simp [hended, Engine.LockFree, hlock]
    · simp [hended, hfree, hempty]
    · simp [hended, hsome]
  shut hshut _ _ hlater := h.shut hshut hlater
  interruptible id := by
    rcases s.engine.interruptContext_cases id with ⟨error, hlock, hended⟩ |
      ⟨hfree, hthere, hended⟩ | ⟨_, hgone, hended⟩
    · simp [hended, Engine.LockFree, hlock]
    · simp [hended, hfree, hthere]
    · simp [hended, hgone]
  missing id := by
    rcases s.engine.interruptContext_cases id with ⟨error, hlock, hended⟩ | ⟨_, hthere, hended⟩ |
      ⟨hfree, hgone, hended⟩
    · simp [hended, Engine.LockFree, hlock]
    · simp [hended, hthere]
    · simp [hended, hfree, hgone]
  interrupted hdone _ _ hc := Engine.context?_of_interrupted hdone hc
  console := h.console
  complete hlimit hlost := by
    obtain ⟨id, hid⟩ := mem_lives hlost
    exact h.complete hlimit id hid
  settled := h.agreed

end Lives

/-- In every run of an engine that was started, as long as it does not stop, the contexts are
accounted for: whatever threads create, drop, shut down and interrupt, and whatever locks they hold
meanwhile. -/
theorem contexts_accounted {machine : Machine} {files : FileSystem} {heap : Heap} {e : Engine}
    (hstart : Engine.start machine settings files heap recording = .ok e) {steps : List LifeStep}
    (hafter : EngineLife.after { engine := e } steps = some s) : Accounted settings recording s :=
  ((Lives.begin hstart).after hafter).accounted

/-- Settings of small contexts that receive console interrupts. -/
def routed : Settings := { Settings.small with interrupts := some { signalHandlers := some true } }

/-- An engine that was just started, on a machine with checked sums. -/
def begun (settings : Settings) : EngineLife where
  engine :=
    { machine := .bounded true 0x10000000000, settings
      libraries := LibraryLoader.create {} settings.libraryPaths }

/-- Two contexts are created, a third one is refused because the lock is held, and the first one is
dropped: the second one is alive, and the console is its own. -/
theorem handover_accounted :
    let steps := creation 0 ++ creation 1 ++ [.locks { domains := [0] }, .start, .locks {}] ++ ending 0
    ∃ s, (begun routed).after steps = some s ∧ s.lives = [.gone, .alive] ∧
      s.engine.registered = [2] ∧ s.engine.consoleOwner = some 2 ∧ Accounted routed true s := by
  have hstart :
      Engine.start (.bounded true 0x10000000000) routed {} {} true = .ok (begun routed).engine :=
    rfl
  have hends : ((begun routed).after (creation 0 ++ creation 1 ++
      [.locks { domains := [0] }, .start, .locks {}] ++ ending 0)).map
        (fun s => (s.lives, s.engine.registered, s.engine.consoleOwner)) =
      some ([.gone, .alive], [2], some 2) := by decide +kernel
  obtain ⟨s, hs, hheld⟩ := Option.map_eq_some_iff.mp hends
  obtain ⟨hlives, hregistered, hconsole⟩ : s.lives = [.gone, .alive] ∧ s.engine.registered = [2] ∧
      s.engine.consoleOwner = some 2 := by simpa using hheld
  exact ⟨s, hs, hlives, hregistered, hconsole, contexts_accounted hstart hs⟩

/-- Settings that ask for a channel of more values than there can be memory for. -/
def boundless : Settings :=
  { Settings.small with
    frames := some
      { smallCallThreshold := some 2
        callArgumentsLimit := some 8
        multipleValuesLimit := some (2 ^ 59) } }

/-- Two creations overlap, and the console is offered to the younger context first: both contexts are
alive, and the console is not with the older one. A creation stops because there can be no channel of
values: the context is not there, and stays registered, so that the engine cannot be shut down. -/
theorem console_misled_and_context_lost :
    (∃ s, (begun routed).after ([.start, .start] ++ List.replicate 4 (.advance 1) ++
        List.replicate 4 (.advance 0)) = some s ∧
      s.lives = [.alive, .alive] ∧ s.engine.registered = [1, 2] ∧ s.engine.consoleOwner = some 2) ∧
    boundless.validate = .ok () ∧
    (∃ s, (begun boundless).after (creation 0) = some s ∧ s.lives = [.lost] ∧
      s.engine.context? 0 = none ∧ s.engine.registered = [1] ∧
      (Engine.shutdown s.engine).isFailed = true) := by
  have hmisled : ((begun routed).after ([.start, .start] ++ List.replicate 4 (.advance 1) ++
      List.replicate 4 (.advance 0))).map
        (fun s => (s.lives, s.engine.registered, s.engine.consoleOwner)) =
      some ([.alive, .alive], [1, 2], some 2) := by decide +kernel
  have hlost : ((begun boundless).after (creation 0)).map
      (fun s => (s.lives, (s.engine.context? 0).isNone, s.engine.registered,
        (Engine.shutdown s.engine).isFailed)) = some ([.lost], true, [1], true) := by decide +kernel
  obtain ⟨s, hs, hends⟩ := Option.map_eq_some_iff.mp hmisled
  obtain ⟨s', hs', hends'⟩ := Option.map_eq_some_iff.mp hlost
  refine ⟨⟨s, hs, ?_⟩, rfl, s', hs', ?_⟩
  · simpa using hends
  · simpa using hends'

end EngineLife

end CallEngine
