import CallEngine.Proofs.ReportedValues

/-!
# The values of a call

A callee reports its values and returns their number. The number is what a caller is given, and the
values are what it can read off the context. Here it is shown when the two agree. A callee that
reports values after the last frame it has opened makes them agree. A callee that does nothing of
the kind, and returns none, makes them agree if its frame is a small one, which leaves nothing
reported. A large frame leaves the values of an earlier call, so that the caller is told that there
are none and still finds them.
-/

namespace CallEngine

/-! ## What a callee owes -/

/-- Whether neither values were reported nor a frame was opened. -/
def silent : List Entry → Bool
  | [] => true
  | .opened _ _ :: _ => false
  | .stored _ _ _ :: earlier => silent earlier
  | .reported _ :: _ => false

/-- The number of values that a callee has to return for what happened while it ran, the latest
first: that of the values reported last, and zero if it was silent. No number is right if values
were reported only before a frame was opened. -/
def owed : List Entry → Option Nat
  | [] => some 0
  | .opened _ _ :: _ => none
  | .stored _ _ _ :: earlier => owed earlier
  | .reported values :: _ => some values.length

/-- What is reported after a callee returned what it owes: as many values as it returned, or what was
reported before if it was silent. -/
theorem report_of_owed {entries : List Entry} {k : Nat} (h : owed entries = some k)
    (earlier : History) :
    (silent entries = false ∧ (History.report (entries ++ earlier)).length = k) ∨
      (silent entries = true ∧ k = 0 ∧
        History.report (entries ++ earlier) = History.report earlier) := by
  induction entries with
  | nil =>
    cases h
    exact .inr ⟨rfl, rfl, rfl⟩
  | cons entry entries ih =>
    cases entry with
    | opened f args => cases h
    | stored f index value => exact ih h
    | reported values =>
      cases h
      exact .inl ⟨rfl, rfl⟩

namespace Tracked

variable {settings : Settings} {s s' : Tracked} {f : Frame} {args : List Value} {k : Nat}

/-- A callee returns the number of values that it owes, whenever it returns one. -/
def KeepsContract (settings : Settings) (callee : Frame → Routine) : Prop :=
  ∀ f s k s', Reachable settings s → (callee f).run s = .done k s' →
    ∃ entries, s'.history = entries ++ s.history ∧ owed entries = some k

/-! ## The steps of a call -/

/-- A context can be in the state in which a routine has left it. -/
theorem Reachable.run (h : Reachable settings s) {r : Routine} (hdone : r.run s = .done k s') :
    Reachable settings s' := by
  obtain ⟨first, hfirst, hlater⟩ := h
  have hstep : Step s (r.run s).state := .routine r (by rw [hdone]; rfl)
  rw [hdone] at hstep
  exact ⟨first, hfirst, hlater.tail hstep⟩

/-- A context can be in the state in which a request has left it. -/
theorem Reachable.request (h : Reachable settings s) {q : Request} (hdone : q.run s = .done () s') :
    Reachable settings s' := by
  have hrun : (Routine.request q fun _ _ => .finish (.ok 0)).run s = .done 0 s' := by
    simp [Routine.run, Op.bind_apply, Op.attempt, Op.get, Op.ofExcept, hdone]
  exact h.run hrun

/-- A context can be in the state in which a call has left it. -/
theorem Reachable.funcall (h : Reachable settings s) {callee : Frame → Routine}
    (hdone : Tracked.funcall (fun f => (callee f).run) args s = .done k s') :
    Reachable settings s' := by
  have hrun : (Routine.funcall callee args fun _ _ => .finish (.ok 0)).run s = .done 0 s' := by
    simp [Routine.run, Op.bind_apply, Op.attempt, Op.get, Op.ofExcept, hdone]
  exact h.run hrun

/-- An operation of the context enters nothing into the history. -/
theorem history_of_within {α : Type} {op : ContextOp EngineError α} {a : α}
    (h : within.run op s = .done a s') : s'.history = s.history := by
  have hkept : (within.run op s).Settles fun t => t.history = s.history := by
    refine Outcome.settles_mapState.mpr ?_
    cases op s.context <;> trivial
  rw [h] at hkept
  exact hkept

/-- A safe point at which nothing is delivered is quiet. -/
theorem quiet_of_safePoint (h : within.safePoint s = .done () s') : s.context.Quiet s'.context := by
  have hquiet : (within.safePoint s).Settles fun t => s.context.Quiet t.context :=
    Outcome.settles_mapState.mpr (Op.settles_mapError.mpr (Context.safePoint_quiet s.context))
  rw [h] at hquiet
  exact hquiet

/-- The frame that was opened last can be named. -/
theorem frame?_opened (h : s.history = .opened f args :: s'.history) :
    s.history.frame? f.serial = some f := by
  simp [History.frame?, h]

/-- While a callee runs that returns what it owes, the history grows by what it did. -/
theorem history_of_apply {callee : Frame → Routine} (hcallee : KeepsContract settings callee)
    (h : Reachable settings s) (hframe : s.history.frame? f.serial = some f)
    (hdone : within.apply (fun f => (callee f).run) f s = .done k s') :
    ∃ entries, s'.history = entries ++ s.history ∧ owed entries = some k := by
  obtain ⟨count, closed, hbody, hrest⟩ := Op.bind_eq_done hdone
  obtain ⟨_, left, hsafe, hreturn⟩ := Op.bind_eq_done hrest
  cases hreturn
  obtain ⟨ran, hrun, hclose⟩ := Op.thenAlways_eq_done hbody
  obtain ⟨_, active, hactivate, hinvoke⟩ := Op.bind_eq_done hrun
  have hactive : Reachable settings active := by
    refine h.request (q := .activate f.serial) ?_
    change onFrame f.serial () _ s = _
    rw [onFrame, hframe]
    exact hactivate
  obtain ⟨entries, hentries, howed⟩ := hcallee f active k ran hactive hinvoke
  refine ⟨entries, ?_, howed⟩
  rw [history_of_within hsafe, history_of_within hclose, hentries, history_of_within hactivate]

/-- A call of a callee that returns what it owes enters the frame of the call into the history, and
then what the callee did. -/
theorem history_of_funcall {callee : Frame → Routine} (hcallee : KeepsContract settings callee)
    (h : Reachable settings s)
    (hdone : funcall (fun f => (callee f).run) args s = .done k s') :
    ∃ f entries, s'.history = entries ++ .opened f args :: s.history ∧ owed entries = some k ∧
      (f.isBufferBacked = true ↔ args.length < s.context.smallCallThreshold) := by
  rw [funcall_eq] at hdone
  obtain ⟨_, polled, hsafe, hrest⟩ := Op.bind_eq_done hdone
  obtain ⟨f, opened, hopen, happly⟩ := Op.bind_eq_done hrest
  have hopened : Opened polled args f opened := (hopen ▸ openFrameWith_ends args polled).opened
  have hpolled : Reachable settings polled := h.request (q := .safePoint) hsafe
  have hreachable : Reachable settings opened := by
    refine hpolled.request (q := .openFrameWith args) ?_
    rw [Request.run, Op.bind_apply, hopen]
    rfl
  obtain ⟨entries, hentries, howed⟩ :=
    history_of_apply hcallee hreachable (frame?_opened hopened.history) happly
  refine ⟨f, entries, ?_, howed, ?_⟩
  · rw [hentries, hopened.history, history_of_within hsafe]
  · obtain ⟨_, _, _, _, hquiet⟩ := quiet_of_safePoint hsafe
    have hthreshold : polled.context.smallCallThreshold = s.context.smallCallThreshold := by
      rw [hquiet]
    rw [← hthreshold]
    cases hopened with
    | buffer hsmall => exact iff_of_true rfl hsmall
    | stack hlarge =>
      have hstack := Frame.isBufferBacked_stack (f := polled.context.stackFrame args.length) rfl
      exact iff_of_false (by simp [hstack]) (Nat.not_lt.mpr hlarge)

/-! ## What a caller finds -/

/-- What a caller finds after a call that was given `k` as the number of values. -/
structure Returned (s s' : Tracked) (args : List Value) (entries : List Entry) (k : Nat) : Prop where
  /-- There are as many values as were returned, unless the callee of a large call was silent and
  something was reported before. -/
  count_iff : s'.context.values.count = k ↔
    args.length < s.context.smallCallThreshold ∨ silent entries = false ∨
      s.context.values.count = 0
  primary : s'.context.values.count = k → k = 0 → s'.context.values.primary = .nil
  /-- The callee of a large call that was silent leaves what was reported before. -/
  leftOver : s.context.smallCallThreshold ≤ args.length → silent entries = true →
    k = 0 ∧ s'.context.Reports s.history.report

/-- After a call of a callee that returns what it owes, a caller finds as many values as it was told,
but for those that a large call of a silent callee leaves from before. -/
theorem returned_of_funcall {callee : Frame → Routine} (h : Reachable settings s)
    (hcallee : KeepsContract settings callee)
    (hdone : funcall (fun f => (callee f).run) args s = .done k s') :
    ∃ f entries, s'.history = entries ++ .opened f args :: s.history ∧
      Returned s s' args entries k := by
  obtain ⟨f, entries, hhistory, howed, hsmall⟩ := history_of_funcall hcallee h hdone
  have hbefore := h.reportKept
  have hafter : s'.context.Reports (History.report (entries ++ .opened f args :: s.history)) :=
    hhistory ▸ (h.funcall hdone).reportKept
  have hprimary : s'.context.values.count = k → k = 0 → s'.context.values.primary = .nil := by
    intro hcount hzero
    rw [ValueChannel.primary, if_pos (hcount.trans hzero)]
  refine ⟨f, entries, hhistory, ?_⟩
  rcases report_of_owed howed (.opened f args :: s.history) with
    ⟨hspoke, hlength⟩ | ⟨hsilent, rfl, hreport⟩
  · have hcount : s'.context.values.count = k := hafter.count.trans hlength
    refine ⟨iff_of_true hcount (.inr (.inl hspoke)), hprimary, fun _ hsilent => ?_⟩
    rw [hspoke] at hsilent
    cases hsilent
  · -- A silent callee leaves what the opening of its frame has left, and only a frame in the buffer
    -- leaves nothing reported.
    rw [hreport, History.report] at hafter
    by_cases hbuffer : f.isBufferBacked = true
    · have hlength := hsmall.mp hbuffer
      rw [if_pos hbuffer] at hafter
      exact ⟨iff_of_true hafter.count (.inl hlength), hprimary,
        fun hlarge _ => absurd hlength (Nat.not_lt.mpr hlarge)⟩
    · rw [if_neg hbuffer] at hafter
      refine ⟨?_, hprimary, fun _ _ => ⟨rfl, hafter⟩⟩
      rw [hafter.count, ← hbefore.count, hsilent, ← hsmall]
      simp [hbuffer]

/-- A routine that reports values and returns their number. -/
def reporting (values : List Value) : Routine :=
  .request (.setValues values) fun answer _ => .finish (answer.map fun _ => values.length)

/-- A routine that reports values returns what it owes. -/
theorem reporting_keepsContract (settings : Settings) (values : List Value) :
    KeepsContract settings fun _ => reporting values := by
  intro f s k s' _ hdone
  cases hset : s.context.values.set values with
  | ok channel =>
    have hrequest : (Request.setValues values).run s = .done ()
        { context := { s.context with values := channel }
          history := .reported values :: s.history } := by
      rw [Request.run, Op.bind_apply, within_frame_apply, Context.setValues_apply, hset]
      rfl
    simp only [reporting, Routine.run, Op.bind_apply, Op.attempt, hrequest, Op.get] at hdone
    cases hdone
    exact ⟨[.reported values], rfl, rfl⟩
  | error e =>
    have hrequest : (Request.setValues values).run s = .failed (.frame e) s := by
      rw [Request.run, Op.bind_apply, within_frame_apply, Context.setValues_apply, hset]
    simp only [reporting, Routine.run, Op.bind_apply, Op.attempt, hrequest, Op.get] at hdone
    cases hdone

/-- A routine that does nothing and returns no value returns what it owes. -/
theorem finish_keepsContract (settings : Settings) :
    KeepsContract settings fun _ => .finish (.ok 0) := by
  intro f s k s' _ hdone
  cases hdone
  exact ⟨[], rfl, rfl⟩

/-- The small context on which one value was reported. -/
def reported : Tracked := ((reporting [.fixnum 5]).run small).state

/-- One value can be reported on the small context. -/
theorem reported_reachable : Reachable Settings.small reported :=
  ⟨small, small_created, .single (.routine (reporting [.fixnum 5]) rfl)⟩

/-- Where a value was reported before, a large call that reports two values is found to have two, and
a small call of a silent callee is found to have none. -/
theorem reported_returned :
    let large :=
      (funcall (fun _ => (reporting [.fixnum 1, .fixnum 2]).run) [.nil, .nil] reported).state
    let small := (funcall (fun _ => (Routine.finish (.ok 0)).run) [.nil] reported).state
    (large.context.values.count = 2 ∧ ∃ f entries,
      large.history = entries ++ .opened f [.nil, .nil] :: reported.history ∧
        Returned reported large [.nil, .nil] entries 2) ∧
    small.context.values.count = 0 ∧ ∃ f entries,
      small.history = entries ++ .opened f [.nil] :: reported.history ∧
        Returned reported small [.nil] entries 0 :=
  ⟨⟨rfl, returned_of_funcall reported_reachable
    (reporting_keepsContract Settings.small [.fixnum 1, .fixnum 2]) rfl⟩,
    rfl, returned_of_funcall reported_reachable (finish_keepsContract Settings.small) rfl⟩

/-- A large call of a callee that does nothing returns no value, and the one that was reported before
the call is found after it. -/
theorem silent_large_call_leaves_value :
    Reachable Settings.small reported ∧ KeepsContract Settings.small (fun _ => .finish (.ok 0)) ∧
      ∃ s', funcall (fun _ => (Routine.finish (.ok 0)).run) [.nil, .nil] reported = .done 0 s' ∧
        s'.context.values.count = 1 ∧ s'.context.values.primary = .fixnum 5 :=
  ⟨reported_reachable, finish_keepsContract Settings.small, _, rfl, rfl, rfl⟩

end Tracked

end CallEngine
