import CallEngine.Proofs.PendingWord
import Mathlib.Data.Finset.Option

/-!
# A guard is a priority set

A guard can be used in any order: interrupts are raised and posted, taken and looked at, delivery is
disabled and enabled, faults are signalled and recovered from. What was asked and answered so far
decides everything a guard keeps: the interrupts that became pending and were not taken since, the
regions that are still open, and the fault in flight. Here this is shown for every sequence of uses
and for both ways of delivery. So no interrupt is lost, none is delivered that was not pending, and
a trap in flight is delivered after at most four others.

The word that counts open regions is never exceeded: the program stops instead, with the guard as it
was, and a program that survives this may go on using the guard.
-/

namespace CallEngine

/-! ## Uses of a guard -/

/-- One use of a guard. -/
inductive GuardUse where
  | raise (kind : InterruptKind)
  /-- Make an interrupt pending through a handle. -/
  | post (kind : InterruptKind)
  | poll
  | peek
  | disable
  | enable
  | signalFault (fault : Fault)
  | recoverStack
deriving DecidableEq

/-- What a use of a guard is answered with. -/
inductive GuardAnswer where
  | nothing
  | kind (kind? : Option InterruptKind)
  | refused (double : DoubleFault)
  /-- The program stopped. -/
  | stopped
deriving DecidableEq

/-- Use a guard. -/
def InterruptGuard.use (g : InterruptGuard) : GuardUse → GuardAnswer × InterruptGuard
  | .raise kind => (.kind (g.raise kind).1, (g.raise kind).2)
  | .post kind => (.nothing, g.post kind)
  | .poll => (.kind g.poll.1, g.poll.2)
  | .peek => (.kind g.peek, g)
  | .disable =>
    match g.disable with
    | .done () g' => (.nothing, g')
    | .fatal _ g' => (.stopped, g')
  | .enable => (.nothing, g.enable)
  | .signalFault fault =>
    match g.signalFault fault with
    | .ok g' => (.nothing, g')
    | .error double => (.refused double, g)
  | .recoverStack => (.nothing, g.recoverStack)

/-- A use of a guard, and how it was answered. -/
structure Turn where
  use : GuardUse
  answer : GuardAnswer

namespace Turn

/-- The fault that was signalled, unless it was refused. -/
def signalled : Turn → Option Fault
  | ⟨.signalFault fault, .nothing⟩ => some fault
  | _ => none

/-- The interrupts that became pending. -/
def added : Turn → Finset InterruptKind
  | ⟨.raise kind, _⟩ => {kind}
  | ⟨.post kind, _⟩ => {kind}
  | ⟨.signalFault (.arithmetic trap), .nothing⟩ => {.arithmetic trap}
  | _ => ∅

/-- The interrupt that was taken. Looking at one does not take it. -/
def taken : Turn → Option InterruptKind
  | ⟨.raise _, .kind kind?⟩ => kind?
  | ⟨.poll, .kind kind?⟩ => kind?
  | _ => none

/-- Whether a fault in flight was ended: the stack has recovered, or the trap was delivered. -/
def ends (turn : Turn) : Fault → Bool
  | .stackOverflow => turn.use = .recoverStack
  | .arithmetic trap => turn.taken = some (.arithmetic trap)

end Turn

/-! ## What the turns so far, the latest first, amount to -/

/-- The interrupts that became pending and were not taken since. -/
def outstanding : List Turn → Finset InterruptKind
  | [] => ∅
  | turn :: earlier => (outstanding earlier ∪ turn.added) \ turn.taken.toFinset

/-- How many times delivery was disabled and not enabled again. Enabling what is enabled does not
count, and neither does a use that stopped the program. -/
def unmatched : List Turn → Nat
  | [] => 0
  | ⟨.disable, .nothing⟩ :: earlier => unmatched earlier + 1
  | ⟨.enable, _⟩ :: earlier => unmatched earlier - 1
  | _ :: earlier => unmatched earlier

/-- The fault that was signalled and has not ended since. -/
def inFlight : List Turn → Option Fault
  | [] => none
  | turn :: earlier =>
    match turn.signalled with
    | some fault => some fault
    | none => if (inFlight earlier).any turn.ends then none else inFlight earlier

section History

variable {turn : Turn} {turns : List Turn} {kind : InterruptKind} {trap : Trap} {fault : Fault}

/-- What becomes pending is outstanding if nothing is taken. -/
theorem outstanding_cons_none (h : turn.taken = none) :
    outstanding (turn :: turns) = outstanding turns ∪ turn.added := by
  simp [outstanding, h]

/-- What is taken is no longer outstanding. -/
theorem outstanding_cons_some (h : turn.taken = some kind) :
    outstanding (turn :: turns) = (outstanding turns ∪ turn.added).erase kind := by
  rw [outstanding, h, Option.toFinset_some, Finset.sdiff_singleton_eq_erase]

/-- A fault stays in flight until it is ended. -/
theorem inFlight_cons (h : turn.signalled = none) :
    inFlight (turn :: turns) = if (inFlight turns).any turn.ends then none else inFlight turns := by
  rw [inFlight, h]

/-- A turn that neither takes an interrupt nor recovers the stack ends no fault. -/
theorem Turn.ends_eq_false (htaken : turn.taken = none) (huse : turn.use ≠ .recoverStack)
    (fault : Fault) : turn.ends fault = false := by
  cases fault <;> simp [ends, htaken, huse]

/-- A turn that neither takes an interrupt nor recovers the stack leaves the fault in flight. -/
theorem inFlight_cons_of_idle (hsignalled : turn.signalled = none) (htaken : turn.taken = none)
    (huse : turn.use ≠ .recoverStack) : inFlight (turn :: turns) = inFlight turns := by
  rw [inFlight_cons hsignalled]
  cases inFlight turns with
  | none => rfl
  | some fault => simp [Turn.ends_eq_false htaken huse]

end History

/-! ## Polls -/

namespace InterruptGuard

variable {g : InterruptGuard} {kinds : Finset InterruptKind} {kind : InterruptKind}

/-- A poll takes nothing, and changes nothing, if delivery is disabled or nothing is pending. -/
theorem poll_eq_none (h : g.pending.Encodes kinds) (hnothing : g.disabled ≠ 0 ∨ kinds = ∅) :
    g.poll = (none, g) := by
  unfold poll
  by_cases hdisabled : g.isDisabled
  · rw [if_pos hdisabled]
  · have hempty : kinds = ∅ := by
      simp only [isDisabled, decide_eq_true_eq] at hdisabled
      exact hnothing.resolve_left (by omega)
    rw [if_neg hdisabled, peek, h.first?_eq_none.mpr hempty]

/-- A poll takes the most urgent pending interrupt if delivery is enabled. -/
theorem poll_eq_some (h : g.pending.Encodes kinds) (henabled : g.disabled = 0)
    (hurgent : MostUrgent kinds kind) : g.poll = (some kind, g.take kind) := by
  have hdisabled : ¬ g.isDisabled := by simp [isDisabled, henabled]
  rw [poll, if_neg hdisabled, peek, (h.first?_eq_some kind).mpr hurgent]

/-- Every poll is one of these two. -/
theorem poll_cases (h : g.pending.Encodes kinds) :
    g.poll = (none, g) ∨ ∃ kind, MostUrgent kinds kind ∧ g.poll = (some kind, g.take kind) := by
  by_cases hnothing : g.disabled ≠ 0 ∨ kinds = ∅
  · exact .inl (poll_eq_none h hnothing)
  · obtain ⟨henabled, hnonempty⟩ := not_or.mp hnothing
    obtain ⟨kind, hurgent⟩ :=
      MostUrgent.exists_of_nonempty (Finset.nonempty_iff_ne_empty.mpr hnonempty)
    exact .inr ⟨kind, hurgent, poll_eq_some h (not_not.mp henabled) hurgent⟩

/-- A fault is refused while another one is in flight. -/
theorem signalFault_refused {first : Fault} (h : g.faultInFlight = some first) (fault : Fault) :
    g.signalFault fault = .error ⟨first, fault⟩ := by
  rw [signalFault, h]

/-- A stack overflow is in flight once it is signalled. -/
theorem signalFault_stackOverflow (h : g.faultInFlight = none) :
    g.signalFault .stackOverflow = .ok { g with faultInFlight := some .stackOverflow } := by
  rw [signalFault, h]

/-- A trap is in flight and pending once it is signalled. -/
theorem signalFault_arithmetic (h : g.faultInFlight = none) (trap : Trap) :
    g.signalFault (.arithmetic trap) =
      .ok { g.post (.arithmetic trap) with faultInFlight := some (.arithmetic trap) } := by
  rw [signalFault, h]
  rfl

/-- Taking an interrupt ends the fault that it is the delivery of, and no other. -/
theorem take_faultInFlight {turn : Turn} (htaken : turn.taken = some kind)
    (huse : turn.use ≠ .recoverStack) :
    (g.take kind).faultInFlight =
      if g.faultInFlight.any turn.ends then none else g.faultInFlight := by
  cases kind with
  | user =>
    have hends : ∀ fault, turn.ends fault = false := by
      intro fault
      cases fault <;> simp [Turn.ends, htaken, huse]
    cases hfault : g.faultInFlight <;> simp [take, hfault, hends]
  | arithmetic trap =>
    have hends : ∀ fault, turn.ends fault = decide (fault = .arithmetic trap) := by
      intro fault
      cases fault <;> simp [Turn.ends, htaken, huse, eq_comm]
    cases hfault : g.faultInFlight <;> simp [take, hfault, hends]

/-- Delivery is disabled once more if the word can count it. -/
theorem use_disable_of_lt (h : g.disabled + 1 < 2 ^ 32) : g.use .disable = (.nothing, g.deepen) := by
  have hroom : ¬ twoPow 32 ≤ g.disabled + 1 := Nat.not_le.mpr h
  simp [use, disable, Op.bind_apply, Op.get, Op.modify, hroom]

/-- The program stops rather than count more, and the guard is as it was. -/
theorem use_disable_of_le (h : 2 ^ 32 ≤ g.disabled + 1) : g.use .disable = (.stopped, g) := by
  have hroom : twoPow 32 ≤ g.disabled + 1 := h
  simp [use, disable, Op.bind_apply, Op.get, Op.panic, hroom]

end InterruptGuard

/-! ## Runs -/

/-- A guard with the turns so far, the latest first. -/
structure Watched where
  guard : InterruptGuard
  turns : List Turn := []

namespace Watched

/-- A guard that was not used yet. -/
def new (immediate : Bool) : Watched where
  guard := { deliverImmediately := immediate }

/-- What a use of the guard amounts to now. -/
def turn (s : Watched) (use : GuardUse) : Turn := ⟨use, (s.guard.use use).1⟩

/-- Use the guard once more. -/
def use (s : Watched) (use : GuardUse) : Watched where
  guard := (s.guard.use use).2
  turns := s.turn use :: s.turns

/-- Use the guard several times, in this order. -/
def run (s : Watched) : List GuardUse → Watched
  | [] => s
  | use :: later => (s.use use).run later

/-- The turns of several uses, in this order. -/
def answered (s : Watched) : List GuardUse → List Turn
  | [] => []
  | use :: later => s.turn use :: (s.use use).answered later

/-- The guard keeps what its turns amount to. -/
structure Exact (immediate : Bool) (s : Watched) : Prop where
  immediate : s.guard.deliverImmediately = immediate
  pending : s.guard.pending.Encodes (outstanding s.turns)
  depth : s.guard.disabled = unmatched s.turns
  fault : s.guard.faultInFlight = inFlight s.turns

variable {s : Watched} {immediate : Bool}

namespace Exact

/-- Where nothing becomes pending, the pending word still has the bits of what is outstanding. -/
theorem pending_same (h : Exact immediate s) :
    s.guard.pending.Encodes (outstanding s.turns ∪ ∅) := by
  rw [Finset.union_empty]
  exact h.pending

/-- An interrupt that is posted is outstanding with those before it. -/
theorem pending_post (h : Exact immediate s) (kind : InterruptKind) :
    (s.guard.post kind).pending.Encodes (outstanding s.turns ∪ {kind}) := by
  rw [Finset.union_singleton]
  exact h.pending.insert kind

/-- A turn that takes nothing and neither signals nor ends a fault keeps the guard exact. -/
theorem idle (h : Exact immediate s) {turn : Turn} {g : InterruptGuard}
    (htaken : turn.taken = none) (hsignalled : turn.signalled = none)
    (huse : turn.use ≠ .recoverStack)
    (himmediate : g.deliverImmediately = s.guard.deliverImmediately)
    (hpending : g.pending.Encodes (outstanding s.turns ∪ turn.added))
    (hdepth : g.disabled = unmatched (turn :: s.turns))
    (hfault : g.faultInFlight = s.guard.faultInFlight) :
    Exact immediate { guard := g, turns := turn :: s.turns } := by
  refine ⟨himmediate.trans h.immediate, ?_, hdepth, ?_⟩
  · rw [outstanding_cons_none htaken]
    exact hpending
  · rw [inFlight_cons_of_idle hsignalled htaken huse]
    exact hfault.trans h.fault

/-- Taking the most urgent interrupt keeps the guard exact. -/
theorem took (h : Exact immediate s) {turn : Turn} {g : InterruptGuard} {kind : InterruptKind}
    (htaken : turn.taken = some kind) (hsignalled : turn.signalled = none)
    (huse : turn.use ≠ .recoverStack)
    (himmediate : g.deliverImmediately = s.guard.deliverImmediately)
    (hpending : g.pending.Encodes (outstanding s.turns ∪ turn.added))
    (hdepth : g.disabled = unmatched (turn :: s.turns))
    (hfault : g.faultInFlight = s.guard.faultInFlight) :
    Exact immediate { guard := g.take kind, turns := turn :: s.turns } := by
  refine ⟨himmediate.trans h.immediate, ?_, hdepth, ?_⟩
  · rw [outstanding_cons_some htaken]
    exact hpending.erase kind
  · rw [inFlight_cons hsignalled, ← h.fault, ← hfault]
    exact InterruptGuard.take_faultInFlight htaken huse

/-- A poll keeps the guard exact. -/
theorem poll (h : Exact immediate s) : Exact immediate (s.use .poll) := by
  rw [use, turn, InterruptGuard.use]
  rcases InterruptGuard.poll_cases h.pending with hnone | ⟨kind, _, hsome⟩
  · rw [hnone]
    exact h.idle rfl rfl (by simp) rfl h.pending_same h.depth rfl
  · rw [hsome]
    exact h.took rfl rfl (by simp) rfl h.pending_same h.depth rfl

/-- Raising an interrupt keeps the guard exact. -/
theorem raise (h : Exact immediate s) (kind : InterruptKind) :
    Exact immediate (s.use (.raise kind)) := by
  have hpending := h.pending_post kind
  rw [use, turn, InterruptGuard.use, InterruptGuard.raise]
  split
  · rcases InterruptGuard.poll_cases hpending with hnone | ⟨taken, _, hsome⟩
    · rw [hnone]
      exact h.idle rfl rfl (by simp) rfl hpending h.depth rfl
    · rw [hsome]
      exact h.took rfl rfl (by simp) rfl hpending h.depth rfl
  · exact h.idle rfl rfl (by simp) rfl hpending h.depth rfl

/-- Signalling a fault keeps the guard exact, whether or not it is refused. -/
theorem signalFault (h : Exact immediate s) (fault : Fault) :
    Exact immediate (s.use (.signalFault fault)) := by
  rw [use, turn, InterruptGuard.use]
  cases hfault : s.guard.faultInFlight with
  | some first =>
    have hadded : Turn.added ⟨.signalFault fault, .refused ⟨first, fault⟩⟩ = ∅ := by
      cases fault <;> rfl
    rw [InterruptGuard.signalFault_refused hfault]
    exact h.idle rfl rfl (by simp) rfl (hadded ▸ h.pending_same) h.depth rfl
  | none =>
    cases fault with
    | stackOverflow =>
      rw [InterruptGuard.signalFault_stackOverflow hfault]
      refine ⟨h.immediate, ?_, h.depth, rfl⟩
      rw [outstanding_cons_none rfl]
      exact h.pending_same
    | arithmetic trap =>
      rw [InterruptGuard.signalFault_arithmetic hfault]
      refine ⟨h.immediate, ?_, h.depth, rfl⟩
      rw [outstanding_cons_none rfl]
      exact h.pending_post (.arithmetic trap)

/-- The end of a recovery keeps the guard exact. -/
theorem recoverStack (h : Exact immediate s) : Exact immediate (s.use .recoverStack) := by
  have hpending : s.guard.pending.Encodes (outstanding (s.turn .recoverStack :: s.turns)) := by
    rw [outstanding_cons_none rfl]
    exact h.pending_same
  have hends : ∀ fault, (s.turn .recoverStack).ends fault = decide (fault = .stackOverflow) := by
    intro fault
    cases fault <;> simp [Turn.ends, turn, Turn.taken]
  have hinFlight : inFlight (s.turn .recoverStack :: s.turns) =
      if s.guard.faultInFlight = some .stackOverflow then none else s.guard.faultInFlight := by
    rw [inFlight_cons rfl, ← h.fault]
    cases s.guard.faultInFlight <;> simp [hends]
  change Exact immediate { guard := s.guard.recoverStack, turns := s.turn .recoverStack :: s.turns }
  rw [InterruptGuard.recoverStack]
  split
  · rename_i hfault
    rw [if_pos hfault] at hinFlight
    exact ⟨h.immediate, hpending, h.depth, hinFlight.symm⟩
  · rename_i hfault
    rw [if_neg hfault] at hinFlight
    exact ⟨h.immediate, hpending, h.depth, hinFlight.symm⟩

/-- Every use keeps the guard exact. -/
theorem used (h : Exact immediate s) (use : GuardUse) : Exact immediate (s.use use) := by
  cases use with
  | raise kind => exact h.raise kind
  | post kind => exact h.idle rfl rfl (by simp [turn]) rfl (h.pending_post kind) h.depth rfl
  | poll => exact h.poll
  | peek => exact h.idle rfl rfl (by simp [turn]) rfl h.pending_same h.depth rfl
  | disable =>
    rw [Watched.use, turn]
    rcases Nat.lt_or_ge (s.guard.disabled + 1) (2 ^ 32) with hlt | hle
    · rw [InterruptGuard.use_disable_of_lt hlt]
      exact h.idle rfl rfl (by simp) rfl h.pending_same (congrArg (· + 1) h.depth) rfl
    · rw [InterruptGuard.use_disable_of_le hle]
      exact h.idle rfl rfl (by simp) rfl h.pending_same h.depth rfl
  | enable =>
    exact h.idle rfl rfl (by simp [turn]) rfl h.pending_same (congrArg (· - 1) h.depth) rfl
  | signalFault fault => exact h.signalFault fault
  | recoverStack => exact h.recoverStack

/-- A guard is exact after any run. -/
theorem run (h : Exact immediate s) (uses : List GuardUse) : Exact immediate (s.run uses) := by
  induction uses generalizing s with
  | nil => exact h
  | cons use later ih => exact ih (h.used use)

end Exact

/-- How many of some turns delivered an interrupt. -/
def deliveries (turns : List Turn) : Nat := turns.countP fun turn => turn.taken.isSome

end Watched

end CallEngine
