import CallEngine.Proofs.FrameCounts

/-!
# Epochs of the buffer

The buffer of reported values holds the arguments of one small frame, or the values that were
reported last. Each use that may overwrite what is in it starts a new epoch, so a frame in the
buffer has its arguments as long as the epoch is the one in which it was opened. In terms of the
history, this is as long as no other small frame was opened and nothing was reported.
-/

namespace CallEngine

/-- Whether something that happened has overwritten the buffer of reported values. -/
def Entry.overwrites : Entry → Bool
  | opened f _ => f.isBufferBacked
  | stored _ _ _ => false
  | reported _ => true

namespace History

/-- What happened since a frame was opened. -/
def since (f : Frame) : History → List Entry
  | [] => []
  | .opened g args :: earlier => if g = f then [] else .opened g args :: since f earlier
  | .stored g index value :: earlier => .stored g index value :: since f earlier
  | .reported values :: earlier => .reported values :: since f earlier

/-- Whether the buffer was overwritten since a frame was opened. -/
def overwritten (h : History) (f : Frame) : Bool := (h.since f).any Entry.overwrites

variable {f g : Frame} {h : History}

/-- When a frame is opened, nothing has happened since. -/
@[simp] theorem overwritten_opened_self (args : List Value) :
    overwritten (.opened f args :: h) f = false := by
  simp [overwritten, since]

/-- Opening another frame overwrites the buffer if it is opened there. -/
theorem overwritten_opened_ne (args : List Value) (hne : g ≠ f) :
    overwritten (.opened g args :: h) f = (g.isBufferBacked || overwritten h f) := by
  simp [overwritten, since, hne, Entry.overwrites]

/-- Storing an argument does not count as overwriting the buffer. -/
@[simp] theorem overwritten_stored (index : Nat) (value : Value) :
    overwritten (.stored g index value :: h) f = overwritten h f := by
  simp [overwritten, since, Entry.overwrites]

/-- Reporting values overwrites the buffer. -/
@[simp] theorem overwritten_reported (values : List Value) :
    overwritten (.reported values :: h) f = true := by
  simp [overwritten, since, Entry.overwrites]

end History

namespace Tracked

variable {s s' : Tracked} {f g : Frame}

/-- The epochs of the frames in the buffer tell which of them still has its arguments. -/
structure Epochs (s : Tracked) : Prop where
  le : ∀ f ∈ s.history.issued, f.base = .values → f.epoch ≤ s.context.values.epoch
  inj : ∀ f ∈ s.history.issued, ∀ g ∈ s.history.issued, f.base = .values → g.base = .values →
    f.epoch = g.epoch → f = g
  current_iff : ∀ f ∈ s.history.issued, f.base = .values →
    (f.epoch = s.context.values.epoch ↔ s.history.overwritten f = false)
  /-- Nothing is reported while the buffer holds arguments. -/
  claimed : ∀ f ∈ s.history.issued, f.base = .values → f.epoch = s.context.values.epoch →
    s.context.values.count = 0

namespace Epochs

/-- Epochs are right after a change that neither starts an epoch nor opens a frame in the buffer. -/
theorem congr (h : Epochs s)
    (hissued : ∀ f ∈ s'.history.issued, f.base = .values →
      f ∈ s.history.issued ∧ s'.history.overwritten f = s.history.overwritten f)
    (hepoch : s'.context.values.epoch = s.context.values.epoch)
    (hcount : s'.context.values.count = s.context.values.count) : Epochs s' := by
  constructor
  · intro f hf hbase
    rw [hepoch]
    exact h.le f (hissued f hf hbase).1 hbase
  · intro f hf g hg hbase hbase' heq
    exact h.inj f (hissued f hf hbase).1 g (hissued g hg hbase').1 hbase hbase' heq
  · intro f hf hbase
    obtain ⟨hold, hsame⟩ := hissued f hf hbase
    rw [hepoch, hsame]
    exact h.current_iff f hold hbase
  · intro f hf hbase hcurrent
    rw [hcount]
    exact h.claimed f (hissued f hf hbase).1 hbase (hcurrent.trans hepoch)

/-- A frame from an earlier epoch is not one of the epoch that starts now. -/
theorem ne_succ (h : Epochs s) (hf : f ∈ s.history.issued) (hbase : f.base = .values) :
    f.epoch ≠ s.context.values.epoch + 1 :=
  Nat.ne_of_lt (Nat.lt_succ_of_le (h.le f hf hbase))

/-- Reporting values starts an epoch in which no frame was opened. -/
theorem reported (h : Epochs s) {values : List Value}
    (hissued : s'.history = .reported values :: s.history)
    (hepoch : s'.context.values.epoch = s.context.values.epoch + 1) : Epochs s' := by
  have hsame : s'.history.issued = s.history.issued := by rw [hissued, History.issued_reported]
  constructor
  · intro f hf hbase
    rw [hepoch]
    exact Nat.le_succ_of_le (h.le f (hsame ▸ hf) hbase)
  · rw [hsame]
    exact h.inj
  · intro f hf hbase
    rw [hepoch, hissued, History.overwritten_reported]
    exact iff_of_false (h.ne_succ (hsame ▸ hf) hbase) Bool.noConfusion
  · intro f hf hbase hcurrent
    rw [hepoch] at hcurrent
    exact absurd hcurrent (h.ne_succ (hsame ▸ hf) hbase)

/-- Opening a frame in the buffer starts an epoch that only this frame belongs to. -/
theorem openedBuffer (h : Epochs s) {args : List Value} (hnew : f ∉ s.history.issued)
    (hbuffer : f.base = .values) (hissued : s'.history = .opened f args :: s.history)
    (hepoch : s'.context.values.epoch = s.context.values.epoch + 1)
    (hcount : s'.context.values.count = 0) (hcurrent : f.epoch = s.context.values.epoch + 1) :
    Epochs s' := by
  have hall : s'.history.issued = f :: s.history.issued := by rw [hissued, History.issued_opened]
  refine ⟨?_, ?_, ?_, fun _ _ _ _ => hcount⟩
  · rw [hall, hepoch, List.forall_mem_cons]
    exact ⟨fun _ => Nat.le_of_eq hcurrent, fun g hg hbase => Nat.le_succ_of_le (h.le g hg hbase)⟩
  · rw [hall]
    intro g hg g' hg' hbase hbase' heq
    rcases List.mem_cons.mp hg with rfl | hold
    · rcases List.mem_cons.mp hg' with rfl | hold'
      · rfl
      · exact absurd (heq.symm.trans hcurrent) (h.ne_succ hold' hbase')
    · rcases List.mem_cons.mp hg' with rfl | hold'
      · exact absurd (heq.trans hcurrent) (h.ne_succ hold hbase)
      · exact h.inj g hold g' hold' hbase hbase' heq
  · rw [hall, hepoch, hissued, List.forall_mem_cons]
    refine ⟨fun _ => iff_of_true hcurrent (History.overwritten_opened_self args), ?_⟩
    intro g hg hbase
    have hne : f ≠ g := fun heq => hnew (heq ▸ hg)
    rw [History.overwritten_opened_ne args hne]
    exact iff_of_false (h.ne_succ hg hbase) (by simp [Frame.isBufferBacked_buffer hbuffer])

/-- Opening a frame on the operand stack does not touch the buffer. -/
theorem openedStack (h : Epochs s) {args : List Value} {offset : Nat}
    (hbase : f.base = .stack offset) (hissued : s'.history = .opened f args :: s.history)
    (hvalues : s'.context.values = s.context.values) : Epochs s' := by
  refine h.congr (fun g hg hbuffer => ?_) (by rw [hvalues]) (by rw [hvalues])
  have hne := Frame.ne_of_stack_of_buffer hbase hbuffer
  rw [hissued, History.issued_opened] at hg
  rw [hissued, History.overwritten_opened_ne args hne]
  exact ⟨List.mem_of_ne_of_mem hne.symm hg, by simp [Frame.isBufferBacked_stack hbase]⟩

/-- Every change keeps the epochs right. -/
theorem change (h : Epochs s) (hcoherent : Coherent s) (hchange : Change s s') : Epochs s' := by
  cases hchange with
  | quiet safetyOpen guard journal => exact h.congr (fun f hf _ => ⟨hf, rfl⟩) rfl rfl
  | opened hopened =>
    have hnew := hcoherent.not_issued hopened
    cases hopened with
    | buffer hsmall => exact h.openedBuffer hnew rfl rfl rfl rfl rfl
    | stack hlarge => exact h.openedStack rfl rfl rfl
  | activated hrecord => exact h.congr (fun f hf _ => ⟨hf, rfl⟩) rfl rfl
  | stored f index value hissued haccess =>
    obtain ⟨_, _, _, _, hwritten⟩ := Context.writeSlot_slots f index value s.context
    rw [hwritten]
    exact h.congr (fun g hg _ => ⟨hg, History.overwritten_stored index value⟩) rfl rfl
  | reported values hroom => exact h.reported rfl rfl
  | closed hissued hrecord hlast => exact h.congr (fun f hf _ => ⟨hf, rfl⟩) rfl rfl

end Epochs

/-- No frame is in the buffer when a context is created. -/
theorem Created.epochs {settings : Settings} (h : Created settings s) : Epochs s := by
  constructor <;> simp [h.history, History.issued]

/-- The epochs are always right. -/
theorem Reachable.epochs {settings : Settings} (h : Reachable settings s) : Epochs s :=
  h.holds_ordered (fun _ hcreated => hcreated.epochs) fun _ _ hcoherent _ hchange hs =>
    hs.change hcoherent hchange

end Tracked

end CallEngine
