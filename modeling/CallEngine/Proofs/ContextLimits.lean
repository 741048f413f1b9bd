import CallEngine.Proofs.Evolution
import CallEngine.Proofs.GuardedRegions

/-!
# The limits of a context

A context keeps the limits of the settings it was created from, and the memory its operand stack was
given. All slots of the stack are in that memory if their size is not among the few that cannot be
rounded up to pages in a word. A stack of such a size only exists in a program whose sums wrap.
-/

namespace CallEngine

namespace Settings

/-- Where the growth of the operand stack ends: at its real end while the safety area is open, and
at its logical end otherwise. -/
def growthEnd (settings : Settings) (safetyOpen : Bool) : Nat :=
  if safetyOpen then settings.operandStackSlots
  else settings.operandStackSlots - settings.guardSlots

/-- Growth never goes beyond the operand stack. -/
theorem growthEnd_le (settings : Settings) (safetyOpen : Bool) :
    settings.growthEnd safetyOpen ≤ settings.operandStackSlots := by
  cases safetyOpen with
  | true => exact Nat.le_refl _
  | false => exact Nat.sub_le _ _

/-- A protected operand stack of this size does not reach into the last two pages that a word can
address. -/
def Mappable (settings : Settings) : Prop :=
  settings.guardPage = true →
    settings.operandStackSlots * Region.slotBytes + 2 * 4096 ≤ 2 ^ 64

instance (settings : Settings) : Decidable settings.Mappable :=
  inferInstanceAs (Decidable (_ → _))

end Settings

namespace Context

variable {settings : Settings} {c : Context}

/-- The limits of a context are those of the settings, and so is what is known of the memory of its
operand stack. -/
structure Fits (settings : Settings) (c : Context) : Prop where
  threshold : c.smallCallThreshold = settings.smallCallThreshold
  arguments : c.callArgumentsLimit = settings.callArgumentsLimit
  values : c.values.capacity = max settings.multipleValuesLimit 1
  capacity : c.stack.capacity = settings.operandStackSlots
  guardSlots : c.stack.guardSlots = settings.guardSlots
  held (hmappable : settings.Mappable) : c.stack.Holds c.stack.capacity
  /-- At most one page can be accessed of a stack whose size wraps. -/
  short (hwraps : ¬ settings.Mappable) (n : Nat) (hheld : c.stack.Holds n) : n ≤ 256

/-- Giving up the slots of a frame leaves the size of the operand stack. -/
theorem capacity_withoutFrame (f : Frame) (record : FrameRecord) (c : Context) :
    (c.withoutFrame f record).stack.capacity = c.stack.capacity ∧
      (c.withoutFrame f record).stack.guardSlots = c.stack.guardSlots := by
  unfold withoutFrame
  cases f.base with
  | values => exact ⟨rfl, rfl⟩
  | stack offset =>
    dsimp only [OperandStack.truncate]
    split <;> exact ⟨rfl, rfl⟩

/-- Giving up the slots of a frame leaves the memory of the operand stack. -/
theorem region_withoutFrame (f : Frame) (record : FrameRecord) (c : Context) :
    (c.withoutFrame f record).stack.region = c.stack.region := by
  unfold withoutFrame
  cases f.base with
  | values => rfl
  | stack offset =>
    dsimp only [OperandStack.truncate]
    split <;> rfl

namespace Fits

/-- The operand stack grows as far as the settings say. -/
theorem limit_eq (h : c.Fits settings) :
    c.stack.limit = settings.growthEnd c.stack.safetyOpen := by
  rw [OperandStack.limit, OperandStack.logicalEnd, Settings.growthEnd, h.capacity, h.guardSlots]

/-- How much of the operand stack is left. -/
theorem available_eq (h : c.Fits settings) :
    c.stack.available = settings.growthEnd c.stack.safetyOpen - c.stack.top := by
  rw [OperandStack.available, h.limit_eq]

/-- Another context with the same limits and the same memory. -/
theorem congr (h : c.Fits settings) {c' : Context}
    (hthreshold : c'.smallCallThreshold = c.smallCallThreshold)
    (harguments : c'.callArgumentsLimit = c.callArgumentsLimit)
    (hvalues : c'.values.capacity = c.values.capacity)
    (hcapacity : c'.stack.capacity = c.stack.capacity)
    (hguard : c'.stack.guardSlots = c.stack.guardSlots)
    (hregion : c'.stack.region = c.stack.region) : c'.Fits settings := by
  have hholds (n : Nat) : c'.stack.Holds n ↔ c.stack.Holds n := by
    rw [OperandStack.Holds, OperandStack.Holds, hregion]
  refine ⟨hthreshold.trans h.threshold, harguments.trans h.arguments, hvalues.trans h.values,
    hcapacity.trans h.capacity, hguard.trans h.guardSlots, fun hmappable => ?_,
    fun hwraps n hheld => h.short hwraps n ((hholds n).mp hheld)⟩
  rw [hholds, hcapacity]
  exact h.held hmappable

end Fits

end Context

namespace Tracked

variable {settings : Settings} {s s' : Tracked}

/-- No change touches the limits of a context. -/
theorem Change.fits (hchange : Change s s') (h : s.context.Fits settings) :
    s'.context.Fits settings := by
  cases hchange with
  | quiet safetyOpen guard journal => exact h.congr rfl rfl rfl rfl rfl rfl
  | opened hopened =>
    cases hopened with
    | buffer hsmall =>
      exact h.congr rfl rfl (ValueChannel.size_writeFrom _ _ _) rfl rfl rfl
    | stack hlarge => exact h.congr rfl rfl rfl rfl rfl rfl
  | activated hrecord => exact h.congr rfl rfl rfl rfl rfl rfl
  | stored f index value hissued haccess =>
    obtain ⟨_, _, hslots, _, hwritten⟩ := Context.writeSlot_slots f index value s.context
    rw [hwritten]
    exact h.congr rfl rfl hslots rfl rfl rfl
  | reported values hroom =>
    exact h.congr rfl rfl (ValueChannel.size_writeFrom _ _ _) rfl rfl rfl
  | @closed f record hissued hrecord hlast =>
    obtain ⟨hcapacity, hguard⟩ := Context.capacity_withoutFrame f record s.context
    exact h.congr rfl rfl rfl hcapacity hguard (Context.region_withoutFrame f record s.context)

/-- A context is created with the limits of its settings. -/
theorem Created.fits (h : Created settings s) : s.context.Fits settings := by
  obtain ⟨machine, id, stack, hcreate, hcontext⟩ := h.context
  have hheld := OperandStack.holds_capacity_iff hcreate
  have hshort := OperandStack.le_of_holds_of_wraps hcreate
  obtain ⟨_, _, region, _, rfl⟩ := OperandStack.exists_of_create hcreate
  rw [hcontext]
  exact ⟨rfl, rfl, Array.size_replicate, rfl, rfl, hheld.mpr, hshort⟩

/-- A context keeps the limits of its settings. -/
theorem Reachable.fits (h : Reachable settings s) : s.context.Fits settings :=
  h.holds (P := fun s => s.context.Fits settings) (fun _ hcreated => hcreated.fits)
    fun _ _ hchange hs => hchange.fits hs

/-- A context that can be reached was created from settings whose values fit each other. -/
theorem Reachable.valid (h : Reachable settings s) : settings.Valid := by
  obtain ⟨_, hcreated, _⟩ := h
  exact Settings.validate_eq_ok.mp hcreated.valid

end Tracked

end CallEngine
