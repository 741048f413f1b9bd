import CallEngine.Proofs.FrameCounts
import CallEngine.Proofs.StackRecovery

/-!
# How the opening of a frame ends

A context keeps the limits of the settings it was created from. Together with the usage of the
operand stack, the state of its safety area and the memory of the stack they decide how the opening
of a frame ends, and settings that pass their check leave no other way: a small frame always fits
into the buffer, a large one never reaches beyond the operand stack, and a frame that is refused
leaves everything but the safety area, the fault in flight and the journal as it was. On an empty
operand stack no frame is refused that the settings allow.

The one thing that the check of the settings does not see to is the memory of a protected stack. Of
a stack whose size wraps, one page can be accessed, and a frame for which there is room only beyond
it stops the program.
-/

namespace CallEngine

namespace Context

variable {settings : Settings} {c c' : Context} {argc : Nat}

/-- The opening of a frame with too many arguments is refused. -/
theorem Fits.openFrame_many (h : c.Fits settings) (hmany : settings.callArgumentsLimit < argc) :
    openFrame argc c = .failed (.tooManyArguments argc settings.callArgumentsLimit) c := by
  rw [← h.arguments] at hmany ⊢
  simp only [openFrame, Op.bind_apply, Op.get]
  rw [if_pos hmany]
  rfl

/-- A small frame is opened in the buffer. -/
theorem Fits.openFrame_small (h : c.Fits settings) (hallowed : argc ≤ settings.callArgumentsLimit)
    (hsmall : argc < settings.smallCallThreshold) :
    openFrame argc c =
      .done (c.bufferFrame argc) (c.withBufferFrame (List.replicate argc .nil)) := by
  rw [← h.arguments] at hallowed
  rw [← h.threshold] at hsmall
  simp only [openFrame, Op.bind_apply, Op.get]
  rw [if_neg (Nat.not_lt.mpr hallowed), if_pos hsmall, openBuffer_apply]

/-- The operand stack is asked for the slots of a large frame. -/
theorem Fits.openFrame_eq_openStack (h : c.Fits settings)
    (hallowed : argc ≤ settings.callArgumentsLimit) (hlarge : settings.smallCallThreshold ≤ argc) :
    openFrame argc c = openStack argc c := by
  rw [← h.arguments] at hallowed
  rw [← h.threshold] at hlarge
  simp only [openFrame, Op.bind_apply, Op.get]
  rw [if_neg (Nat.not_lt.mpr hallowed), if_neg (Nat.not_lt.mpr hlarge)]

/-- There is room for a frame that does not reach beyond the end of the growth. -/
theorem Fits.le_available (h : c.Fits settings)
    (hfits : c.stack.top + argc ≤ settings.growthEnd c.stack.safetyOpen) :
    argc ≤ c.stack.available := by
  rw [h.available_eq]
  omega

/-- A large frame that fits is opened on the operand stack, if its slots are in memory. -/
theorem Fits.openFrame_large (h : c.Fits settings) (hallowed : argc ≤ settings.callArgumentsLimit)
    (hlarge : settings.smallCallThreshold ≤ argc)
    (hroom : c.stack.top + argc ≤ settings.growthEnd c.stack.safetyOpen)
    (hheld : c.stack.Holds (c.stack.top + argc)) :
    openFrame argc c =
      .done (c.stackFrame argc) (c.withStackFrame (List.replicate argc .nil)) := by
  rw [h.openFrame_eq_openStack hallowed hlarge, openStack_of_room (h.le_available hroom) hheld]

/-- A large frame that fits writes where nothing can be accessed, if its slots are not in memory. -/
theorem Fits.openFrame_unheld (h : c.Fits settings) (hallowed : argc ≤ settings.callArgumentsLimit)
    (hlarge : settings.smallCallThreshold ≤ argc)
    (hroom : c.stack.top + argc ≤ settings.growthEnd c.stack.safetyOpen)
    (hunheld : ¬ c.stack.Holds (c.stack.top + argc)) : openFrame argc c = .fatal .fault c := by
  rw [h.openFrame_eq_openStack hallowed hlarge, openStack_of_unheld (h.le_available hroom) hunheld]

/-- A large frame that does not fit is a first overflow, unless one is being handled. -/
theorem Fits.openFrame_full (h : c.Fits settings) (haccounted : c.Accounted)
    (hallowed : argc ≤ settings.callArgumentsLimit) (hlarge : settings.smallCallThreshold ≤ argc)
    (hnone : c.guard.faultInFlight = none) (hshort : c.stack.available < argc) :
    openFrame argc c =
      .failed (.stackOverflow argc c.stack.available) (c.overflowed argc) := by
  have hlacks : c.LacksRoom argc := ⟨h.threshold ▸ hlarge, h.arguments ▸ hallowed, hshort⟩
  have hcaught := (haccounted.catches hnone (List.replicate argc .nil) (by simpa using hlacks)).1
  rwa [List.length_replicate] at hcaught

/-- What a refused opening leaves as it was. -/
structure Spares (c c' : Context) : Prop where
  frames : c'.frames = c.frames
  nextSerial : c'.nextSerial = c.nextSerial
  values : c'.values = c.values
  slots : c'.stack.slots = c.stack.slots
  top : c'.stack.top = c.stack.top
  bufferFrames : c'.bufferFrames = c.bufferFrames
  stackFrames : c'.stackFrames = c.stackFrames
  reservations : c'.stack.reservations = c.stack.reservations
  releases : c'.stack.releases = c.stack.releases

/-- Whichever error refuses an opening, it spares the frames. -/
theorem spares_of_failed {error : FrameError} (h : openFrame argc c = .failed error c') :
    c.Spares c' := by
  have hends := openFrame_ends argc c
  rw [h] at hends
  cases hends with
  | tooMany hmany => exact ⟨rfl, rfl, rfl, rfl, rfl, rfl, rfl, rfl, rfl⟩
  | overflow hlacks hclosed hnone => exact ⟨rfl, rfl, rfl, rfl, rfl, rfl, rfl, rfl, rfl⟩

/-- How the opening of frames ends in a context with these settings. -/
structure Opening (settings : Settings) (c : Context) : Prop where
  /-- What is left on the operand stack can be computed. -/
  top_le : c.stack.top ≤ settings.growthEnd c.stack.safetyOpen
  tooMany {argc : Nat} (hmany : settings.callArgumentsLimit < argc) :
    openFrame argc c = .failed (.tooManyArguments argc settings.callArgumentsLimit) c
  /-- A small frame is in the buffer, which has a slot for each of its arguments. -/
  buffer {argc : Nat} (hallowed : argc ≤ settings.callArgumentsLimit)
    (hsmall : argc < settings.smallCallThreshold) :
    argc ≤ c.values.capacity ∧
      openFrame argc c =
        .done (c.bufferFrame argc) (c.withBufferFrame (List.replicate argc .nil)) ∧
      (c.bufferFrame argc).base = .values ∧
      (c.withBufferFrame (List.replicate argc .nil)).stack = c.stack
  /-- A large frame that fits, in memory too, is at the old top of the operand stack, and within it.
  -/
  stack {argc : Nat} (hallowed : argc ≤ settings.callArgumentsLimit)
    (hlarge : settings.smallCallThreshold ≤ argc)
    (hfits : c.stack.top + argc ≤ settings.growthEnd c.stack.safetyOpen)
    (hheld : c.stack.Holds (c.stack.top + argc)) :
    c.stack.top + argc ≤ c.stack.capacity ∧
      openFrame argc c =
        .done (c.stackFrame argc) (c.withStackFrame (List.replicate argc .nil)) ∧
      (c.stackFrame argc).base = .stack c.stack.top
  /-- Without memory for its slots it stops the program. -/
  fault {argc : Nat} (hallowed : argc ≤ settings.callArgumentsLimit)
    (hlarge : settings.smallCallThreshold ≤ argc)
    (hfits : c.stack.top + argc ≤ settings.growthEnd c.stack.safetyOpen)
    (hunheld : ¬ c.stack.Holds (c.stack.top + argc)) : openFrame argc c = .fatal .fault c
  /-- There is memory for all slots, unless the size of the stack wraps. -/
  held (hmappable : settings.Mappable) {n : Nat} (hn : n ≤ settings.operandStackSlots) :
    c.stack.Holds n
  short (hwraps : ¬ settings.Mappable) {n : Nat} (hheld : c.stack.Holds n) : n ≤ 256
  /-- A first overflow shows in the safety area, in the fault in flight and in the journal. -/
  overflow {argc : Nat} (hallowed : argc ≤ settings.callArgumentsLimit)
    (hlarge : settings.smallCallThreshold ≤ argc) (hclosed : c.stack.safetyOpen = false)
    (htraps : ∀ trap, c.guard.faultInFlight ≠ some (.arithmetic trap))
    (hfull : settings.growthEnd false < c.stack.top + argc) :
    openFrame argc c =
      .failed (.stackOverflow argc (settings.growthEnd false - c.stack.top))
        { c with
          stack := { c.stack with safetyOpen := true }
          guard := { c.guard with faultInFlight := some .stackOverflow }
          journal :=
            .stackOverflow c.id argc (settings.growthEnd false - c.stack.top) :: c.journal }
  spares {argc : Nat} {error : FrameError} {c' : Context}
    (hfailed : openFrame argc c = .failed error c') : c.Spares c'
  /-- On an empty operand stack, every frame is opened that the settings allow, unless the size of the
  stack wraps. -/
  empty (hmappable : settings.Mappable) {argc : Nat} (hempty : c.stack.top = 0)
    (hclosed : c.stack.safetyOpen = false)
    (hallowed : argc ≤ settings.callArgumentsLimit) : ∃ f c', openFrame argc c = .done f c'

end Context

namespace Tracked

variable {settings : Settings} {s : Tracked}

/-- In every state that a context can be in, the opening of a frame ends as its settings, the usage
of the operand stack, the safety area and the memory of the stack say. -/
theorem frames_open_as_settings_say (h : Reachable settings s) : s.context.Opening settings := by
  have hfits := h.fits
  have hvalid := h.valid
  have haccounted := h.accounted
  have htop : s.context.stack.top ≤ settings.growthEnd s.context.stack.safetyOpen :=
    hfits.limit_eq ▸ haccounted.top_le
  have hheld (hmappable : settings.Mappable) {n : Nat} (hn : n ≤ settings.operandStackSlots) :
      s.context.stack.Holds n :=
    (hfits.held hmappable).le (hfits.capacity ▸ hn)
  refine
    { top_le := htop
      tooMany := hfits.openFrame_many
      buffer := fun hallowed hsmall => ?_
      stack := fun hallowed hlarge hroom hheld => ?_
      fault := hfits.openFrame_unheld
      held := hheld
      short := fun hwraps n => hfits.short hwraps n
      overflow := fun hallowed hlarge hclosed htraps hfull => ?_
      spares := Context.spares_of_failed
      empty := fun hmappable argc hempty hclosed hallowed => ?_ }
  · have hthreshold := hvalid.threshold_le_values
    refine ⟨?_, hfits.openFrame_small hallowed hsmall, rfl, rfl⟩
    rw [hfits.values]
    omega
  · refine ⟨?_, hfits.openFrame_large hallowed hlarge hroom hheld, rfl⟩
    rw [hfits.capacity]
    exact Nat.le_trans hroom (settings.growthEnd_le _)
  · have hnone := haccounted.faultInFlight_eq_none hclosed htraps
    have havailable := hfits.available_eq
    rw [hclosed] at havailable htop
    have hended := hfits.openFrame_full haccounted hallowed hlarge hnone (by omega)
    rw [hended, Context.overflowed, havailable]
  · by_cases hsmall : argc < settings.smallCallThreshold
    · exact ⟨_, _, hfits.openFrame_small hallowed hsmall⟩
    · have hroom : s.context.stack.top + argc ≤ settings.growthEnd s.context.stack.safetyOpen := by
        rw [hempty, hclosed, Nat.zero_add]
        exact Nat.le_trans hallowed hvalid.arguments_le_usable
      have hslots := hheld hmappable (Nat.le_trans hroom (settings.growthEnd_le _))
      exact ⟨_, _, hfits.openFrame_large hallowed (Nat.not_lt.mp hsmall) hroom hslots⟩

/-- A routine that opens a frame of eight arguments and leaves it open. -/
def loading : Routine := .request (.openFrame 8) fun _ _ => .finish (.ok 0)

/-- The small context with a large frame open. -/
def loaded : Tracked := (loading.run small).state

/-- A large frame can be left open. -/
theorem loaded_reachable : Reachable Settings.small loaded :=
  ⟨small, small_created, .single (.routine loading rfl)⟩

/-- On the operand stack of the small context four more arguments find room, and a fifth does not.
-/
theorem loaded_opening :
    loaded.context.stack.top = 8 ∧ loaded.context.Opening Settings.small ∧
      Context.openFrame 9 loaded.context =
        .failed (.tooManyArguments 9 8) loaded.context ∧
      Context.openFrame 4 loaded.context = .done (loaded.context.stackFrame 4)
        (loaded.context.withStackFrame (List.replicate 4 .nil)) ∧
      ∃ c', Context.openFrame 5 loaded.context = .failed (.stackOverflow 5 4) c' ∧
        loaded.context.Spares c' := by
  have hopening := frames_open_as_settings_say loaded_reachable
  have hoverflow := hopening.overflow (by decide : 5 ≤ 8) (by decide) rfl
    (fun _ hfault => by cases hfault) (by decide)
  exact ⟨rfl, hopening, hopening.tooMany (by decide),
    (hopening.stack (by decide) (by decide) (by decide) (by decide)).2.1, _, hoverflow,
    hopening.spares hoverflow⟩

/-- A context that was created from the settings of the greatest stack, in a program whose sums
wrap. -/
def wide : Tracked where
  context := .create 1 OperandStack.greatest.limits
    { capacity := 2 ^ 60 - 1, guardSlots := 1024, region := ⟨4096, true⟩ }

/-- The widest context can be created. -/
theorem wide_created : Created OperandStack.greatest wide where
  valid := rfl
  context := by
    refine ⟨OperandStack.wrapping, 1, _, ?_, rfl⟩
    exact OperandStack.create_greatest
  history := rfl

/-- In the widest context three hundred arguments are allowed, and they are far from the end of the
growth. Opening a frame for them stops the program. -/
theorem wide_opening_faults :
    OperandStack.greatest.validate = .ok () ∧ Reachable OperandStack.greatest wide ∧
      300 ≤ OperandStack.greatest.callArgumentsLimit ∧
      wide.context.stack.top + 300 ≤
        OperandStack.greatest.growthEnd wide.context.stack.safetyOpen ∧
      Context.openFrame 300 wide.context = .fatal .fault wide.context := by
  have hreachable : Reachable OperandStack.greatest wide := ⟨wide, wide_created, .refl⟩
  have hends : Context.openFrame 300 wide.context = .fatal .fault wide.context :=
    hreachable.fits.openFrame_unheld (by decide) (by decide) (by decide) (by decide)
  exact ⟨rfl, hreachable, by decide, by decide, hends⟩

end Tracked

end CallEngine
