import CallEngine.Proofs.Routine

/-!
# Contexts that were just created

Settings are checked before a context is created from them. The check gives what the frames of a
context rely on: a frame that is not large fits into the buffer of reported values, and a frame on
the operand stack has at least one argument.
-/

namespace CallEngine

/-- An operand stack that could be created is empty, and its memory was granted. -/
theorem OperandStack.exists_of_create {machine : Machine} {slots guardSlots : Nat} {guarded : Bool}
    {stack : OperandStack} (h : create machine slots guardSlots guarded () = .done stack ()) :
    guardSlots < slots ∧ slots * Region.slotBytes < twoPow 64 ∧
    ∃ region, Region.create machine (Region.ofSlots slots) guarded () = .done region () ∧
      stack = { capacity := slots, guardSlots, region } := by
  unfold create at h
  by_cases hguard : slots ≤ guardSlots
  · rw [if_pos hguard] at h
    cases h
  · rw [if_neg hguard] at h
    by_cases hsize : twoPow 64 ≤ slots * Region.slotBytes
    · rw [if_pos hsize] at h
      cases h
    · rw [if_neg hsize, Op.bind_apply] at h
      cases hregion : Region.create machine (Region.ofSlots slots) guarded () with
      | done region state =>
        rw [hregion] at h
        exact ⟨Nat.lt_of_not_le hguard, Nat.lt_of_not_le hsize, region, rfl,
          (Outcome.done.inj h).1.symm⟩
      | failed error state =>
        rw [hregion] at h
        cases h
      | fatal why state =>
        rw [hregion] at h
        cases h

namespace Settings

/-- Settings whose effective values fit each other. -/
structure Valid (s : Settings) : Prop where
  threshold_pos : 0 < s.smallCallThreshold
  arguments_pos : 0 < s.callArgumentsLimit
  values_pos : 0 < s.multipleValuesLimit
  slots_pos : 0 < s.operandStackSlots
  threshold_le_values : s.smallCallThreshold ≤ s.multipleValuesLimit
  threshold_le_arguments : s.smallCallThreshold ≤ s.callArgumentsLimit
  guard_lt_slots : s.guardSlots < s.operandStackSlots
  arguments_le_usable : s.callArgumentsLimit ≤ s.operandStackSlots - s.guardSlots

/-- A check succeeds if what it requires first holds and the rest of it succeeds. -/
theorem require_bind_eq_ok {condition : Bool} {field reason : String}
    {next : Unit → Except SettingsError Unit} :
    (require condition field reason >>= next) = .ok () ↔ condition = true ∧ next () = .ok () := by
  cases condition with
  | true => exact ⟨fun h => ⟨rfl, h⟩, fun h => h.2⟩
  | false =>
    constructor
    · intro h
      cases h
    · rintro ⟨hfalse, _⟩
      cases hfalse

/-- A single requirement is met if its condition holds. -/
theorem require_eq_ok {condition : Bool} {field reason : String} :
    require condition field reason = .ok () ↔ condition = true := by
  cases condition <;> simp [require]

/-- Settings pass the check if their values fit each other. -/
theorem validate_eq_ok {s : Settings} : s.validate = .ok () ↔ s.Valid := by
  unfold validate
  simp only [require_bind_eq_ok, require_eq_ok, decide_eq_true_eq]
  constructor
  · rintro ⟨hthreshold, harguments, hvalues, hslots, hfits, hsmall, hguard, husable⟩
    exact ⟨hthreshold, harguments, hvalues, hslots, hfits, hsmall, hguard, husable⟩
  · intro h
    exact ⟨h.threshold_pos, h.arguments_pos, h.values_pos, h.slots_pos, h.threshold_le_values,
      h.threshold_le_arguments, h.guard_lt_slots, h.arguments_le_usable⟩

/-- Settings that pass the check let every small frame fit into the buffer, and a call without
arguments is a small one. -/
theorem threshold_of_validate {s : Settings} (h : s.validate = .ok ()) :
    0 < s.smallCallThreshold ∧ s.smallCallThreshold ≤ s.multipleValuesLimit := by
  have hvalid := validate_eq_ok.mp h
  exact ⟨hvalid.threshold_pos, hvalid.threshold_le_values⟩

end Settings

/-- A context starts without frames, on an empty operand stack of the size that was set. -/
theorem Tracked.Created.eq_create {settings : Settings} {s : Tracked} (h : Created settings s) :
    ∃ id region, s.context = .create id settings.limits
      { capacity := settings.operandStackSlots, guardSlots := settings.guardSlots, region } := by
  obtain ⟨machine, id, stack, hstack, hcontext⟩ := h.context
  obtain ⟨_, _, region, _, rfl⟩ := OperandStack.exists_of_create hstack
  exact ⟨id, region, hcontext⟩

/-- Settings of a small context: frames of two arguments and more are on the operand stack. -/
def Settings.small : Settings where
  frames := some
    { smallCallThreshold := some 2, callArgumentsLimit := some 8, multipleValuesLimit := some 4 }
  stack := some { operandStackSlots := some 16, guardSlots := some 4, guardPage := some false }

/-- A machine that grants up to `most` bytes at a time, but no empty mapping. -/
def Machine.bounded (checked : Bool) (most : UInt64) : Machine where
  checked
  map length :=
    if length = 0 then .error .invalidInput
    else if most < length then .error .outOfMemory
    else .ok ()
  allocates length := length ≤ most

/-- A small context. -/
def Tracked.small : Tracked where
  context :=
    .create 1 Settings.small.limits { capacity := 16, guardSlots := 4, region := ⟨256, false⟩ }

/-- The small context can be created. -/
theorem Tracked.small_created : Created Settings.small small where
  valid := rfl
  context := ⟨.bounded true 4096, 1, _, rfl, rfl⟩
  history := rfl

end CallEngine
