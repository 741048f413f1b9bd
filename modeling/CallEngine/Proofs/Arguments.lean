import CallEngine.Proofs.StoredArguments

/-!
# What frames answer

An open frame answers for its arguments from the history alone. On the operand stack it always has
them, and they are the values stored last. In the buffer it has them too, until another frame is
opened in the buffer or values are reported; from then on every access is refused, and never
answered with what has come in their place.
-/

namespace CallEngine

/-- Whether the arguments of a frame were overwritten by something else. -/
def History.lost (h : History) (f : Frame) : Bool := f.isBufferBacked && h.overwritten f

namespace Tracked

variable {settings : Settings} {s : Tracked} {f : Frame}

/-- An open frame refuses an access that is out of range, and every access once its arguments are
lost. -/
theorem Reachable.checkAccess_eq (h : Reachable settings s) (hf : f ∈ s.openFrames) (index : Nat) :
    s.context.checkAccess f index =
      if f.argc ≤ index then .error (.argumentIndex index f.argc)
      else if s.history.lost f then .error (.stale f.serial)
      else .ok () := by
  obtain ⟨hissued, hrecord⟩ := mem_openFrames.mp hf
  have hstale : (f.isBufferBacked && f.epoch != s.context.values.epoch) = s.history.lost f := by
    cases hbase : f.base with
    | values =>
      have hcurrent := h.epochs.current_iff f hissued hbase
      cases hoverwritten : s.history.overwritten f with
      | false => simp [History.lost, hoverwritten, hcurrent.mpr hoverwritten]
      | true =>
        have hne : f.epoch ≠ s.context.values.epoch := by
          intro heq
          rw [hcurrent.mp heq] at hoverwritten
          cases hoverwritten
        simp [History.lost, hoverwritten, hne]
    | stack offset => simp [History.lost, Frame.isBufferBacked_stack hbase]
  rw [Context.checkAccess, hstale, Option.isNone_eq_false_iff.mpr hrecord]
  rfl

/-- A slot of an open frame that has not lost its arguments holds the value stored last. -/
theorem Reachable.readSlot_eq (h : Reachable settings s) (hf : f ∈ s.openFrames)
    (hlost : s.history.lost f = false) {index : Nat} (hindex : index < f.argc) :
    s.context.readSlot f index = s.history.storedAt f index := by
  obtain ⟨hepochs, hbuffer, hstack⟩ := h.kept
  have hissued := (mem_openFrames.mp hf).1
  cases hbase : f.base with
  | values =>
    have hcurrent : f.epoch = s.context.values.epoch := by
      rw [hepochs.current_iff f hissued hbase]
      simpa [History.lost, Frame.isBufferBacked_buffer hbase] using hlost
    have hheld := hbuffer f hissued hbase hcurrent index hindex
    simp [Context.readSlot, hbase, ValueChannel.slot, hheld]
  | stack offset =>
    have hheld := hstack f hf offset hbase index hindex
    simp [Context.readSlot, hbase, OperandStack.get?, hheld]

/-- The answer for one argument. -/
theorem Reachable.arg_eq (h : Reachable settings s) (hf : f ∈ s.openFrames) (index : Nat) :
    s.context.arg f index =
      if f.argc ≤ index then .error (.argumentIndex index f.argc)
      else if s.history.lost f then .error (.stale f.serial)
      else .ok (s.history.storedAt f index) := by
  rw [Context.arg, h.checkAccess_eq hf]
  by_cases hindex : f.argc ≤ index
  · simp [hindex, Except.map]
  · cases hlost : s.history.lost f with
    | true => simp [hindex, Except.map]
    | false =>
      rw [h.readSlot_eq hf hlost (Nat.lt_of_not_le hindex)]
      simp [hindex, Except.map]

/-- The answer for all arguments. -/
theorem Reachable.args_eq (h : Reachable settings s) (hf : f ∈ s.openFrames) :
    s.context.args f =
      if f.argc ≠ 0 ∧ s.history.lost f then .error (.stale f.serial)
      else .ok ((List.range f.argc).map fun index => s.history.storedAt f index) := by
  have hrecord := (mem_openFrames.mp hf).2
  rw [Context.args, h.checkAccess_eq hf]
  by_cases hargc : f.argc = 0
  · rw [if_pos hargc, Option.isNone_eq_false_iff.mpr hrecord]
    simp [hargc]
  · rw [if_neg hargc, if_neg (by omega)]
    cases hlost : s.history.lost f with
    | true => simp [hargc, Except.map]
    | false =>
      have hread : (List.range f.argc).map (s.context.readSlot f) =
          (List.range f.argc).map fun index => s.history.storedAt f index :=
        List.map_congr_left fun index hindex =>
          h.readSlot_eq hf hlost (List.mem_range.mp hindex)
      rw [hread]
      simp [Except.map]

/-- What an open frame answers. -/
structure Answers (s : Tracked) (f : Frame) : Prop where
  /-- An argument is answered with the value stored last in its slot. -/
  arg : ∀ index value, s.context.arg f index = .ok value ↔
    index < f.argc ∧ s.history.lost f = false ∧ value = s.history.storedAt f index
  args : ∀ values, s.context.args f = .ok values ↔
    (f.argc = 0 ∨ s.history.lost f = false) ∧
      values = (List.range f.argc).map fun index => s.history.storedAt f index
  /-- A frame on the operand stack never says that its arguments are lost. -/
  large : ∀ offset, f.base = .stack offset → ∀ serial,
    (∀ index, s.context.arg f index ≠ .error (.stale serial)) ∧
      s.context.args f ≠ .error (.stale serial) ∧
      ∀ index value c, Context.setArg f index value s.context ≠ .failed (.stale serial) c
  /-- A frame in the buffer says so exactly if the buffer was overwritten since it was opened. -/
  small : f.base = .values → ∀ index < f.argc,
    (s.context.arg f index = .error (.stale f.serial) ↔ s.history.overwritten f) ∧
      (s.context.args f = .error (.stale f.serial) ↔ s.history.overwritten f) ∧
      ∀ value, Context.setArg f index value s.context = .failed (.stale f.serial) s.context ↔
        s.history.overwritten f

/-- Whatever was done with a context, its open frames answer for their arguments from the history. -/
theorem arguments_answered (h : Reachable settings s) (hf : f ∈ s.openFrames) : Answers s f := by
  constructor
  · intro index value
    rw [h.arg_eq hf]
    by_cases hindex : f.argc ≤ index
    · simp [hindex, Nat.not_lt.mpr hindex]
    · cases hlost : s.history.lost f with
      | true => simp [hindex]
      | false => simp [hindex, Nat.lt_of_not_le hindex, eq_comm]
  · intro values
    rw [h.args_eq hf, eq_comm (a := values)]
    by_cases hargc : f.argc = 0
    · simp [hargc]
    · cases s.history.lost f <;> simp [hargc]
  · intro offset hbase serial
    have hlost : s.history.lost f = false := by
      simp [History.lost, Frame.isBufferBacked_stack hbase]
    refine ⟨fun index => ?_, ?_, fun index value c => ?_⟩
    · rw [h.arg_eq hf, hlost]
      split <;> simp
    · rw [h.args_eq hf, hlost]
      simp
    · rw [Context.setArg_apply, h.checkAccess_eq hf, hlost]
      by_cases hindex : f.argc ≤ index <;> simp [hindex]
  · intro hbase index hindex
    have hlost : s.history.lost f = s.history.overwritten f := by
      simp [History.lost, Frame.isBufferBacked_buffer hbase]
    have hrange : ¬ f.argc ≤ index := Nat.not_le.mpr hindex
    have hargc : f.argc ≠ 0 := by omega
    refine ⟨?_, ?_, fun value => ?_⟩
    · rw [h.arg_eq hf, hlost, if_neg hrange]
      cases s.history.overwritten f <;> simp
    · rw [h.args_eq hf, hlost]
      cases s.history.overwritten f <;> simp [hargc]
    · rw [Context.setArg_apply, h.checkAccess_eq hf, hlost, if_neg hrange]
      cases s.history.overwritten f <;> simp

/-- On the small context with three open frames, the outermost answers with what was stored, and the
one in the buffer has lost its argument to the reported values. -/
theorem nested_arguments_answered :
    let first : Frame := { index := 0, serial := 0, argc := 3, base := .stack 0, epoch := 0 }
    let second : Frame := { index := 1, serial := 1, argc := 1, base := .values, epoch := 1 }
    (nested.history.storedAt first 1 = .fixnum 9 ∧ Answers nested first) ∧
      nested.history.overwritten second ∧ Answers nested second :=
  ⟨⟨rfl, arguments_answered nested_reachable (by decide)⟩, rfl,
    arguments_answered nested_reachable (by decide)⟩

end Tracked

end CallEngine
