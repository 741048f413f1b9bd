import CallEngine.Proofs.ContextUses
import CallEngine.Proofs.FrameLife

/-!
# Entering and leaving calls

A call that finds room on its context enters a frame that holds its arguments. When the callee has
returned and its frame is the innermost one, the frame is closed, and the chain of frames is what it
was before the call. If it is not the innermost one, leaving the call is fatal. Neither entering nor
leaving a call takes an interrupt where none is pending, and leaving a call does not change the
reported values.
-/

namespace CallEngine

/-- A single value is the primary one, where there is room for it. -/
theorem ValueChannel.primary_setSingle (c : ValueChannel) (h : 0 < c.capacity) (value : Value) :
    (c.setSingle value).primary = value := by
  change (if (1 : Nat) = 0 then Value.nil else
    ((c.slots.setIfInBounds 0 value)[0]?).getD .nil) = value
  rw [if_neg (by decide), Array.getElem?_setIfInBounds_self_of_lt h, Option.getD_some]

namespace Context

variable {ε : Type} {c c' : Context} {f : Frame} {args : List Value} {outer : List Nat}

/-! ## The chain of frames -/

/-- The serial numbers of the open frames, the outermost first. -/
def serials (c : Context) : List Nat := c.frames.toList.map FrameRecord.serial

/-- The serial number of the frame at a position. -/
theorem getElem?_serials (c : Context) (index : Nat) :
    c.serials[index]? = c.frames[index]?.map FrameRecord.serial := by
  simp [serials]

/-- There are as many serial numbers as open frames. -/
theorem length_serials (c : Context) : c.serials.length = c.depth := by
  simp [serials, depth]

/-- A frame is the innermost one if its serial number is the last one, at its position. -/
theorem exists_record (h : c.serials = outer ++ [f.serial]) (hindex : f.index = outer.length) :
    (∃ record, c.record? f = some record) ∧ f.index + 1 = c.depth := by
  have hserial : c.serials[f.index]? = some f.serial := by
    rw [h, hindex, List.getElem?_concat_length]
  rw [getElem?_serials] at hserial
  obtain ⟨record, hrecord, heq⟩ := Option.map_eq_some_iff.mp hserial
  refine ⟨⟨record, record?_eq_some.mpr ⟨hrecord, heq⟩⟩, ?_⟩
  rw [← length_serials, h, hindex, List.length_append]
  rfl

/-- The frame is open, and all frames that were opened inside of it are closed. -/
structure Innermost (c : Context) (f : Frame) : Prop where
  isOpen : (c.record? f).isSome = true
  last : f.index + 1 = c.depth

/-- If a frame is the innermost one again, the chain is what it was when it was before. -/
theorem Rests.serials_eq (h : c.Rests c') (hserials : c.serials = outer ++ [f.serial])
    (hindex : f.index = outer.length) (hserial : f.serial < c.nextSerial)
    (hinnermost : c'.Innermost f) : c'.serials = c.serials := by
  obtain ⟨record, hrecord⟩ := Option.isSome_iff_exists.mp hinnermost.isOpen
  obtain ⟨hfound, heq⟩ := record?_eq_some.mp hrecord
  obtain ⟨_, hlast⟩ := exists_record hserials hindex
  refine List.ext_getElem? fun i => ?_
  by_cases hi : i ≤ f.index
  · rw [getElem?_serials, getElem?_serials]
    exact h.serials hfound (heq ▸ hserial) i hi
  · rw [List.getElem?_eq_none (by rw [length_serials, ← hinnermost.last]; omega),
      List.getElem?_eq_none (by rw [length_serials, ← hlast]; omega)]

/-! ## Entering a call -/

/-- There is room for as many more frames of this size, one inside the other, once a recovery from a
stack overflow that can end has ended, and the room is in memory. -/
def HasRoom (c : Context) (argc count : Nat) : Prop :=
  argc < c.smallCallThreshold ∨ count * argc ≤ c.settleStack.stack.available ∧
    c.settleStack.stack.Holds (c.settleStack.stack.top + count * argc)

/-- There is room for fewer frames as well. -/
theorem HasRoom.le {argc count fewer : Nat} (h : c.HasRoom argc count) (hle : fewer ≤ count) :
    c.HasRoom argc fewer := by
  have hslots : fewer * argc ≤ count * argc := Nat.mul_le_mul_right argc hle
  exact h.imp_right fun ⟨hroom, hheld⟩ =>
    ⟨Nat.le_trans hslots hroom, hheld.le (Nat.add_le_add_left hslots _)⟩

/-- The arguments of a frame are read if it is open, was not overwritten and holds them. -/
theorem args_eq (hopen : (c.record? f).isSome = true)
    (hkept : f.isBufferBacked = true → f.epoch = c.values.epoch) (hargc : f.argc = args.length)
    (hslots : ∀ (i : Nat) (hi : i < args.length), c.readSlot f i = args[i]) :
    c.args f = .ok args := by
  have hread : (List.range f.argc).map (c.readSlot f) = args := by
    refine List.ext_getElem (by simp [hargc]) fun i hi hi' => ?_
    rw [List.getElem_map, List.getElem_range, hslots i hi']
  have hsome : (c.record? f).isNone = false := by
    rw [← Option.not_isSome, hopen]
    rfl
  unfold Context.args
  by_cases hzero : f.argc = 0
  · have hnil : args = [] := List.length_eq_zero_iff.mp (hargc.symm.trans hzero)
    rw [if_pos hzero, hsome, hnil]
    rfl
  · have haccess : c.checkAccess f 0 = .ok () := by
      have hstale : (f.isBufferBacked && f.epoch != c.values.epoch) = false := by
        cases hbacked : f.isBufferBacked with
        | false => rfl
        | true => simp [hkept hbacked]
      rw [checkAccess, hsome, if_neg Bool.false_ne_true, if_neg (by omega), hstale]
      rfl
    rw [if_neg hzero, haccess]
    exact congrArg Except.ok hread

/-- What a call finds on its context when it was entered with arguments. -/
structure Entered (c : Context) (args : List Value) (f : Frame) (c' : Context) : Prop where
  argc : f.argc = args.length
  holds : c'.args f = .ok args
  index : f.index = c.serials.length
  serials : c'.serials = c.serials ++ [f.serial]
  serial : f.serial < c'.nextSerial
  stays : c.Stays c'
  limit : c'.callArgumentsLimit = c.callArgumentsLimit
  pending : c'.guard.pending = c.guard.pending
  disabled : c'.guard.disabled = c.guard.disabled
  room {count : Nat} (h : c.HasRoom args.length (count + 1)) : c'.HasRoom args.length count

/-- A frame that was just pushed to the chain. -/
theorem serials_push {record : FrameRecord} (hframes : c'.frames = c.frames.push record) :
    c'.serials = c.serials ++ [record.serial] := by
  simp [serials, hframes]

/-- Marking a frame as running does not change its serial number. -/
theorem serials_activate (c' : Context) {record : FrameRecord} (hrecord : c.record? f = some record)
    (hframes : c'.frames = c.frames.setIfInBounds f.index { record with state := .active }) :
    c'.serials = c.serials := by
  have hfound := (record?_eq_some.mp hrecord).1
  refine List.ext_getElem? fun i => ?_
  rw [getElem?_serials, getElem?_serials, hframes, Array.getElem?_setIfInBounds]
  split
  · rename_i heq
    subst heq
    obtain ⟨hlt, _⟩ := Array.getElem?_eq_some_iff.mp hfound
    rw [if_pos hlt, hfound]
    rfl
  · rfl

/-- The frame that is opened in the buffer holds its arguments. -/
theorem readSlot_bufferFrame (hsized : args.length ≤ c.values.capacity) (i : Nat)
    (hi : i < args.length) :
    (c.withBufferFrame args).readSlot (c.bufferFrame args.length) i = args[i] := by
  have hslot : i < c.values.slots.size := Nat.lt_of_lt_of_le hi hsized
  change ((ValueChannel.writeFrom c.values.slots 0 args)[i]?).getD .nil = _
  rw [ValueChannel.getElem?_writeFrom, if_pos (by omega), Nat.sub_zero,
    List.getElem?_eq_getElem hi, Option.getD_some]

/-- The frame that is opened on the operand stack holds its arguments. -/
theorem readSlot_stackFrame (c : Context) (i : Nat) (hi : i < args.length) :
    (c.withStackFrame args).readSlot (c.stackFrame args.length) i = args[i] := by
  change ((c.stack.slots ++ args.toArray)[c.stack.slots.size + i]?).getD .nil = _
  rw [Array.getElem?_append, if_neg (by omega), Nat.add_sub_cancel_left, List.getElem?_toArray,
    List.getElem?_eq_getElem hi, Option.getD_some]

/-- Slots that are taken after a recovery has ended do not make it end once more. -/
theorem settle_withStackFrame (c : Context) (args : List Value) :
    (c.settleStack.withStackFrame args).stack.settle.2 =
      (c.settleStack.withStackFrame args).stack := by
  have hsettled : c.stack.settle.2.canSettle = false := by
    unfold OperandStack.settle OperandStack.canSettle at *
    split
    · rfl
    · rename_i hnot
      exact Bool.eq_false_iff.mpr hnot
  have hstays : (c.settleStack.withStackFrame args).stack.canSettle = false := by
    have htop : (c.settleStack.withStackFrame args).stack.top =
        c.stack.settle.2.top + args.length := by
      simp [withStackFrame, settleStack, OperandStack.top]
    unfold OperandStack.canSettle at hsettled ⊢
    rw [htop]
    change (c.stack.settle.2.safetyOpen &&
      decide (c.stack.settle.2.top + args.length < c.stack.settle.2.logicalEnd)) = false
    simp only [Bool.and_eq_false_imp, decide_eq_false_iff_not] at hsettled ⊢
    intro hopen
    have hfull := hsettled hopen
    omega
  rw [OperandStack.settle, hstays]
  rfl

/-- A frame that was just opened is entered once it is marked as running. -/
theorem entered_of_push (opened : Context) {record : FrameRecord}
    (hframes : opened.frames = c.frames.push record) (hserial : record.serial = f.serial)
    (hindex : f.index = c.depth) (hnext : f.serial < opened.nextSerial)
    (hargc : f.argc = args.length)
    (hkept : f.isBufferBacked = true → f.epoch = opened.values.epoch)
    (hslots : ∀ (i : Nat) (hi : i < args.length), opened.readSlot f i = args[i])
    (hstays : c.Stays opened) (hlimit : opened.callArgumentsLimit = c.callArgumentsLimit)
    (hguard : opened.guard.pending = c.guard.pending ∧ opened.guard.disabled = c.guard.disabled)
    (hroom : ∀ count, c.HasRoom args.length (count + 1) → opened.HasRoom args.length count) :
    ∃ active, activate f { opened with journal := [] } = .done () active ∧
      c.Entered args f { active with journal := [] } := by
  have hserials : opened.serials = c.serials ++ [f.serial] := hserial ▸ serials_push hframes
  have hlength : f.index = c.serials.length := hindex.trans c.length_serials.symm
  obtain ⟨⟨found, hfound⟩, hlast⟩ := exists_record hserials hlength
  have hfound' : ({ opened with journal := [] } : Context).record? f = some found := hfound
  refine ⟨_, activate_done hfound', ?_⟩
  have hactive := serials_activate { opened with
    frames := opened.frames.setIfInBounds f.index { found with state := .active }
    journal := [] } hfound rfl
  have hrecord := (exists_record (hactive.trans hserials) hlength).1
  exact {
    argc := hargc
    holds := args_eq (Option.isSome_iff_exists.mpr hrecord) hkept hargc hslots
    index := hlength
    serials := hactive.trans hserials
    serial := hnext
    stays := hstays.trans ⟨rfl, rfl, rfl, .activate hfound rfl rfl⟩
    limit := hlimit
    pending := hguard.1
    disabled := hguard.2
    room := fun {count} h => hroom count h }

/-- A call that finds room enters a frame that holds its arguments. -/
theorem exists_entered (hlimit : args.length ≤ c.callArgumentsLimit)
    (hsized : c.smallCallThreshold ≤ c.values.capacity) (hroom : c.HasRoom args.length 1) :
    ∃ f opened active,
      openFrameWith args { c.settleStack with journal := [] } = .done f opened ∧
      activate f { opened with journal := [] } = .done () active ∧
      c.Entered args f { active with journal := [] } := by
  have hends := openFrameWith_ends args { c.settleStack with journal := [] }
  have hlacks : ¬ ({ c.settleStack with journal := [] } : Context).LacksRoom args.length := by
    intro hlacks
    rcases hroom with hsmall | ⟨hfits, _⟩
    · exact absurd hlacks.large (Nat.not_le.mpr hsmall)
    · have hshort : c.settleStack.stack.available < args.length := hlacks.short
      omega
  have hheld : ¬ ({ c.settleStack with journal := [] } : Context).LacksMemory args.length := by
    intro hlacks
    rcases hroom with hsmall | ⟨_, hheld⟩
    · exact absurd hlacks.large (Nat.not_le.mpr hsmall)
    · rw [Nat.one_mul] at hheld
      exact hlacks.unheld hheld
  generalize openFrameWith args { c.settleStack with journal := [] } = o at hends
  cases hends with
  | tooMany hmany =>
    have hmany : c.callArgumentsLimit < args.length := hmany
    omega
  | buffer hsmall =>
    have hsmall : args.length < c.smallCallThreshold := hsmall
    have hfits : args.length ≤ c.values.capacity := by omega
    have hstays : c.Stays (withBufferFrame { c.settleStack with journal := [] } args) :=
      ⟨rfl, rfl, ValueChannel.size_writeFrom _ _ _, .push rfl rfl rfl⟩
    obtain ⟨active, hactive, hentered⟩ := entered_of_push (c := c)
      (withBufferFrame { c.settleStack with journal := [] } args) rfl rfl rfl (Nat.lt_succ_self _)
      rfl (fun _ => rfl) (readSlot_bufferFrame hfits) hstays rfl c.settleStack_guard
      fun _ _ => .inl hsmall
    exact ⟨_, _, active, rfl, hactive, hentered⟩
  | fault hlacks' => exact absurd hlacks' hheld
  | stack hfits hmemory =>
    have hfits : args.length ≤ c.settleStack.stack.available := hfits
    have hstays : c.Stays (withStackFrame { c.settleStack with journal := [] } args) :=
      ⟨rfl, rfl, rfl, .push rfl rfl rfl⟩
    have hleft (count : Nat) (h : c.HasRoom args.length (count + 1)) :
        (withStackFrame { c.settleStack with journal := [] } args).HasRoom args.length count := by
      refine h.imp_right fun ⟨hmore, hheldMore⟩ => ?_
      have havailable : (withStackFrame { c.settleStack with journal := [] }
          args).settleStack.stack.available = c.settleStack.stack.available - args.length := by
        change (c.settleStack.withStackFrame args).stack.settle.2.available = _
        rw [settle_withStackFrame]
        change c.settleStack.stack.limit - (c.settleStack.stack.slots ++ args.toArray).size = _
        rw [Array.size_append, List.size_toArray, ← Nat.sub_sub]
        rfl
      have htop : (withStackFrame { c.settleStack with journal := [] } args).settleStack.stack.top =
          c.settleStack.stack.top + args.length := by
        change (c.settleStack.withStackFrame args).stack.settle.2.top = _
        rw [settle_withStackFrame]
        change (c.settleStack.stack.slots ++ args.toArray).size = _
        rw [Array.size_append, List.size_toArray]
        rfl
      have hregion : (withStackFrame { c.settleStack with journal := [] }
          args).settleStack.stack.region = c.settleStack.stack.region := by
        change (c.settleStack.withStackFrame args).stack.settle.2.region = _
        rw [settle_withStackFrame]
        rfl
      rw [Nat.succ_mul] at hmore hheldMore
      refine ⟨?_, ?_⟩
      · rwa [havailable, Nat.le_sub_iff_add_le hfits]
      · rw [OperandStack.Holds, hregion, htop]
        exact hheldMore.le (by omega)
    have hkept (hbacked : (stackFrame { c.settleStack with journal := [] }
        args.length).isBufferBacked = true) : False := Bool.noConfusion hbacked
    obtain ⟨active, hactive, hentered⟩ := entered_of_push (c := c)
      (withStackFrame { c.settleStack with journal := [] } args) rfl rfl rfl (Nat.lt_succ_self _)
      rfl (fun hbacked => (hkept hbacked).elim) (readSlot_stackFrame _) hstays rfl
      c.settleStack_guard hleft
    exact ⟨_, _, active, rfl, hactive, hentered⟩
  | overflow hlacks' _ _ => exact absurd hlacks' hlacks
  | exhausted hlacks' _ _ _ => exact absurd hlacks' hlacks
  | doubleFault hlacks' _ _ _ _ => exact absurd hlacks' hlacks

/-! ## Leaving a call -/

/-- What a call leaves on its context when its frame was closed. -/
structure Left (c : Context) (outer : List Nat) (c' : Context) : Prop where
  serials : c'.serials = outer
  values : c'.values = c.values
  pending : c'.guard.pending = c.guard.pending

/-- Closing a frame that is not the innermost one is fatal. -/
theorem closeFrame_fatal (h : ¬ c.Innermost f) :
    ∃ message, closeFrame (ε := ε) f c = .fatal message c := by
  cases hrecord : c.record? f with
  | none => exact ⟨_, closeFrame_of_none hrecord⟩
  | some record =>
    have hlast : f.index + 1 ≠ c.depth := fun hlast =>
      h ⟨Option.isSome_iff_exists.mpr ⟨record, hrecord⟩, hlast⟩
    obtain ⟨hlt, _⟩ := Array.getElem?_eq_some_iff.mp (record?_eq_some.mp hrecord).1
    have hindex : f.index < c.depth := hlt
    obtain ⟨inner, hinner⟩ := Nat.exists_eq_add_of_le (Nat.succ_le_of_lt hindex)
    exact ⟨_, closeFrame_of_inner hrecord hinner (by omega)⟩

/-- A call whose frame is the innermost one is left, and no interrupt is taken where none is
pending. -/
theorem exists_left (h : c.serials = outer ++ [f.serial]) (hindex : f.index = outer.length)
    (hquiet : c.guard.pending.Encodes ∅) :
    ∃ closed final, closeFrame (ε := ε) f c = .done () closed ∧
      safePoint { closed with journal := [] } = .done () final ∧
      c.Left outer { final with journal := [] } := by
  obtain ⟨⟨record, hrecord⟩, hlast⟩ := exists_record h hindex
  have hclose : closeFrame (ε := ε) f c = .done () (c.withoutFrame f record).settleStack := by
    rw [← settleStack_popFrame]
    simp [closeFrame, Op.bind_apply, Op.get, Op.modify, hrecord, hlast]
  have hpending : (c.withoutFrame f record).settleStack.guard.pending = c.guard.pending :=
    (c.withoutFrame f record).settleStack_guard.1
  have hidle := safePoint_idle
    (c := { (c.withoutFrame f record).settleStack with journal := [] }) (hpending ▸ hquiet)
    (.inr rfl)
  refine ⟨_, _, hclose, hidle, ?_, rfl, ?_⟩
  · change (c.frames.pop.toList.map FrameRecord.serial) = outer
    have hpop : c.frames.pop.toList.map FrameRecord.serial = c.serials.dropLast := by
      simp [serials, List.map_dropLast]
    rw [hpop, h, List.dropLast_concat]
  · exact (settleStack_guard _).1.trans hpending

end Context

end CallEngine
