import CallEngine.Context
import Mathlib.Algebra.Group.Nat.Defs
import Mathlib.Data.List.Basic

/-!
# Writing runs of slots

Arguments and reported values are written to consecutive slots, in the buffer of reported values and
on the operand stack alike. Here is what a slot holds afterwards, and that filling a frame
overwrites everything the frame was opened with.
-/

namespace CallEngine

/-- Writing one slot changes what it holds, and nothing else. -/
theorem getElem?_setIfInBounds_of_some {slots : Array Value} {j : Nat} {old : Value}
    (h : slots[j]? = some old) (index : Nat) (value : Value) :
    (slots.setIfInBounds index value)[j]? = some (if index = j then value else old) := by
  obtain ⟨hj, _⟩ := Array.getElem?_eq_some_iff.mp h
  rw [Array.getElem?_setIfInBounds]
  by_cases hindex : index = j
  · subst hindex
    rw [if_pos rfl, if_pos hj, if_pos rfl]
  · rw [if_neg hindex, if_neg hindex]
    exact h

namespace ValueChannel

/-- There can be a channel if its slots have fewer bytes than an allocation may have. -/
theorem create_apply {σ ε : Type} (limit : Nat) (s : σ) :
    create (ε := ε) limit s =
      if limit < 2 ^ 59 then .done (blank limit) s else .fatal (.panic .capacity) s := by
  have hlarge : Machine.allocationLimit < max limit 1 * Region.slotBytes ↔ ¬ limit < 2 ^ 59 := by
    have hbytes : Machine.allocationLimit = 2 ^ 63 - 1 := rfl
    rw [hbytes, Region.slotBytes]
    omega
  unfold create
  by_cases hsmall : limit < 2 ^ 59
  · rw [if_neg (mt hlarge.mp (not_not_intro hsmall)), if_pos hsmall]
    rfl
  · rw [if_pos (hlarge.mpr hsmall), if_neg hsmall]
    rfl

/-- Writing keeps the number of slots. -/
@[simp] theorem size_writeFrom (slots : Array Value) (index : Nat) (values : List Value) :
    (writeFrom slots index values).size = slots.size := by
  induction values generalizing slots index with
  | nil => rfl
  | cons v rest ih => simp [writeFrom, ih]

/-- A slot of the written run holds the value written to it, and every other slot is unchanged. -/
theorem getElem?_writeFrom (slots : Array Value) (index : Nat) (values : List Value) (j : Nat) :
    (writeFrom slots index values)[j]? =
      if index ≤ j ∧ j < index + values.length ∧ j < slots.size then values[j - index]?
      else slots[j]? := by
  induction values generalizing slots index with
  | nil =>
    rw [writeFrom, if_neg]
    rw [List.length_nil]
    omega
  | cons v rest ih =>
    rw [writeFrom, ih, Array.getElem?_setIfInBounds, Array.size_setIfInBounds]
    rcases Nat.lt_trichotomy j index with hlt | rfl | hgt
    · simp [show ¬ index + 1 ≤ j by omega, show ¬ index ≤ j by omega, show index ≠ j by omega]
    · by_cases hj : j < slots.size <;> simp [hj, show ¬ j + 1 ≤ j by omega]
    · have hsub : j - index = j - (index + 1) + 1 := by omega
      have hrun : index + 1 ≤ j ∧ j < index + 1 + rest.length ∧ j < slots.size ↔
          index ≤ j ∧ j < index + (rest.length + 1) ∧ j < slots.size := by omega
      rw [if_neg (Nat.ne_of_lt hgt), hsub, List.getElem?_cons_succ, List.length_cons]
      simp only [hrun]

/-- Writing a run of the same length again overwrites the first one. -/
theorem writeFrom_writeFrom (slots : Array Value) (index : Nat) {first second : List Value}
    (hlength : first.length = second.length) :
    writeFrom (writeFrom slots index first) index second = writeFrom slots index second := by
  apply Array.ext_getElem?
  intro j
  simp only [getElem?_writeFrom, size_writeFrom, hlength]
  split <;> rfl

/-- Writing over the slots that were just added replaces them. -/
theorem writeFrom_append (slots : Array Value) (values : List Value) (filler : Value) :
    writeFrom (slots ++ Array.replicate values.length filler) slots.size values =
      slots ++ values.toArray := by
  apply Array.ext_getElem?
  intro j
  rw [getElem?_writeFrom, Array.getElem?_append, Array.getElem?_append, Array.size_append,
    Array.size_replicate, List.getElem?_toArray]
  by_cases hj : j < slots.size
  · simp [hj, show ¬ slots.size ≤ j by omega]
  · by_cases hrun : j < slots.size + values.length
    · simp [hj, hrun, show slots.size ≤ j by omega]
    · have hpast : ¬ j - slots.size < values.length := by omega
      simp [hj, hrun, hpast]

end ValueChannel

namespace OperandStack

variable {s : OperandStack} {n : Nat}

/-- Fewer slots are in memory as well. -/
theorem Holds.le {m : Nat} (h : s.Holds n) (hle : m ≤ n) : s.Holds m :=
  Nat.le_trans (Nat.mul_le_mul_right _ hle) h

/-- A reservation for which there is room and memory is granted. -/
theorem reserve_of_room (hroom : n ≤ s.available) (hheld : s.Holds (s.top + n)) :
    reserve n s = .done s.top
      { s with
        slots := s.slots ++ Array.replicate n .nil
        peak := max s.peak (s.top + n)
        reservations := s.reservations + 1 } := by
  simp [reserve, Op.bind_apply, Op.get, Op.modify, hroom, hheld]

/-- A reservation for which there is room, but no memory, writes where nothing can be accessed. -/
theorem reserve_of_unheld (hroom : n ≤ s.available) (hunheld : ¬ s.Holds (s.top + n)) :
    reserve n s = .fatal .fault s := by
  simp [reserve, Op.bind_apply, Op.get, hroom, hunheld, Op.stop]

/-- A reservation for which there is no room is refused, and leaves the safety area open. -/
theorem reserve_of_full (hfull : ¬ n ≤ s.available) :
    reserve n s =
      .failed (if s.safetyOpen then .exhausted n s.available else .overflow n s.available)
        { s with safetyOpen := true } := by
  cases hopen : s.safetyOpen with
  | false => simp [reserve, Op.bind_apply, Op.get, Op.modify, hfull, hopen, Op.fail]
  | true =>
    have hsame : { s with safetyOpen := true } = s := by rw [← hopen]
    simp [reserve, Op.bind_apply, Op.get, hfull, hopen, Op.fail, hsame]

/-- Giving up slots leaves those below the offset in use. -/
theorem top_truncate (s : OperandStack) (offset : Nat) :
    (s.truncate offset).top = min offset s.top := by
  unfold truncate
  split
  · simp [top]
  · rw [Nat.min_eq_right (by omega)]

/-- Giving up slots leaves the content of those below the offset. -/
theorem getElem?_truncate (s : OperandStack) {offset index : Nat} (hindex : index < offset) :
    (s.truncate offset).slots[index]? = s.slots[index]? := by
  unfold truncate
  split
  · rename_i hlower
    have hkept : index < min offset s.slots.size :=
      Nat.lt_min.mpr ⟨hindex, Nat.lt_trans hindex hlower⟩
    simp [hkept]
  · rfl

end OperandStack

namespace Context

/-- Storing an argument of a frame in the buffer writes a slot of the buffer. -/
theorem writeSlot_buffer {f : Frame} (hbase : f.base = .values) (index : Nat) (value : Value)
    (c : Context) :
    writeSlot f index value c = { c with values := c.values.setSlot index value } := by
  simp only [writeSlot, hbase]

/-- Storing an argument of a frame on the operand stack writes a slot of the stack. -/
theorem writeSlot_stack {f : Frame} {offset : Nat} (hbase : f.base = .stack offset) (index : Nat)
    (value : Value) (c : Context) :
    writeSlot f index value c = { c with stack := (c.stack.set (offset + index) value).2 } := by
  simp only [writeSlot, hbase]

/-- Filling a frame in the buffer writes a run of its slots. -/
theorem writeSlots_buffer {f : Frame} (hbase : f.base = .values) (index : Nat) (args : List Value)
    (c : Context) :
    writeSlots f index args c =
      { c with values :=
        { c.values with slots := ValueChannel.writeFrom c.values.slots index args } } := by
  induction args generalizing index c with
  | nil => rfl
  | cons v rest ih =>
    rw [writeSlots, ih, writeSlot_buffer hbase]
    rfl

/-- Filling a frame on the operand stack writes a run of its slots. -/
theorem writeSlots_stack {f : Frame} {offset : Nat} (hbase : f.base = .stack offset) (index : Nat)
    (args : List Value) (c : Context) :
    writeSlots f index args c =
      { c with stack :=
        { c.stack with slots := ValueChannel.writeFrom c.stack.slots (offset + index) args } } := by
  induction args generalizing index c with
  | nil => rfl
  | cons v rest ih =>
    rw [writeSlots, ih, writeSlot_stack hbase]
    rfl

end Context

end CallEngine
