import CallEngine.Proofs.StackRecovery
import Mathlib.Data.List.Infix
import Mathlib.Order.Bounds.Basic

/-!
# The contents of the operand stack

Whatever is asked of an operand stack, it is a list of values that grows and shrinks at its end. The
list has an ordinary bound, and a higher one while its spare room is open. An operand stack and such
a list that are asked the same things give the same answers, and hold the same values after each of
them.

Usage never passes the bound that is in force, so the room that is left is a true difference. The
peak of an operand stack is the highest usage that it ever had.

An operand stack writes to its slots without looking at the memory they are in. So it is such a list
as long as the list fits into the memory, and a reservation that does not fit stops the program. All
lists that the bounds allow fit, unless the stack is protected and its size wraps.
-/

namespace CallEngine

/-- What can be asked of an operand stack. -/
inductive StackUse where
  | reserve (n : Nat)
  | releaseTo (offset : Nat)
  | settle
  | get (index : Nat)
  | set (index : Nat) (value : Value)
deriving Repr

/-- What an operand stack answers. -/
inductive StackAnswer where
  /-- The offset of the reserved slots, or why there are none. -/
  | reserved (result : Except StackExhausted Nat)
  /-- Whether the safety area was closed. -/
  | settled (closed : Bool)
  | found (value : Option Value)
  /-- Whether the slot was in use, and is now written. -/
  | written (inUse : Bool)
deriving Repr, DecidableEq

namespace StackUse

/-- The uses that may close the safety area. -/
def Settles : StackUse → Prop
  | .releaseTo _ | .settle => True
  | .reserve _ | .get _ | .set _ _ => False

end StackUse

/-! ## Lists with spare room -/

/-- A list that holds `ordinary` values, and `spare` more while its spare room is open. -/
structure SlotList where
  ordinary : Nat
  spare : Nat
  values : List Value := []
  spareOpen : Bool := false
deriving Repr, DecidableEq

namespace SlotList

/-- How many values the list may hold now. -/
def bound (l : SlotList) : Nat := if l.spareOpen then l.ordinary + l.spare else l.ordinary

/-- Why `n` values cannot be added. -/
def refusal (l : SlotList) (n : Nat) : StackExhausted :=
  if l.spareOpen then .exhausted n (l.bound - l.values.length)
  else .overflow n (l.bound - l.values.length)

/-- Add `n` nils at the end if there is room for them, and open the spare room otherwise. -/
def reserve (l : SlotList) (n : Nat) : StackAnswer × SlotList :=
  if l.values.length + n ≤ l.bound then
    (.reserved (.ok l.values.length), { l with values := l.values ++ List.replicate n .nil })
  else (.reserved (.error (l.refusal n)), { l with spareOpen := true })

/-- Close the spare room if the list is shorter than its ordinary bound. -/
def settle (l : SlotList) : StackAnswer × SlotList :=
  if l.spareOpen ∧ l.values.length < l.ordinary then (.settled true, { l with spareOpen := false })
  else (.settled false, l)

/-- Replace a value of the list. -/
def set (l : SlotList) (index : Nat) (value : Value) : StackAnswer × SlotList :=
  if index < l.values.length then (.written true, { l with values := l.values.set index value })
  else (.written false, l)

/-- What the list answers to a use, and what it is afterwards. -/
def use (l : SlotList) : StackUse → StackAnswer × SlotList
  | .reserve n => l.reserve n
  | .releaseTo offset => { l with values := l.values.take offset }.settle
  | .settle => l.settle
  | .get index => (.found l.values[index]?, l)
  | .set index value => l.set index value

/-- What the list answers to one use after another, and what it is afterwards. -/
def serve (l : SlotList) : List StackUse → List StackAnswer × SlotList
  | [] => ([], l)
  | u :: rest => ((l.use u).1 :: ((l.use u).2.serve rest).1, ((l.use u).2.serve rest).2)

/-- The number of values that the list holds after the uses. -/
def lengthAfter (l : SlotList) (uses : List StackUse) : Nat := (l.serve uses).2.values.length

@[simp] theorem lengthAfter_nil (l : SlotList) : l.lengthAfter [] = l.values.length := rfl

@[simp] theorem lengthAfter_cons (l : SlotList) (u : StackUse) (rest : List StackUse) :
    l.lengthAfter (u :: rest) = (l.use u).2.lengthAfter rest := rfl

end SlotList

namespace OperandStack

variable {slots guardSlots : Nat} {guarded : Bool} {s s' : OperandStack}

/-- Serve a use. -/
def use : StackUse → Op OperandStack Empty StackAnswer
  | .reserve n => do
    let result ← (reserve n).attempt
    return .reserved result
  | .releaseTo offset => do
    let closed ← Op.change fun s => s.releaseTo offset
    return .settled closed
  | .settle => do
    let closed ← Op.change OperandStack.settle
    return .settled closed
  | .get index => Op.gets fun s => .found (s.get? index)
  | .set index value => do
    let inUse ← Op.change fun s => s.set index value
    return .written inUse

/-- Serve one use after another. -/
def serve : List StackUse → Op OperandStack Empty (List StackAnswer)
  | [] => return []
  | u :: rest => do
    let answer ← use u
    let answers ← serve rest
    return answer :: answers

/-- The list that the stack is. -/
def view (s : OperandStack) : SlotList where
  ordinary := s.logicalEnd
  spare := s.guardSlots
  values := s.slots.toList
  spareOpen := s.safetyOpen

@[simp] theorem length_view (s : OperandStack) : s.view.values.length = s.top := by
  simp [view, top]

/-! ## What every use keeps -/

/-- The bounds of a stack with these numbers of slots. The slots in use are in memory. -/
structure Sound (slots guardSlots : Nat) (s : OperandStack) : Prop where
  capacity : s.capacity = slots
  guardSlots : s.guardSlots = guardSlots
  top_le_limit : s.top ≤ s.limit
  top_le_peak : s.top ≤ s.peak
  held : s.Holds s.top

/-- A reservation that ends within the limit and in memory is granted. -/
theorem use_reserve_of_le {n : Nat} (hroom : s.top + n ≤ s.limit) (hheld : s.Holds (s.top + n)) :
    use (.reserve n) s = .done (.reserved (.ok s.top))
      { s with
        slots := s.slots ++ Array.replicate n .nil
        peak := max s.peak (s.top + n)
        reservations := s.reservations + 1 } := by
  have hfits : n ≤ s.available := by
    unfold available
    omega
  simp [use, Op.bind_apply, Op.attempt, reserve_of_room hfits hheld]

/-- A reservation that ends within the limit, but not in memory, stops the program. -/
theorem use_reserve_of_unheld {n : Nat} (hroom : s.top + n ≤ s.limit)
    (hunheld : ¬ s.Holds (s.top + n)) : use (.reserve n) s = .fatal .fault s := by
  have hfits : n ≤ s.available := by
    unfold available
    omega
  simp [use, Op.bind_apply, Op.attempt, reserve_of_unheld hfits hunheld]

/-- A reservation that ends past the limit is refused, and leaves the safety area open. -/
theorem use_reserve_of_lt (htop : s.top ≤ s.limit) {n : Nat} (hlacks : s.limit < s.top + n) :
    use (.reserve n) s =
      .done (.reserved (.error (if s.safetyOpen then .exhausted n s.available
        else .overflow n s.available))) { s with safetyOpen := true } := by
  -- With usage past the limit a reservation of no slots would be granted all the same.
  have hshort : ¬ n ≤ s.available := by
    unfold available
    omega
  simp [use, Op.bind_apply, Op.attempt, reserve_of_full hshort]

/-- Giving up slots takes them from the end, and counts if there are any. -/
theorem truncate_eq (s : OperandStack) (offset : Nat) :
    s.truncate offset =
      { s with
        slots := s.slots.take offset
        releases := s.releases + if offset < s.top then 1 else 0 } := by
  unfold truncate
  split
  · rfl
  · rename_i hin
    have hall : s.slots.take offset = s.slots :=
      Array.extract_eq_self_of_le (Nat.le_of_not_lt hin)
    rw [hall, Nat.add_zero]

/-- The safety area stays open while usage is not below the logical end. -/
theorem settle_eq (s : OperandStack) :
    s.settle.2 = { s with safetyOpen := s.safetyOpen && decide (s.logicalEnd ≤ s.top) } := by
  have hopen : s.settle.2.safetyOpen = (s.safetyOpen && decide (s.logicalEnd ≤ s.top)) := by
    rw [Bool.eq_iff_iff, safetyOpen_settle]
    simp
  rw [← hopen]
  unfold settle
  split <;> rfl

/-! ## Uses of the list -/

/-- Giving up slots is giving up the end of the list. -/
theorem view_truncate (s : OperandStack) (offset : Nat) :
    (s.truncate offset).view = { s.view with values := s.view.values.take offset } := by
  rw [truncate_eq]
  simp [view, logicalEnd]

/-- The safety area is the spare room of the list. -/
theorem settle_view (s : OperandStack) :
    s.view.settle = (.settled s.settle.1, s.settle.2.view) := by
  have hsettles :
      s.canSettle = true ↔ s.view.spareOpen ∧ s.view.values.length < s.view.ordinary := by
    rw [length_view]
    simp [canSettle, view]
  unfold SlotList.settle settle
  simp only [← hsettles]
  split <;> rfl

namespace Sound

/-- Room for more is room in the list. -/
theorem bound_view (h : s.Sound slots guardSlots) (hguard : guardSlots < slots) :
    s.view.bound = s.limit := by
  have hend : s.logicalEnd + s.guardSlots = s.capacity := by
    rw [logicalEnd, h.capacity, h.guardSlots]
    omega
  simp only [SlotList.bound, limit, view, hend]

end Sound

/-- A use was served: the answer is that of the list, and so is what the stack is afterwards. The
peak rises with usage, and never falls. -/
structure Served (s : OperandStack) (u : StackUse) (answer : StackAnswer) (s' : OperandStack) :
    Prop where
  run : use u s = .done answer s'
  view : s.view.use u = (answer, s'.view)
  region : s'.region = s.region
  peak : s'.peak = max s.peak s'.top

namespace Sound

/-- A reservation is served if it is refused, or if its slots are in memory. -/
theorem served_reserve (h : s.Sound slots guardSlots) (hguard : guardSlots < slots) {n : Nat}
    (hheld : s.top + n ≤ s.limit → s.Holds (s.top + n)) :
    ∃ answer s', Served s (.reserve n) answer s' ∧ s'.Sound slots guardSlots := by
  by_cases hroom : s.top + n ≤ s.limit
  · have hview : s.view.reserve n = (.reserved (.ok s.top),
        { s.view with values := s.view.values ++ List.replicate n .nil }) := by
      rw [SlotList.reserve, h.bound_view hguard, length_view, if_pos hroom]
    refine ⟨_, _, ⟨use_reserve_of_le hroom (hheld hroom), ?_, rfl, ?_⟩, ?_⟩
    · rw [SlotList.use, hview]
      simp [view, logicalEnd]
    · simp [top]
    · refine ⟨h.capacity, h.guardSlots, ?_, ?_, ?_⟩
      · simpa [top, limit, logicalEnd] using hroom
      · simp [top]
      · simpa [top, Holds] using hheld hroom
  · have hlacks := Nat.lt_of_not_le hroom
    refine ⟨_, _, ⟨use_reserve_of_lt h.top_le_limit hlacks, ?_, rfl, ?_⟩, ?_⟩
    · rw [SlotList.use, SlotList.reserve, h.bound_view hguard, length_view, if_neg hroom,
        SlotList.refusal, h.bound_view hguard, length_view]
      rfl
    · exact (max_eq_left h.top_le_peak).symm
    · exact ⟨h.capacity, h.guardSlots, Nat.le_trans h.top_le_limit s.limit_le_capacity,
        h.top_le_peak, h.held⟩

/-- The bounds hold after slots are given up. -/
theorem truncate (h : s.Sound slots guardSlots) (offset : Nat) :
    (s.truncate offset).Sound slots guardSlots := by
  have hlimit := top_le_limit_truncate h.top_le_limit offset
  have htop : (s.truncate offset).top ≤ s.top := by
    rw [top_truncate]
    exact Nat.min_le_right _ _
  rw [truncate_eq] at hlimit htop ⊢
  exact ⟨h.capacity, h.guardSlots, hlimit, Nat.le_trans htop h.top_le_peak, h.held.le htop⟩

/-- The bounds hold after the safety area may have been closed. -/
theorem settle (h : s.Sound slots guardSlots) : s.settle.2.Sound slots guardSlots := by
  have hlimit := top_le_limit_settle h.top_le_limit
  rw [settle_eq] at hlimit ⊢
  exact ⟨h.capacity, h.guardSlots, hlimit, h.top_le_peak, h.held⟩

/-- Giving up slots is served. -/
theorem served_releaseTo (h : s.Sound slots guardSlots) (offset : Nat) :
    ∃ answer s', Served s (.releaseTo offset) answer s' ∧ s'.Sound slots guardSlots := by
  have hsound := (h.truncate offset).settle
  have hbelow : (s.releaseTo offset).2.top ≤ (s.releaseTo offset).2.peak := hsound.top_le_peak
  refine ⟨_, (s.releaseTo offset).2, ⟨rfl, ?_, ?_, ?_⟩, hsound⟩
  · rw [SlotList.use, ← view_truncate]
    exact settle_view (s.truncate offset)
  · rw [releaseTo, settle_eq, truncate_eq]
  · have hpeak : (s.releaseTo offset).2.peak = s.peak := by rw [releaseTo, settle_eq, truncate_eq]
    rw [hpeak] at hbelow ⊢
    exact (max_eq_left hbelow).symm

/-- Closing the safety area is served. -/
theorem served_settle (h : s.Sound slots guardSlots) :
    ∃ answer s', Served s .settle answer s' ∧ s'.Sound slots guardSlots := by
  refine ⟨_, s.settle.2, ⟨rfl, settle_view s, ?_, ?_⟩, h.settle⟩
  · rw [settle_eq]
  · rw [settle_eq]
    exact (max_eq_left h.top_le_peak).symm

/-- Writing a slot is served. -/
theorem served_set (h : s.Sound slots guardSlots) (index : Nat) (value : Value) :
    ∃ answer s', Served s (.set index value) answer s' ∧ s'.Sound slots guardSlots := by
  have htop : (s.set index value).2.top = s.top := by simp [OperandStack.set, top]
  refine ⟨_, (s.set index value).2, ⟨rfl, ?_, rfl, ?_⟩, ?_⟩
  · rw [SlotList.use, SlotList.set, length_view]
    by_cases hindex : index < s.top
    · simp [OperandStack.set, hindex, view, logicalEnd]
    · have hsame : s.slots.setIfInBounds index value = s.slots :=
        Array.setIfInBounds_eq_of_size_le (Nat.le_of_not_lt hindex)
      simp [OperandStack.set, hindex, hsame]
  · rw [htop]
    exact (max_eq_left h.top_le_peak).symm
  · exact ⟨h.capacity, h.guardSlots, htop ▸ h.top_le_limit, htop ▸ h.top_le_peak, htop ▸ h.held⟩

/-- Every use is served as the list serves it, or it is a reservation within the limit that ends
where there is no memory. -/
theorem use_ends (h : s.Sound slots guardSlots) (hguard : guardSlots < slots) (u : StackUse) :
    (∃ answer s', Served s u answer s' ∧ s'.Sound slots guardSlots) ∨
      use u s = .fatal .fault s ∧ ¬ s.Holds (s.view.use u).2.values.length := by
  cases u with
  | reserve n =>
    by_cases hfault : s.top + n ≤ s.limit ∧ ¬ s.Holds (s.top + n)
    · refine .inr ⟨use_reserve_of_unheld hfault.1 hfault.2, ?_⟩
      rw [SlotList.use, SlotList.reserve, h.bound_view hguard, length_view, if_pos hfault.1]
      simpa using hfault.2
    · refine .inl (h.served_reserve hguard fun hroom => ?_)
      by_contra hunheld
      exact hfault ⟨hroom, hunheld⟩
  | releaseTo offset => exact .inl (h.served_releaseTo offset)
  | settle => exact .inl h.served_settle
  | get index =>
    refine .inl ⟨_, s, ⟨rfl, ?_, rfl, (max_eq_left h.top_le_peak).symm⟩, h⟩
    simp [SlotList.use, get?, view]
  | set index value => exact .inl (h.served_set index value)

end Sound

/-- The safety area is closed by a settlement that finds usage below the logical end. -/
theorem settle_closes_iff (hopen : s.safetyOpen = true) :
    s.settle.2.safetyOpen = false ↔ s.settle.2.top < s.logicalEnd := by
  rw [top_settle, settle_eq]
  simp [hopen]

/-- A reservation does not close the safety area. -/
theorem safetyOpen_of_reserve (hopen : s.safetyOpen = true) {n : Nat} {answer : StackAnswer}
    (h : use (.reserve n) s = .done answer s') : s'.safetyOpen = true := by
  by_cases hroom : n ≤ s.available
  · by_cases hheld : s.Holds (s.top + n)
    · simp only [use, Op.bind_apply, Op.attempt, reserve_of_room hroom hheld] at h
      cases h
      exact hopen
    · simp only [use, Op.bind_apply, Op.attempt, reserve_of_unheld hroom hheld] at h
      cases h
  · simp only [use, Op.bind_apply, Op.attempt, reserve_of_full hroom] at h
    cases h
    rfl

/-- The safety area is closed by giving up slots or settling, if usage is then below the logical
end, and by nothing else. -/
theorem closes_iff (hopen : s.safetyOpen = true) (u : StackUse) {answer : StackAnswer}
    (h : use u s = .done answer s') :
    s'.safetyOpen = false ↔ u.Settles ∧ s'.top < s.logicalEnd := by
  cases u with
  | reserve n => simp [safetyOpen_of_reserve hopen h, StackUse.Settles]
  | releaseTo offset =>
    cases h
    have hopened : (s.truncate offset).safetyOpen = true := by rw [truncate_eq, hopen]
    have hend : (s.truncate offset).logicalEnd = s.logicalEnd := by rw [truncate_eq]; rfl
    have hcloses := settle_closes_iff hopened
    rw [hend] at hcloses
    simpa [releaseTo, StackUse.Settles] using hcloses
  | settle =>
    cases h
    simpa [StackUse.Settles] using settle_closes_iff hopen
  | get index =>
    cases h
    simp [hopen, StackUse.Settles]
  | set index value =>
    cases h
    simp [OperandStack.set, hopen, StackUse.Settles]

/-! ## Use after use -/

/-- The rest of the uses is served in the state that the first has left. -/
theorem serve_cons {u : StackUse} {answer : StackAnswer} (h : use u s = .done answer s')
    (rest : List StackUse) :
    serve (u :: rest) s =
      match serve rest s' with
      | .done answers final => .done (answer :: answers) final
      | .failed error final => .failed error final
      | .fatal why final => .fatal why final := by
  simp only [serve, Op.bind_apply, h]
  cases serve rest s' <;> rfl

/-- How many slots were in use at the start, and after each of the uses that were served. -/
def tops (s : OperandStack) (uses : List StackUse) : Set Nat :=
  { n | ∃ served answers s', served <+: uses ∧ serve served s = .done answers s' ∧ s'.top = n }

/-- The start comes first. -/
theorem top_mem_tops (s : OperandStack) (uses : List StackUse) : s.top ∈ s.tops uses :=
  ⟨[], [], s, List.nil_prefix, rfl, rfl⟩

/-- After the start come the numbers of the rest of the uses. -/
theorem tops_cons {u : StackUse} {answer : StackAnswer} (h : use u s = .done answer s')
    (rest : List StackUse) : s.tops (u :: rest) = insert s.top (s'.tops rest) := by
  ext n
  constructor
  · rintro ⟨served, answers, final, hserved, hrun, rfl⟩
    obtain rfl | ⟨first, rfl, hfirst⟩ := List.prefix_cons_iff.mp hserved
    · cases hrun
      exact .inl rfl
    · rw [serve_cons h] at hrun
      cases hrest : serve first s' with
      | done others last =>
        rw [hrest] at hrun
        cases hrun
        exact .inr ⟨first, others, _, hfirst, hrest, rfl⟩
      | failed error _ => exact error.elim
      | fatal why _ =>
        rw [hrest] at hrun
        cases hrun
  · rintro (rfl | ⟨served, answers, final, hserved, hrun, rfl⟩)
    · exact s.top_mem_tops _
    · refine ⟨u :: served, answer :: answers, final, List.cons_prefix_cons.mpr ⟨rfl, hserved⟩,
        ?_, rfl⟩
      rw [serve_cons h, hrun]

/-- What holds of a stack with these numbers of slots, whatever was asked of it. -/
structure Conduct (slots guardSlots : Nat) (s : OperandStack) : Prop where
  capacity : s.capacity = slots
  logicalEnd : s.logicalEnd + guardSlots = slots
  top_le_logicalEnd : s.safetyOpen = false → s.top ≤ s.logicalEnd
  top_le_capacity : s.top ≤ s.capacity
  /-- The room that is left is a true difference. -/
  available : s.available + s.top = s.limit
  /-- Every slot in use is in memory. -/
  held : s.Holds s.top
  /-- A reservation is granted if there is room and memory. What a slot held before it was given up
  is gone. -/
  granted (n : Nat) (hroom : n ≤ s.limit - s.top) (hheld : s.Holds (s.top + n)) :
    ∃ s', reserve n s = .done s.top s' ∧ s'.slots = s.slots ++ Array.replicate n .nil ∧
      ∀ i < n, s'.get? (s.top + i) = some .nil
  fault (n : Nat) (hroom : n ≤ s.limit - s.top) (hunheld : ¬ s.Holds (s.top + n)) :
    reserve n s = .fatal .fault s
  /-- A refused reservation changes nothing but that the safety area is open. -/
  refused (n : Nat) (hfull : ¬ n ≤ s.limit - s.top) :
    ∃ refusal, reserve n s = .failed refusal { s with safetyOpen := true }
  closes_iff {u : StackUse} {answer : StackAnswer} {s' : OperandStack}
    (h : use u s = .done answer s') : s.safetyOpen = true ∧ s'.safetyOpen = false ↔
      s.safetyOpen = true ∧ u.Settles ∧ s'.top < s.logicalEnd

/-- A stack whose bounds hold conducts itself well. -/
theorem Sound.conduct (h : s.Sound slots guardSlots) (hguard : guardSlots < slots) :
    s.Conduct slots guardSlots := by
  have htop := h.top_le_limit
  constructor
  case capacity => exact h.capacity
  case logicalEnd =>
    rw [OperandStack.logicalEnd, h.capacity, h.guardSlots]
    omega
  case top_le_logicalEnd =>
    intro hclosed
    simpa [limit, hclosed] using htop
  case top_le_capacity => exact Nat.le_trans htop s.limit_le_capacity
  case available =>
    rw [OperandStack.available]
    omega
  case held => exact h.held
  case granted =>
    intro n hroom hheld
    refine ⟨_, reserve_of_room hroom hheld, rfl, fun i hi => ?_⟩
    simp [get?, top, hi]
  case fault => exact fun n hroom hunheld => reserve_of_unheld hroom hunheld
  case refused => exact fun n hfull => ⟨_, reserve_of_full hfull⟩
  case closes_iff =>
    intro u answer s' hserved
    exact and_congr_right fun hopen => OperandStack.closes_iff hopen u hserved

/-- How a sequence of uses ends. -/
inductive Ends (slots guardSlots : Nat) (s : OperandStack) (uses : List StackUse) : Prop
  /-- All were served, and answered as the list answers. The peak is the greatest of the peak before
  and the numbers of slots that were in use. The list was in memory all along. -/
  | served {answers : List StackAnswer} {s' : OperandStack} (hrun : serve uses s = .done answers s')
    (hview : s.view.serve uses = (answers, s'.view)) (hconduct : s'.Conduct slots guardSlots)
    (hpeak : IsGreatest (insert s.peak (s.tops uses)) s'.peak)
    (hheld : ∀ done, done <+: uses → s.Holds (s.view.lengthAfter done))
  /-- The list did not fit into the memory, and the program has stopped. -/
  | fault {s' : OperandStack} (hrun : serve uses s = .fatal .fault s') {done : List StackUse}
    (hdone : done <+: uses) (hunheld : ¬ s.Holds (s.view.lengthAfter done))

/-- The peak before a use that was served is below the peak after the rest, and the latter is one of
the numbers if it is higher. -/
theorem Served.isGreatest {u : StackUse} {answer : StackAnswer} (h : Served s u answer s')
    (hpeak : s.top ≤ s.peak) {rest : List StackUse} {greatest : Nat}
    (hrest : IsGreatest (insert s'.peak (s'.tops rest)) greatest) :
    IsGreatest (insert s.peak (s.tops (u :: rest))) greatest := by
  have hrises : s.peak ≤ s'.peak := h.peak ▸ le_max_left _ _
  have hbefore : s'.peak ≤ greatest := hrest.2 (.inl rfl)
  rw [tops_cons h.run]
  constructor
  · rcases hrest.1 with hsame | hmem
    · rcases max_choice s.peak s'.top with hmax | hmax
      · exact .inl (hsame.trans (h.peak.trans hmax))
      · have htop : greatest = s'.top := hsame.trans (h.peak.trans hmax)
        exact .inr (.inr (htop ▸ s'.top_mem_tops rest))
    · exact .inr (.inr hmem)
  · rintro n (rfl | rfl | hmem)
    · exact Nat.le_trans hrises hbefore
    · exact Nat.le_trans hpeak (Nat.le_trans hrises hbefore)
    · exact hrest.2 (.inr hmem)

/-- Every sequence of uses ends in one of the two ways. -/
theorem Sound.ends (h : s.Sound slots guardSlots) (hguard : guardSlots < slots)
    (uses : List StackUse) : s.Ends slots guardSlots uses := by
  induction uses generalizing s with
  | nil =>
    refine .served rfl rfl (h.conduct hguard) ⟨.inl rfl, ?_⟩ fun done hdone => ?_
    · rintro n (rfl | ⟨served, answers, s', hserved, hrun, rfl⟩)
      · exact Nat.le_refl _
      · cases List.prefix_nil.mp hserved
        cases hrun
        exact h.top_le_peak
    · cases List.prefix_nil.mp hdone
      simpa using h.held
  | cons u rest ih =>
    rcases h.use_ends hguard u with ⟨answer, s', hserved, hsound⟩ | ⟨hfault, hunheld⟩
    · have hsame (n : Nat) : s'.Holds n ↔ s.Holds n := by rw [Holds, Holds, hserved.region]
      have hlength (done : List StackUse) :
          s.view.lengthAfter (u :: done) = s'.view.lengthAfter done := by
        rw [SlotList.lengthAfter_cons, hserved.view]
      have hrun := serve_cons hserved.run rest
      cases ih hsound with
      | served hrest hview hconduct hpeak hheld =>
        rw [hrest] at hrun
        refine .served hrun ?_ hconduct (hserved.isGreatest h.top_le_peak hpeak) fun done hdone => ?_
        · rw [SlotList.serve, hserved.view, hview]
        · obtain rfl | ⟨first, rfl, hfirst⟩ := List.prefix_cons_iff.mp hdone
          · simpa using h.held
          · rw [hlength, ← hsame]
            exact hheld first hfirst
      | fault hrest hdone hunheld =>
        rw [hrest] at hrun
        refine .fault hrun (List.cons_prefix_cons.mpr ⟨rfl, hdone⟩) ?_
        rwa [hlength, ← hsame]
    · have hrun : serve (u :: rest) s = .fatal .fault s := by
        simp only [serve, Op.bind_apply, hfault]
      exact .fault hrun (List.cons_prefix_cons.mpr ⟨rfl, List.nil_prefix⟩) hunheld

/-- A stack that was created is sound. -/
theorem sound_of_create {machine : Machine}
    (h : create machine slots guardSlots guarded () = .done s ()) :
    s.Sound slots guardSlots := by
  obtain ⟨_, _, region, _, rfl⟩ := exists_of_create h
  refine ⟨rfl, rfl, Nat.zero_le _, Nat.zero_le _, ?_⟩
  exact Nat.le_trans (Nat.le_of_eq (Nat.zero_mul _)) (Nat.zero_le _)

/-- A stack that was created is a list of values: whatever is asked of it, it answers as the list
does, and its contents are the list, as long as the list is in memory. All along usage stays within
the bounds, and the peak is the highest usage that there was. All lists that the bounds allow are in
memory, unless the stack is protected and its size wraps; then only lists of up to 256 values are. -/
theorem acts_as_list {machine : Machine} {slots guardSlots : Nat} {guarded : Bool} {s : OperandStack}
    (h : create machine slots guardSlots guarded () = .done s ()) :
    s.view = { ordinary := slots - guardSlots, spare := guardSlots } ∧ s.peak = 0 ∧
    ((guarded = true → slots * Region.slotBytes + 2 * 4096 ≤ 2 ^ 64) → s.Holds slots) ∧
    (¬ (guarded = true → slots * Region.slotBytes + 2 * 4096 ≤ 2 ^ 64) →
      ∀ n, s.Holds n → n ≤ 256) ∧
    ∀ uses : List StackUse, s.Ends slots guardSlots uses := by
  have hsound := sound_of_create h
  have hheld := holds_capacity_iff h
  have hshort := le_of_holds_of_wraps h
  obtain ⟨hguard, _, region, _, rfl⟩ := exists_of_create h
  exact ⟨rfl, rfl, hheld.mpr, hshort, hsound.ends hguard⟩

/-- A stack of four slots, two of them behind the logical end. -/
def fourSlots : OperandStack := { capacity := 4, guardSlots := 2, region := ⟨4096, true⟩ }

/-- A stack of four slots overflows, is used up to its real end and recovers, and the slot that was
written and given up is nil again. -/
theorem four_slots_act_as_list :
    let uses : List StackUse :=
      [.reserve 2, .set 1 (.fixnum 7), .reserve 1, .reserve 2, .get 1, .reserve 1, .releaseTo 1,
        .get 1, .reserve 1, .get 1, .settle]
    create (.bounded true 8192) 4 2 true () = .done fourSlots () ∧
    fourSlots.view = { ordinary := 2, spare := 2 } ∧ fourSlots.Holds 4 ∧
    fourSlots.Ends 4 2 uses ∧
    ∃ s', serve uses fourSlots = .done
        [.reserved (.ok 0), .written true, .reserved (.error (.overflow 1 0)), .reserved (.ok 2),
          .found (some (.fixnum 7)), .reserved (.error (.exhausted 1 0)), .settled true, .found none,
          .reserved (.ok 1), .found (some .nil), .settled false] s' ∧ s'.peak = 4 := by
  intro uses
  have hcreate : create (.bounded true 8192) 4 2 true () = .done fourSlots () := rfl
  obtain ⟨hview, _, hheld, _, hends⟩ := acts_as_list hcreate
  exact ⟨hcreate, hview, hheld (by decide), hends uses, _, rfl, rfl⟩

/-- The greatest stack is created, in a program whose sums wrap, and three hundred slots are far below
its logical end. Reserving them stops the program. -/
theorem greatest_reservation_faults :
    ∃ s, create wrapping (2 ^ 60 - 1) 1024 true () = .done s () ∧ 300 ≤ s.limit - s.top ∧
      reserve 300 s = .fatal .fault s :=
  ⟨_, create_greatest, by decide, reserve_of_unheld (by decide) (by decide)⟩

end OperandStack

end CallEngine
