import CallEngine.Proofs.Creation
import CallEngine.Proofs.Slots
import Mathlib.Tactic.ByContra

/-!
# Where the slots of a protected stack lie

The memory of a protected stack is rounded up to whole pages, and one more page behind them cannot
be accessed. The sums are those of 64-bit words. As long as they are exact, all slots lie before
that page, inside the mapping. They are exact for all lengths but those of the last two pages of all
lengths that a word has. There, a program that checks its sums stops. In one that does not, the
lengths up to the last page but one make the whole mapping empty, and for the ones beyond, rounding
up wraps, and two pages are mapped for a stack of almost all the memory that a word can address.

Nothing is assumed of a machine but what a statement says of it. A mapping that is granted has the
length that was asked for.
-/

namespace CallEngine

namespace Region

variable {length : UInt64}

/-! ## Lengths in words -/

/-- The number of bytes of a page. -/
theorem toNat_page : page.toNat = 4096 := rfl

/-- The greater of two words. -/
theorem toNat_max (a b : UInt64) : (max a b).toNat = max a.toNat b.toNat := by
  change (if a ≤ b then b else a).toNat = _
  by_cases hle : a ≤ b
  · rw [if_pos hle, Nat.max_eq_right (UInt64.le_iff_toNat_le.mp hle)]
  · rw [if_neg hle, Nat.max_eq_left (Nat.le_of_not_le (mt UInt64.le_iff_toNat_le.mpr hle))]

/-- The whole pages of a length, by what is left of the sum that rounds up. -/
theorem toNat_bodyLength (length : UInt64) :
    (bodyLength length).toNat = max ((length.toNat + 4095) % 2 ^ 64 / 4096) 1 * 4096 := by
  have hsum : (length + page - 1).toNat = (length.toNat + 4095) % 2 ^ 64 := by
    rw [UInt64.toNat_sub, UInt64.toNat_add, toNat_page, UInt64.toNat_one]
    omega
  rw [bodyLength, UInt64.toNat_mul, toNat_max, UInt64.toNat_div, hsum, toNat_page,
    UInt64.toNat_one]
  omega

/-- The whole mapping has one more page, as far as a word can say. -/
theorem toNat_mapLength (length : UInt64) :
    (mapLength length).toNat = ((bodyLength length).toNat + 4096) % 2 ^ 64 := by
  rw [mapLength, UInt64.toNat_add, toNat_page]

/-- If rounding up wraps, one page is left of a length. -/
theorem bodyLength_wraps (h : 2 ^ 64 < length.toNat + 4096) : bodyLength length = page := by
  have hlt := length.toNat_lt
  apply UInt64.toNat_inj.mp
  rw [toNat_bodyLength, toNat_page]
  omega

/-- A mapping holds what it is asked to hold: so many bytes, and then a page behind them that can be
protected. -/
structure Covers (length : UInt64) : Prop where
  mapped : length.toNat + page.toNat ≤ (mapLength length).toNat
  behind : length.toNat ≤ (bodyLength length).toNat
  inside : (bodyLength length).toNat + page.toNat ≤ (mapLength length).toNat

/-- A mapping holds all lengths but those of the last two pages. -/
theorem covers_iff : Covers length ↔ length.toNat + 2 * 4096 ≤ 2 ^ 64 := by
  constructor
  · intro h
    have hmapped := h.mapped
    rw [toNat_mapLength, toNat_bodyLength, toNat_page] at hmapped
    omega
  · intro h
    constructor
    all_goals
      simp only [toNat_mapLength, toNat_bodyLength, toNat_page]
      omega

/-- In the last page but one, the whole mapping is empty. -/
theorem mapLength_eq_zero (h : 2 ^ 64 < length.toNat + 2 * 4096)
    (h' : length.toNat + 4096 ≤ 2 ^ 64) : mapLength length = 0 := by
  apply UInt64.toNat_inj.mp
  rw [toNat_mapLength, toNat_bodyLength, UInt64.toNat_zero]
  omega

/-- In the last page, the whole mapping has two pages. -/
theorem mapLength_wraps (h : 2 ^ 64 < length.toNat + 4096) : mapLength length = 2 * page := by
  rw [mapLength, bodyLength_wraps h]
  rfl

end Region

namespace Machine

variable {σ ε : Type} {machine : Machine}

/-- Whether a sum stops the program. -/
theorem add_apply (a b : UInt64) (s : σ) :
    machine.add (ε := ε) a b s =
      if machine.checked = true ∧ 2 ^ 64 ≤ a.toNat + b.toNat then .fatal (.panic .arithmetic) s
      else .done (a + b) s := by
  have hpow : twoPow 64 = 2 ^ 64 := rfl
  simp only [add, hpow, Bool.and_eq_true, decide_eq_true_eq]
  split <;> rfl

end Machine

namespace Region

variable {σ : Type} {machine : Machine} {length : UInt64}

/-- A protected region is mapped in full or refused, unless a sum is checked and too large. -/
theorem mapped_apply (length : UInt64) (s : σ) :
    mapped machine length s =
      if machine.checked = true ∧ 2 ^ 64 < length.toNat + 2 * 4096 then
        .fatal (.panic .arithmetic) s
      else match machine.map (mapLength length) with
        | .ok _ => .done ⟨min (bodyLength length).toNat (mapLength length).toNat, true⟩ s
        | .error error => .failed error s := by
  have hbody := toNat_bodyLength length
  have hlength := length.toNat_lt
  have hwhole : bodyLength length + page = mapLength length := rfl
  simp only [mapped, Op.bind_apply, Machine.add_apply, toNat_page, hwhole, Op.ofExcept,
    Op.pure_apply]
  by_cases hchecked : machine.checked = true
  · by_cases hfits : length.toNat + 2 * 4096 ≤ 2 ^ 64
    · have hround : ¬ 2 ^ 64 ≤ length.toNat + 4096 := by omega
      have hguard : ¬ 2 ^ 64 ≤ (bodyLength length).toNat + 4096 := by omega
      simp only [hround, hguard, Nat.not_lt.mpr hfits, and_false, if_false]
      cases machine.map (mapLength length) <;> rfl
    · have hstops : 2 ^ 64 < length.toNat + 2 * 4096 := Nat.lt_of_not_le hfits
      by_cases hround : 2 ^ 64 ≤ length.toNat + 4096
      · simp only [hchecked, hround, hstops, and_self, if_true]
      · have hguard : 2 ^ 64 ≤ (bodyLength length).toNat + 4096 := by omega
        simp only [hchecked, hround, hguard, hstops, and_false, and_self, if_true, if_false]
  · simp only [hchecked, false_and, if_false, Bool.false_eq_true]
    cases machine.map (mapLength length) <;> rfl

/-- All of an allocation can be accessed. -/
theorem le_accessible_of_allocated {region : Region} {s s' : σ}
    (h : create machine length false s = .done region s') : length.toNat ≤ region.accessible := by
  rw [create, if_neg Bool.false_ne_true, allocated] at h
  split at h
  · cases h
  · split at h
    · cases h
      rw [toNat_max]
      exact Nat.le_max_left _ _
    · cases h

/-- Asking for memory ends in one of three ways, and leaves the state alone. -/
theorem create_cases (length : UInt64) (guarded : Bool) (s : σ) :
    (∃ region, create machine length guarded s = .done region s) ∨
    (∃ error, create machine length guarded s = .failed error s) ∨
    create machine length guarded s = .fatal (.panic .arithmetic) s := by
  cases guarded with
  | true =>
    rw [create, if_pos rfl, mapped_apply]
    split
    · exact .inr (.inr rfl)
    · cases machine.map (mapLength length) with
      | ok _ => exact .inl ⟨_, rfl⟩
      | error error => exact .inr (.inl ⟨error, rfl⟩)
  | false =>
    rw [create, if_neg Bool.false_ne_true, allocated]
    split
    · exact .inr (.inl ⟨_, rfl⟩)
    · split
      · exact .inl ⟨_, rfl⟩
      · exact .inr (.inl ⟨_, rfl⟩)

/-- Where rounding up wraps, one page can be accessed. -/
theorem accessible_wraps (h : 2 ^ 64 < length.toNat + 4096) :
    min (bodyLength length).toNat (mapLength length).toNat = 4096 := by
  rw [bodyLength_wraps h, mapLength_wraps h]
  rfl

/-- Within the last page but one nothing can be accessed, as the mapping is empty. -/
theorem accessible_zero (h : 2 ^ 64 < length.toNat + 2 * 4096)
    (h' : length.toNat + 4096 ≤ 2 ^ 64) :
    min (bodyLength length).toNat (mapLength length).toNat = 0 := by
  rw [mapLength_eq_zero h h']
  exact Nat.min_eq_right (Nat.zero_le _)

/-- Of a mapping that does not hold what was asked for, at most one page can be accessed. -/
theorem accessible_le (h : 2 ^ 64 < length.toNat + 2 * 4096) :
    min (bodyLength length).toNat (mapLength length).toNat ≤ 4096 := by
  by_cases hwraps : 2 ^ 64 < length.toNat + 4096
  · exact Nat.le_of_eq (accessible_wraps hwraps)
  · rw [accessible_zero h (Nat.not_lt.mp hwraps)]
    exact Nat.zero_le _

/-- What can be accessed of a mapping is all that was asked for exactly if the mapping holds it. -/
theorem le_accessible_iff :
    length.toNat ≤ min (bodyLength length).toNat (mapLength length).toNat ↔
      length.toNat + 2 * 4096 ≤ 2 ^ 64 := by
  constructor
  · intro hheld
    by_contra hlast
    have hpage := accessible_le (Nat.lt_of_not_le hlast)
    omega
  · intro hfits
    have hcovers := covers_iff.mpr hfits
    exact Nat.le_min.mpr ⟨hcovers.behind, Nat.le_trans (Nat.le_add_right _ _) hcovers.mapped⟩

end Region

namespace OperandStack

variable {machine : Machine} {slots guardSlots : Nat} {guarded : Bool} {stack : OperandStack}

/-- A word can say the length of the slots of a stack. -/
theorem toNat_ofSlots (hbytes : slots * Region.slotBytes < 2 ^ 64) :
    (Region.ofSlots slots).toNat = slots * Region.slotBytes :=
  UInt64.toNat_ofNat_of_lt' hbytes

/-- The creation of a stack ends in one of three ways, and leaves the state alone. -/
theorem create_cases (machine : Machine) (slots guardSlots : Nat) (guarded : Bool) {σ : Type}
    (s : σ) :
    (∃ stack, create machine slots guardSlots guarded s = .done stack s) ∨
    (∃ error, create machine slots guardSlots guarded s = .failed error s) ∨
    create machine slots guardSlots guarded s = .fatal (.panic .arithmetic) s := by
  unfold create
  split
  · exact .inr (.inl ⟨_, rfl⟩)
  · split
    · exact .inr (.inl ⟨_, rfl⟩)
    · rw [Op.bind_apply]
      rcases Region.create_cases (Region.ofSlots slots) guarded s with ⟨region, hregion⟩ |
        ⟨error, hregion⟩ | hregion
      · rw [hregion]
        exact .inl ⟨_, rfl⟩
      · rw [hregion]
        exact .inr (.inl ⟨error, rfl⟩)
      · rw [hregion]
        exact .inr (.inr rfl)

/-- The bytes of a mapping for so many slots that can be accessed. -/
def mappedBytes (slots : Nat) : Nat :=
  min (Region.bodyLength (Region.ofSlots slots)).toNat (Region.mapLength (Region.ofSlots slots)).toNat

/-- A protected stack is created if its mapping is granted, unless a checked sum is too large. -/
theorem create_guarded (machine : Machine) (hguard : guardSlots < slots)
    (hbytes : slots * Region.slotBytes < 2 ^ 64) :
    create machine slots guardSlots true () =
      if machine.checked = true ∧ 2 ^ 64 < slots * Region.slotBytes + 2 * 4096 then
        .fatal (.panic .arithmetic) ()
      else match machine.map (Region.mapLength (Region.ofSlots slots)) with
        | .ok _ => .done { capacity := slots, guardSlots, region := ⟨mappedBytes slots, true⟩ } ()
        | .error error => .failed error () := by
  have hsize : ¬ twoPow 64 ≤ slots * Region.slotBytes := Nat.not_le.mpr hbytes
  rw [create, if_neg (Nat.not_le.mpr hguard), if_neg hsize, Op.bind_apply, Region.create,
    if_pos rfl, Region.mapped_apply, toNat_ofSlots hbytes]
  by_cases hstops : machine.checked = true ∧ 2 ^ 64 < slots * Region.slotBytes + 2 * 4096
  · rw [if_pos hstops, if_pos hstops]
  · rw [if_neg hstops, if_neg hstops]
    cases machine.map (Region.mapLength (Region.ofSlots slots)) <;> rfl

/-- The first slots of a stack over a mapping are in its memory exactly if they are in the mapping,
before the protected page. -/
theorem holds_mapped_iff (n : Nat) :
    Holds { capacity := slots, guardSlots, region := ⟨mappedBytes slots, true⟩ } n ↔
      n * Region.slotBytes ≤ mappedBytes slots := Iff.rfl

/-- The slots of a stack that was created are in its memory, except if the stack is protected and
its size reaches into the last two pages that a word can address. -/
theorem holds_capacity_iff (h : create machine slots guardSlots guarded () = .done stack ()) :
    stack.Holds stack.capacity ↔
      (guarded = true → slots * Region.slotBytes + 2 * 4096 ≤ 2 ^ 64) := by
  obtain ⟨hguard, hbytes, region, hregion, rfl⟩ := exists_of_create h
  have hlength := toNat_ofSlots hbytes
  change slots * Region.slotBytes ≤ region.accessible ↔ _
  cases guarded with
  | false =>
    have hall : slots * Region.slotBytes ≤ region.accessible := by
      rw [← hlength]
      exact Region.le_accessible_of_allocated hregion
    exact iff_of_true hall nofun
  | true =>
    rw [create_guarded machine hguard hbytes] at h
    split at h
    · cases h
    · cases hmap : machine.map (Region.mapLength (Region.ofSlots slots)) with
      | error error =>
        rw [hmap] at h
        cases h
      | ok _ =>
        rw [hmap] at h
        have hregion : mappedBytes slots = region.accessible := by cases h; rfl
        rw [← hregion, ← hlength]
        exact Region.le_accessible_iff.trans ⟨fun hfits _ => hfits, fun hfits => hfits rfl⟩

/-- Of a protected stack whose size wraps, at most one page is in its memory. -/
theorem le_of_holds_of_wraps
    (h : create machine slots guardSlots guarded () = .done stack ())
    (hwraps : ¬ (guarded = true → slots * Region.slotBytes + 2 * 4096 ≤ 2 ^ 64)) (n : Nat)
    (hheld : stack.Holds n) : n ≤ 256 := by
  obtain ⟨hguarded, hlast⟩ := Classical.not_imp.mp hwraps
  obtain ⟨hguard, hbytes, _⟩ := exists_of_create h
  subst hguarded
  have hlength := toNat_ofSlots hbytes
  rw [create_guarded machine hguard hbytes] at h
  split at h
  · cases h
  · cases hmap : machine.map (Region.mapLength (Region.ofSlots slots)) with
    | error error =>
      rw [hmap] at h
      cases h
    | ok _ =>
      rw [hmap] at h
      have hregion : mappedBytes slots = stack.region.accessible := by cases h; rfl
      rw [Holds, ← hregion, Region.slotBytes] at hheld
      have hbeyond : 2 ^ 64 < (Region.ofSlots slots).toNat + 2 * 4096 := by omega
      have hpage := Region.accessible_le hbeyond
      unfold mappedBytes at hheld
      omega

/-- With checked sums, all slots of a stack that was created are in its memory. -/
theorem holds_capacity_of_checked (hchecked : machine.checked = true)
    (h : create machine slots guardSlots guarded () = .done stack ()) :
    stack.Holds stack.capacity := by
  refine (holds_capacity_iff h).mpr fun hguarded => ?_
  obtain ⟨hguard, hbytes, _⟩ := exists_of_create h
  subst hguarded
  rw [create_guarded machine hguard hbytes] at h
  by_contra hlast
  rw [if_pos ⟨hchecked, Nat.lt_of_not_le hlast⟩] at h
  cases h

/-- Where the slots of a protected stack lie, by how many there are. -/
structure Placed (machine : Machine) (slots guardSlots : Nat) : Prop where
  /-- The mapping holds all slots and the protected page exactly up to this size. -/
  covers_iff : Region.Covers (Region.ofSlots slots) ↔ slots * Region.slotBytes + 2 * 4096 ≤ 2 ^ 64
  /-- Up to there, the stack is created if that mapping is granted. -/
  created (h : slots * Region.slotBytes + 2 * 4096 ≤ 2 ^ 64)
    (hgranted : machine.map (Region.mapLength (Region.ofSlots slots)) = .ok ()) :
    create machine slots guardSlots true () =
      .done { capacity := slots, guardSlots, region := ⟨mappedBytes slots, true⟩ } ()
  /-- The stack is not created if it is refused. -/
  failed {error : IoError}
    (hrefused : machine.map (Region.mapLength (Region.ofSlots slots)) = .error error) :
    create machine slots guardSlots true () = .failed error ()
  /-- For up to a page more, the mapping would be empty. -/
  empty (h : 2 ^ 64 < slots * Region.slotBytes + 2 * 4096)
    (h' : slots * Region.slotBytes + 4096 ≤ 2 ^ 64) : Region.mapLength (Region.ofSlots slots) = 0
  /-- Beyond, two pages are asked for. If they are granted, the stack is created over them, and its
  first 256 slots are in memory that can be accessed. -/
  short (h : 2 ^ 64 < slots * Region.slotBytes + 4096) :
    Region.mapLength (Region.ofSlots slots) = 2 * Region.page ∧
      Region.bodyLength (Region.ofSlots slots) = Region.page ∧
      (machine.map (2 * Region.page) = .ok () → ∃ stack,
        create machine slots guardSlots true () = .done stack () ∧ stack.capacity = slots ∧
          ∀ n, stack.Holds n ↔ n ≤ 256)
  /-- So the slots of a stack that was created are in memory, each before the protected page and
  inside the mapping, unless their size wraps. -/
  created_iff {stack : OperandStack} (h : create machine slots guardSlots true () = .done stack ()) :
    (∀ i < stack.capacity, stack.Holds (i + 1)) ↔ slots * Region.slotBytes + 2 * 4096 ≤ 2 ^ 64

/-- All slots are in memory if each of them is. -/
theorem holds_capacity_iff_forall (s : OperandStack) :
    s.Holds s.capacity ↔ ∀ i < s.capacity, s.Holds (i + 1) := by
  constructor
  · intro hall i hi
    exact hall.le hi
  · intro heach
    cases hcapacity : s.capacity with
    | zero => exact Nat.le_trans (Nat.le_of_eq (Nat.zero_mul _)) (Nat.zero_le _)
    | succ last => exact heach last (by omega)

/-- In a program whose sums wrap, the slots of a protected stack lie in memory that can be accessed
exactly if their size does not reach into the last two pages that a word can address. -/
theorem guarded_slots_placed (hwraps : machine.checked = false) (hguard : guardSlots < slots)
    (hbytes : slots * Region.slotBytes < 2 ^ 64) : Placed machine slots guardSlots := by
  have hlength := toNat_ofSlots hbytes
  have hunchecked : ¬ (machine.checked = true ∧ 2 ^ 64 < slots * Region.slotBytes + 2 * 4096) := by
    simp [hwraps]
  have hcreate := create_guarded machine hguard hbytes
  rw [if_neg hunchecked] at hcreate
  constructor
  case covers_iff => rw [Region.covers_iff, hlength]
  case created =>
    intro h hgranted
    rw [hcreate, hgranted]
  case failed =>
    intro error hrefused
    rw [hcreate, hrefused]
  case empty =>
    intro h h'
    rw [← hlength] at h h'
    exact Region.mapLength_eq_zero h h'
  case short =>
    intro h
    rw [← hlength] at h
    have hmap := Region.mapLength_wraps h
    refine ⟨hmap, Region.bodyLength_wraps h, fun hgranted =>
      ⟨{ capacity := slots, guardSlots, region := ⟨mappedBytes slots, true⟩ }, ?_, rfl, fun n => ?_⟩⟩
    · rw [hcreate, hmap, hgranted]
    · rw [holds_mapped_iff, mappedBytes, Region.accessible_wraps h, Region.slotBytes]
      omega
  case created_iff =>
    intro stack h
    rw [← holds_capacity_iff_forall, holds_capacity_iff h]
    exact ⟨fun hfits => hfits rfl, fun hfits _ => hfits⟩

/-- A machine with room for 2^40 bytes at a time, and a program whose sums wrap. -/
def wrapping : Machine := .bounded false 0x10000000000

/-- The widest stack whose mapping holds all its slots, and the one that has one slot more. -/
theorem widest_slots_placed :
    Region.Covers (Region.ofSlots (2 ^ 60 - 512)) ∧
    ¬ Region.Covers (Region.ofSlots (2 ^ 60 - 511)) ∧
    create wrapping (2 ^ 60 - 511) 1024 true () = .failed .invalidInput () := by
  have hwidest : Placed wrapping (2 ^ 60 - 512) 1024 :=
    guarded_slots_placed rfl (by decide) (by decide)
  have hwider : Placed wrapping (2 ^ 60 - 511) 1024 :=
    guarded_slots_placed rfl (by decide) (by decide)
  have hempty := hwider.empty (by decide) (by decide)
  exact ⟨hwidest.covers_iff.mpr (by decide), mt hwider.covers_iff.mp (by decide),
    hwider.failed (by rw [hempty]; rfl)⟩

/-- Settings of the greatest stack whose size a word can say. -/
def greatest : Settings where
  stack := some { operandStackSlots := some (2 ^ 60 - 1), guardSlots := some 1024 }

/-- The greatest stack can be created in a program whose sums wrap, over one page that can be
accessed. -/
theorem create_greatest :
    create wrapping greatest.operandStackSlots greatest.guardSlots greatest.guardPage () =
      .done { capacity := 2 ^ 60 - 1, guardSlots := 1024, region := ⟨4096, true⟩ } () := by
  have hmap : Region.mapLength (Region.ofSlots (2 ^ 60 - 1)) = 2 * Region.page := by decide
  have hgranted : wrapping.map (2 * Region.page) = .ok () := rfl
  change create wrapping (2 ^ 60 - 1) 1024 true () = _
  rw [create_guarded wrapping (by decide) (by decide), if_neg nofun, hmap, hgranted, mappedBytes,
    Region.accessible_wraps (by decide)]

/-- The greatest stack passes the check of the settings. With sums that wrap it is created over two
pages: less is asked for than its slots need, and a slot below its capacity lies behind all that was
mapped. -/
theorem greatest_over_two_pages :
    greatest.validate = .ok () ∧ (2 ^ 60 - 1) * Region.slotBytes < 2 ^ 64 ∧
    (Region.mapLength (Region.ofSlots (2 ^ 60 - 1))).toNat = 8192 ∧
    ¬ (2 ^ 60 - 1) * Region.slotBytes + 4096 ≤
      (Region.mapLength (Region.ofSlots (2 ^ 60 - 1))).toNat ∧
    ∃ stack, create wrapping greatest.operandStackSlots greatest.guardSlots greatest.guardPage () =
        .done stack () ∧ stack.capacity = 2 ^ 60 - 1 ∧ ¬ stack.Holds 257 := by
  have hmap : Region.mapLength (Region.ofSlots (2 ^ 60 - 1)) = 2 * Region.page := by decide
  refine ⟨rfl, by decide, by rw [hmap]; rfl, ?_, _, create_greatest, rfl, by decide⟩
  rw [hmap]
  decide

end OperandStack

end CallEngine
