import CallEngine.Interrupt
import Mathlib.Data.Finset.Max

/-!
# The pending word as a set of interrupts

Each kind of interrupt has a bit of its own in the pending word, so the word is a set of kinds. The
kinds are ordered by how urgent they are, and looking for the first pending one finds the most
urgent member of the set.
-/

namespace CallEngine

namespace InterruptKind

/-- The place of a kind in the order of delivery: the traps in their fixed order, then the user
interrupt. -/
def urgency : InterruptKind → Nat
  | arithmetic .divisionByZero => 0
  | arithmetic .floatingOverflow => 1
  | arithmetic .floatingUnderflow => 2
  | arithmetic .floatingInvalid => 3
  | arithmetic .floatingInexact => 4
  | user => 5

/-- No two kinds are equally urgent. -/
theorem urgency_injective : Function.Injective urgency := by
  intro k k' h
  rcases k with _ | (_ | _ | _ | _ | _) <;> rcases k' with _ | (_ | _ | _ | _ | _) <;>
    simp_all [urgency]

/-- Every trap is more urgent than the user interrupt. -/
theorem urgency_arithmetic_lt (trap : Trap) : (arithmetic trap).urgency < 5 := by
  cases trap <;> decide

/-- No two kinds share a bit. -/
theorem position_injective : Function.Injective position := by
  intro k k' h
  rcases k with _ | (_ | _ | _ | _ | _) <;> rcases k' with _ | (_ | _ | _ | _ | _) <;>
    simp_all [position, Trap.index]

/-- Every kind has a bit in the word. -/
theorem position_lt (kind : InterruptKind) : kind.position < 32 := by
  rcases kind with _ | (_ | _ | _ | _ | _) <;> decide

end InterruptKind

/-- No member of a set is more urgent than this one. -/
structure MostUrgent (kinds : Finset InterruptKind) (kind : InterruptKind) : Prop where
  mem : kind ∈ kinds
  le : ∀ other ∈ kinds, kind.urgency ≤ other.urgency

namespace MostUrgent

variable {kinds : Finset InterruptKind} {kind other : InterruptKind}

/-- A set has one most urgent member at most. -/
theorem unique (h : MostUrgent kinds kind) (h' : MostUrgent kinds other) : kind = other :=
  InterruptKind.urgency_injective (Nat.le_antisymm (h.le other h'.mem) (h'.le kind h.mem))

/-- A set that is not empty has a most urgent member. -/
theorem exists_of_nonempty (h : kinds.Nonempty) : ∃ kind, MostUrgent kinds kind := by
  obtain ⟨kind, hmem, hle⟩ := kinds.exists_min_image InterruptKind.urgency h
  exact ⟨kind, hmem, hle⟩

end MostUrgent

/-- The kinds in the order in which the pending word is searched are in the order of delivery. -/
theorem Trap.all_pairwise :
    (Trap.all.map InterruptKind.arithmetic).Pairwise fun k k' => k.urgency ≤ k'.urgency := by
  decide

/-- Every trap is searched for. -/
theorem Trap.mem_all (trap : Trap) : trap ∈ Trap.all := by
  cases trap <;> decide

namespace PendingWord

/-- Inserting a kind sets its bit. -/
theorem getLsbD_insert (w : PendingWord) (kind : InterruptKind) (i : Nat) :
    (w.insert kind).bits.getLsbD i = (w.bits.getLsbD i || decide (kind.position = i)) := by
  simp [insert, BitVec.getLsbD_twoPow, kind.position_lt]

/-- Erasing a kind clears its bit. -/
theorem getLsbD_erase (w : PendingWord) (kind : InterruptKind) (i : Nat) :
    (w.erase kind).bits.getLsbD i = (w.bits.getLsbD i && decide (kind.position ≠ i)) := by
  by_cases hi : i < 32
  · by_cases heq : kind.position = i
    · simp [erase, hi, heq]
    · simp [erase, hi, heq, Ne.symm heq]
  · simp [erase, BitVec.getLsbD_of_ge _ _ (Nat.le_of_not_lt hi)]

/-- An inserted kind is pending, as is every kind that was before. -/
theorem contains_insert (w : PendingWord) (kind other : InterruptKind) :
    (w.insert kind).contains other = (w.contains other || decide (kind = other)) := by
  rw [contains, getLsbD_insert, contains]
  simp only [InterruptKind.position_injective.eq_iff]

/-- An erased kind is not pending, and every other kind is if it was before. -/
theorem contains_erase (w : PendingWord) (kind other : InterruptKind) :
    (w.erase kind).contains other = (w.contains other && decide (kind ≠ other)) := by
  rw [contains, getLsbD_erase, contains]
  simp only [ne_eq, InterruptKind.position_injective.eq_iff]

/-- The bits of a word are those of the kinds in a set. -/
def Encodes (w : PendingWord) (kinds : Finset InterruptKind) : Prop :=
  ∀ i, w.bits.getLsbD i = true ↔ ∃ kind ∈ kinds, kind.position = i

namespace Encodes

variable {w : PendingWord} {kinds : Finset InterruptKind}

/-- The word without bits is the empty set. -/
theorem empty : Encodes {} ∅ := by
  intro i
  simp

/-- Setting the bit of a kind puts the kind into the set. -/
theorem insert (h : w.Encodes kinds) (kind : InterruptKind) :
    (w.insert kind).Encodes (Insert.insert kind kinds) := by
  intro i
  rw [getLsbD_insert, Bool.or_eq_true, decide_eq_true_eq, h i, Finset.exists_mem_insert]
  exact or_comm

/-- Clearing the bit of a kind takes that kind out of the set, and no other. -/
theorem erase (h : w.Encodes kinds) (kind : InterruptKind) :
    (w.erase kind).Encodes (kinds.erase kind) := by
  intro i
  rw [getLsbD_erase, Bool.and_eq_true, decide_eq_true_eq, h i]
  constructor
  · rintro ⟨⟨other, hmem, rfl⟩, hne⟩
    have hother : other ≠ kind := fun heq => hne (heq ▸ rfl)
    exact ⟨other, Finset.mem_erase.mpr ⟨hother, hmem⟩, rfl⟩
  · rintro ⟨other, hmem, rfl⟩
    obtain ⟨hne, hmem⟩ := Finset.mem_erase.mp hmem
    exact ⟨⟨other, hmem, rfl⟩, fun heq => hne (InterruptKind.position_injective heq).symm⟩

/-- The bit of a kind tells whether the kind is in the set. -/
theorem contains_iff (h : w.Encodes kinds) (kind : InterruptKind) :
    w.contains kind = true ↔ kind ∈ kinds := by
  rw [contains, h]
  constructor
  · rintro ⟨other, hmem, heq⟩
    rwa [← InterruptKind.position_injective heq]
  · exact fun hmem => ⟨kind, hmem, rfl⟩

/-- The word is zero exactly if the set is empty. -/
theorem isEmpty_iff (h : w.Encodes kinds) : w.isEmpty = true ↔ kinds = ∅ := by
  rw [isEmpty, beq_iff_eq, Finset.eq_empty_iff_forall_notMem]
  constructor
  · intro hzero kind hmem
    have hbit := (h kind.position).mpr ⟨kind, hmem, rfl⟩
    rw [hzero] at hbit
    simp at hbit
  · intro hnone
    apply BitVec.eq_of_getLsbD_eq
    intro i _
    have hclear : ¬ w.bits.getLsbD i = true := by
      rw [h i]
      rintro ⟨kind, hmem, _⟩
      exact hnone kind hmem
    simpa using hclear

end Encodes

/-- The first member that is found in a list in the order of delivery is the most urgent one there. -/
theorem urgency_le_of_find? {kinds : List InterruptKind} {p : InterruptKind → Bool}
    {kind other : InterruptKind} (hordered : kinds.Pairwise fun k k' => k.urgency ≤ k'.urgency)
    (hfind : kinds.find? p = some kind) (hmem : other ∈ kinds) (hother : p other = true) :
    kind.urgency ≤ other.urgency := by
  induction kinds with
  | nil => cases hmem
  | cons first rest ih =>
    obtain ⟨hfirst, hrest⟩ := List.pairwise_cons.mp hordered
    by_cases hp : p first = true
    · rw [List.find?_cons_of_pos hp, Option.some.injEq] at hfind
      subst hfind
      rcases List.mem_cons.mp hmem with rfl | hmem
      · exact Nat.le_refl _
      · exact hfirst other hmem
    · rw [List.find?_cons_of_neg hp] at hfind
      rcases List.mem_cons.mp hmem with rfl | hmem
      · exact absurd hother hp
      · exact ih hrest hfind hmem

/-- What is found first in a word that is not zero is the most urgent member of the set. -/
theorem Encodes.mostUrgent_find {w : PendingWord} {kinds : Finset InterruptKind}
    (h : w.Encodes kinds) (hnonempty : kinds.Nonempty) :
    MostUrgent kinds (((Trap.all.map .arithmetic).find? w.contains).getD .user) := by
  cases hfind : (Trap.all.map InterruptKind.arithmetic).find? w.contains with
  | some kind =>
    have hcontains := List.find?_some hfind
    refine ⟨(h.contains_iff kind).mp hcontains, fun other hother => ?_⟩
    cases other with
    | user =>
      obtain ⟨trap, _, rfl⟩ := List.mem_map.mp (List.mem_of_find?_eq_some hfind)
      exact Nat.le_of_lt (InterruptKind.urgency_arithmetic_lt trap)
    | arithmetic trap =>
      exact urgency_le_of_find? Trap.all_pairwise hfind (List.mem_map_of_mem trap.mem_all)
        ((h.contains_iff _).mpr hother)
  | none =>
    have huser : ∀ other ∈ kinds, other = .user := by
      intro other hother
      cases other with
      | user => rfl
      | arithmetic trap =>
        have hnot := List.find?_eq_none.mp hfind _ (List.mem_map_of_mem trap.mem_all)
        exact absurd ((h.contains_iff _).mpr hother) hnot
    obtain ⟨member, hmember⟩ := hnonempty
    rw [huser member hmember] at hmember
    exact ⟨hmember, fun other hother => by rw [huser other hother]; exact Nat.le_refl _⟩

/-- The first pending interrupt is the most urgent member of the set. -/
theorem Encodes.first?_eq_some {w : PendingWord} {kinds : Finset InterruptKind}
    (h : w.Encodes kinds) (kind : InterruptKind) : w.first? = some kind ↔ MostUrgent kinds kind := by
  unfold first?
  by_cases hempty : kinds = ∅
  · rw [if_pos (h.isEmpty_iff.mpr hempty), hempty]
    exact iff_of_false (by simp) fun hmost => Finset.notMem_empty _ hmost.mem
  · have hfound := h.mostUrgent_find (Finset.nonempty_iff_ne_empty.mpr hempty)
    rw [if_neg (mt h.isEmpty_iff.mp hempty), Option.some.injEq]
    exact ⟨fun heq => heq ▸ hfound, hfound.unique⟩

/-- Nothing is pending exactly if the set is empty. -/
theorem Encodes.first?_eq_none {w : PendingWord} {kinds : Finset InterruptKind}
    (h : w.Encodes kinds) : w.first? = none ↔ kinds = ∅ := by
  rw [← h.isEmpty_iff, first?]
  cases w.isEmpty <;> simp

end PendingWord

end CallEngine
