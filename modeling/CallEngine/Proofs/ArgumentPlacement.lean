import CallEngine.Proofs.CallImage

/-!
# Where arguments travel

A target hands out its registers to the arguments of a call in order, and puts an argument on the
stack if no register is left for it. Here the place of an argument is said without a cursor: by its
rank, the number of arguments before it that drew on the same registers. It is shown for every
target that a cursor gives each argument the register of its rank, if there is one, and the stack
otherwise. So no register is given out twice, and places on the stack do not overlap.
-/

namespace CallEngine

/-- An argument that has to be placed. -/
structure Argument where
  ty : ForeignType
  /-- Whether it is passed as variadic. -/
  variadic : Bool
deriving Repr, DecidableEq

/-- The class of registers that an argument may travel in. -/
def Argument.cls (a : Argument) : ArgClass := .of a.ty

namespace Abi

variable {abi : Abi} {before args : List Argument} {a : Argument} {cls cls' : ArgClass} {i j : Nat}

/-- How many registers there are of a class. -/
def registers (abi : Abi) : ArgClass → Nat
  | .integer => abi.intRegisters
  | .float => abi.floatRegisters

/-- An argument may travel in a register, unless the target puts variadic ones on the stack. -/
def eligible (abi : Abi) (a : Argument) : Bool := !(a.variadic && abi.variadicOnStack)

/-- An argument draws on the registers of a class if it may travel in a register, and is of this
class or uses up a position of a common sequence. -/
def drawsOn (abi : Abi) (cls : ArgClass) (a : Argument) : Bool :=
  abi.eligible a && (abi.sharedSequence || decide (a.cls = cls))

/-- How many of the arguments before draw on the registers of a class. -/
def rank (abi : Abi) (before : List Argument) (cls : ArgClass) : Nat :=
  before.countP (abi.drawsOn cls)

/-- There is a register left for an argument behind those before it. -/
def HasRegister (abi : Abi) (before : List Argument) (a : Argument) : Prop :=
  abi.eligible a = true ∧ abi.rank before a.cls < abi.registers a.cls

/-! ## Targets -/

/-- What the rules of a target have to satisfy: the positions of a common sequence have a register
of either class, and what is aligned to the larger one of a type's alignment and the size of a slot
is aligned to both. -/
structure Regular (abi : Abi) : Prop where
  shared (hshared : abi.sharedSequence = true) (cls cls' : ArgClass) :
    abi.registers cls = abi.registers cls'
  slotSize_pos : 0 < abi.slotSize
  stackAlign_pos : 0 < abi.stackAlign
  align_dvd (ty : ForeignType) : ty.align ∣ max ty.align abi.slotSize
  slotSize_dvd (ty : ForeignType) : abi.slotSize ∣ max ty.align abi.slotSize

/-- Every target has regular rules. -/
theorem regular_of_mem (habi : abi ∈ all) : abi.Regular := by
  simp only [all, List.mem_cons, List.not_mem_nil, or_false] at habi
  rcases habi with rfl | rfl | rfl | rfl | rfl | rfl
  all_goals
    refine ⟨fun hshared cls cls' => ?_, by decide, by decide, fun ty => ?_, fun ty => ?_⟩
    · cases cls <;> cases cls' <;> first | rfl | cases hshared
    · cases ty <;> decide
    · cases ty <;> decide

/-! ## Ranks -/

/-- One more argument counts for the classes on whose registers it draws. -/
theorem rank_concat (abi : Abi) (before : List Argument) (a : Argument) (cls : ArgClass) :
    abi.rank (before ++ [a]) cls = abi.rank before cls + if abi.drawsOn cls a then 1 else 0 := by
  simp [rank, List.countP_append, List.countP_singleton]

/-- On a common sequence, every class has the same rank. -/
theorem rank_shared (hshared : abi.sharedSequence = true) (before : List Argument)
    (cls cls' : ArgClass) : abi.rank before cls = abi.rank before cls' := by
  have hdraws (cls : ArgClass) : abi.drawsOn cls = abi.eligible := by
    funext a
    simp [drawsOn, hshared]
  rw [rank, rank, hdraws cls, hdraws cls']

/-- Ranks do not decrease from one argument to the next. -/
theorem rank_take_mono (hij : i ≤ j) (args : List Argument) (cls : ArgClass) :
    abi.rank (args.take i) cls ≤ abi.rank (args.take j) cls :=
  (List.take_sublist_take_left hij).countP_le

/-- An argument that comes later and draws on the same registers has a greater rank. -/
theorem rank_take_lt (hij : i < j) (ha : args[i]? = some a) (hdraws : abi.drawsOn cls a = true) :
    abi.rank (args.take i) cls < abi.rank (args.take j) cls := by
  have hnext : abi.rank (args.take (i + 1)) cls = abi.rank (args.take i) cls + 1 := by
    rw [List.take_add_one, ha, Option.toList_some, rank_concat, if_pos hdraws]
  calc abi.rank (args.take i) cls
      < abi.rank (args.take (i + 1)) cls := by omega
    _ ≤ abi.rank (args.take j) cls := rank_take_mono hij args cls

end Abi

/-- Registers of different classes or indices are different. -/
theorem Location.register_inj {cls cls' : ArgClass} {k k' : Nat} :
    Location.register cls k = Location.register cls' k' ↔ cls = cls' ∧ k = k' := by
  cases cls <;> cases cls' <;> simp [Location.register]

/-- A register is no place on the stack. -/
theorem Location.register_ne_stack (cls : ArgClass) (k offset : Nat) :
    Location.register cls k ≠ .stack offset := by
  cases cls <;> simp [Location.register]

/-- What is rounded up is a multiple. -/
theorem dvd_alignUp (offset align : Nat) : align ∣ alignUp offset align :=
  Nat.dvd_mul_left _ _

namespace RegisterCursor

variable {abi : Abi} {c c' : RegisterCursor} {a : Argument} {before args : List Argument}
  {location : Location}

/-- How many registers of a class are used up. -/
def used (c : RegisterCursor) : ArgClass → Nat
  | .integer => c.intUsed
  | .float => c.floatUsed

/-- The cursor after arguments were placed, the first of them first. -/
def after (c : RegisterCursor) : List Argument → RegisterCursor
  | [] => c
  | a :: rest => (c.assign a.ty a.variadic).2.after rest

/-- The places of arguments, the first of them first. -/
def locations (c : RegisterCursor) : List Argument → List Location
  | [] => []
  | a :: rest => (c.assign a.ty a.variadic).1 :: (c.assign a.ty a.variadic).2.locations rest

/-- Arguments are placed one part after the other. -/
theorem after_append (c : RegisterCursor) (before rest : List Argument) :
    c.after (before ++ rest) = (c.after before).after rest := by
  induction before generalizing c with
  | nil => rfl
  | cons a before ih => exact ih _

/-- Every argument gets a place. -/
theorem length_locations (c : RegisterCursor) (args : List Argument) :
    (c.locations args).length = args.length := by
  induction args generalizing c with
  | nil => rfl
  | cons a rest ih => simp [locations, ih]

/-- An argument is placed by the cursor as the arguments before it have left it. -/
theorem getElem?_locations (c : RegisterCursor) (args : List Argument) (i : Nat) :
    (c.locations args)[i]? =
      args[i]?.map fun a => ((c.after (args.take i)).assign a.ty a.variadic).1 := by
  induction args generalizing c i with
  | nil => rfl
  | cons a rest ih =>
    cases i with
    | zero => rfl
    | succ i => exact ih _ i

/-! ## One argument -/

/-- The cursor once a register of a class was given out. -/
def taken (c : RegisterCursor) (cls : ArgClass) : RegisterCursor :=
  { c with
    intUsed := if c.abi.sharedSequence || decide (cls = .integer) then c.intUsed + 1 else c.intUsed
    floatUsed :=
      if c.abi.sharedSequence || decide (cls = .float) then c.floatUsed + 1 else c.floatUsed }

/-- A register that is given out counts for every class that draws on it. -/
theorem used_taken (c : RegisterCursor) (cls cls' : ArgClass) :
    (c.taken cls).used cls' =
      c.used cls' + if c.abi.sharedSequence || decide (cls = cls') then 1 else 0 := by
  cases cls' <;> simp only [taken, used] <;> split <;> rfl

/-- Where an argument would be put on the stack. -/
def stackPlace (c : RegisterCursor) (ty : ForeignType) : Nat :=
  alignUp c.stackOffset (max ty.align c.abi.slotSize)

/-- The cursor once an argument was put on the stack. -/
def stacked (c : RegisterCursor) (ty : ForeignType) : RegisterCursor :=
  { c with stackOffset := c.stackPlace ty + alignUp (max ty.size 1) c.abi.slotSize }

/-- A cursor fits the arguments that were placed: as many registers of a class are used up as
arguments drew on them, as long as there were any. -/
structure Follows (abi : Abi) (before : List Argument) (c : RegisterCursor) : Prop where
  target : c.abi = abi
  used (cls : ArgClass) : c.used cls = min (abi.rank before cls) (abi.registers cls)

/-- The ways in which an argument is placed. -/
inductive Assigns (abi : Abi) (before : List Argument) (a : Argument) (c : RegisterCursor) :
    Location → RegisterCursor → Prop
  | register (h : abi.HasRegister before a) :
    Assigns abi before a c (.register a.cls (abi.rank before a.cls)) (c.taken a.cls)
  | stack (h : ¬ abi.HasRegister before a) :
    Assigns abi before a c (.stack (c.stackPlace a.ty)) (c.stacked a.ty)

/-- A register is given out as long as there is one. -/
theorem Follows.takeRegister? (h : c.Follows abi before) (habi : abi.Regular) (cls : ArgClass) :
    c.takeRegister? cls =
      if c.used cls < abi.registers cls then some (.register cls (c.used cls), c.taken cls)
      else none := by
  obtain ⟨rfl, hused⟩ := h
  unfold RegisterCursor.takeRegister?
  by_cases hshared : c.abi.sharedSequence = true
  · have hcount : c.used cls = c.intUsed := by
      rw [hused, Abi.rank_shared hshared before cls .integer, habi.shared hshared cls .integer]
      exact (hused .integer).symm
    have hregisters : c.abi.registers cls = c.abi.intRegisters :=
      habi.shared hshared cls .integer
    simp [hshared, hcount, hregisters, taken]
  · cases cls <;> simp [hshared, RegisterCursor.used, Abi.registers, taken, Location.register]

/-- An argument gets the register of its rank, or a place on the stack. -/
theorem Follows.assigns (h : c.Follows abi before) (habi : abi.Regular) (a : Argument) :
    Assigns abi before a c (c.assign a.ty a.variadic).1 (c.assign a.ty a.variadic).2 := by
  have hforced : (a.variadic && c.abi.variadicOnStack) = !abi.eligible a := by
    rw [h.target, Abi.eligible, Bool.not_not]
  have hstack : c.takeStack a.ty = (.stack (c.stackPlace a.ty), c.stacked a.ty) := rfl
  rw [assign, hforced, ← Argument.cls, h.takeRegister? habi, hstack]
  cases heligible : abi.eligible a with
  | true =>
    have hused := h.used a.cls
    rw [if_neg (by decide)]
    by_cases hroom : c.used a.cls < abi.registers a.cls
    · have hrank : c.used a.cls = abi.rank before a.cls := by omega
      rw [if_pos hroom, Option.getD_some, hrank]
      exact .register ⟨heligible, hrank ▸ hroom⟩
    · rw [if_neg hroom, Option.getD_none]
      refine .stack fun hregister => hroom ?_
      have hleft := hregister.2
      omega
  | false =>
    rw [if_pos (by decide)]
    refine .stack fun hregister => ?_
    rw [hregister.1] at heligible
    cases heligible

/-- A cursor fits the arguments that were placed when one more is placed. -/
theorem Follows.assign (h : c.Follows abi before) (habi : abi.Regular) (a : Argument) :
    (c.assign a.ty a.variadic).2.Follows abi (before ++ [a]) := by
  have hassigns := h.assigns habi a
  revert hassigns
  generalize (c.assign a.ty a.variadic).1 = location, (c.assign a.ty a.variadic).2 = next
  intro hassigns
  cases hassigns with
  | register hregister =>
    obtain ⟨heligible, hroom⟩ := hregister
    refine ⟨h.target, fun cls => ?_⟩
    rw [used_taken, h.used cls, Abi.rank_concat, h.target]
    simp only [Abi.drawsOn, heligible, Bool.true_and]
    split
    · -- The class drew on the same registers, of which there was one left.
      rename_i hdraws
      have hroom' : abi.rank before cls < abi.registers cls := by
        rcases Bool.or_eq_true .. ▸ hdraws with hshared | hcls
        · rwa [Abi.rank_shared hshared before cls a.cls, habi.shared hshared cls a.cls]
        · rwa [← of_decide_eq_true hcls]
      omega
    · rfl
  | stack hnone =>
    refine ⟨h.target, fun cls => ?_⟩
    change c.used cls = _
    rw [h.used cls, Abi.rank_concat]
    split
    · -- The class drew on registers of which none was left.
      rename_i hdraws
      simp only [Abi.drawsOn, Bool.and_eq_true, Bool.or_eq_true, decide_eq_true_eq] at hdraws
      have hfull : abi.registers cls ≤ abi.rank before cls := by
        have hfull : abi.registers a.cls ≤ abi.rank before a.cls :=
          Nat.not_lt.mp fun hroom => hnone ⟨hdraws.1, hroom⟩
        rcases hdraws.2 with hshared | rfl
        · rwa [Abi.rank_shared hshared before cls a.cls, habi.shared hshared cls a.cls]
        · exact hfull
      omega
    · rfl

/-- An argument is put on the stack behind all that is used up. -/
theorem le_stackPlace (habi : abi.Regular) (htarget : c.abi = abi) (ty : ForeignType) :
    c.stackOffset ≤ c.stackPlace ty := by
  refine le_alignUp ?_ _
  rw [htarget]
  exact Nat.lt_of_lt_of_le habi.slotSize_pos (Nat.le_max_right _ _)

/-- Placing an argument does not give up any of the stack. -/
theorem Assigns.stackOffset_le (h : Assigns abi before a c location c') (htarget : c.abi = abi)
    (habi : abi.Regular) : c.stackOffset ≤ c'.stackOffset := by
  cases h with
  | register => exact Nat.le_refl _
  | stack => exact Nat.le_trans (le_stackPlace habi htarget a.ty) (Nat.le_add_right _ _)

/-! ## All arguments -/

/-- A cursor that has placed no argument: a new one, or one that was reset. -/
inductive Fresh (abi : Abi) : RegisterCursor → Prop
  | new : Fresh abi { abi }
  | reset (used : RegisterCursor) (htarget : used.abi = abi) : Fresh abi used.reset

/-- A fresh cursor fits no arguments. -/
theorem Fresh.follows (h : Fresh abi c) : c.Follows abi [] := by
  cases h with
  | new => exact ⟨rfl, fun cls => by cases cls <;> simp [RegisterCursor.used, Abi.rank]⟩
  | reset used htarget =>
    exact ⟨htarget, fun cls => by
      cases cls <;> simp [RegisterCursor.used, RegisterCursor.reset, Abi.rank]⟩

/-- A cursor fits all arguments that were placed. The induction is over those that are left. -/
theorem Follows.after (h : c.Follows abi before) (habi : abi.Regular) (args : List Argument) :
    (c.after args).Follows abi (before ++ args) := by
  induction args generalizing c before with
  | nil => rwa [List.append_nil]
  | cons a rest ih =>
    have hrest := ih (h.assign habi a)
    rwa [List.append_assoc, List.singleton_append] at hrest

/-- The stack that is used up does not decrease. -/
theorem Follows.stackOffset_le (h : c.Follows abi before) (habi : abi.Regular)
    (args : List Argument) : c.stackOffset ≤ (c.after args).stackOffset := by
  induction args generalizing c before with
  | nil => exact Nat.le_refl _
  | cons a rest ih =>
    exact Nat.le_trans ((h.assigns habi a).stackOffset_le h.target habi) (ih (h.assign habi a))

end RegisterCursor

namespace Abi

/-- The stack that an argument takes. -/
def room (abi : Abi) (a : Argument) : Nat := alignUp a.ty.size abi.slotSize

/-- The places of the arguments of a call, and the size of its outgoing stack area. -/
structure Places (abi : Abi) (args : List Argument) (locations : List Location)
    (stackSize : Nat) : Prop where
  length : locations.length = args.length
  /-- An argument for which there is a register gets the one of its rank. -/
  register {i : Nat} {a : Argument} (ha : args[i]? = some a)
    (h : abi.HasRegister (args.take i) a) :
    locations[i]? = some (.register a.cls (abi.rank (args.take i) a.cls))
  /-- Every other argument goes to the stack. -/
  stack {i : Nat} {a : Argument} (ha : args[i]? = some a)
    (h : ¬ abi.HasRegister (args.take i) a) : ∃ offset, locations[i]? = some (.stack offset)
  /-- No register is given out twice, and on a common sequence no position is. -/
  distinct {i j : Nat} (hij : i < j) {cls cls' : ArgClass} {k k' : Nat}
    (hi : locations[i]? = some (.register cls k)) (hj : locations[j]? = some (.register cls' k'))
    (hsequence : abi.sharedSequence = true ∨ cls = cls') : k ≠ k'
  aligned {i : Nat} {a : Argument} {offset : Nat} (ha : args[i]? = some a)
    (hi : locations[i]? = some (.stack offset)) : a.ty.align ∣ offset ∧ abi.slotSize ∣ offset
  /-- Places on the stack do not overlap, and later arguments come behind earlier ones. -/
  increasing {i j : Nat} (hij : i < j) {a : Argument} {offset offset' : Nat}
    (ha : args[i]? = some a) (hi : locations[i]? = some (.stack offset))
    (hj : locations[j]? = some (.stack offset')) :
    offset < offset' ∧ offset + abi.room a ≤ offset'
  stackAlign_dvd : abi.stackAlign ∣ stackSize
  covers {i : Nat} {a : Argument} {offset : Nat} (ha : args[i]? = some a)
    (hi : locations[i]? = some (.stack offset)) : offset + abi.room a ≤ stackSize

end Abi

namespace RegisterCursor

variable {abi : Abi} {c : RegisterCursor} {args : List Argument} {a : Argument} {i j : Nat}

/-- How each argument of a list is placed. -/
theorem Fresh.assigns (h : Fresh abi c) (habi : abi.Regular) (ha : args[i]? = some a) :
    ∃ location next, (c.locations args)[i]? = some location ∧ c.after (args.take (i + 1)) = next ∧
      Assigns abi (args.take i) a (c.after (args.take i)) location next := by
  have hfollows := h.follows.after habi (args.take i)
  rw [List.nil_append] at hfollows
  refine ⟨_, _, ?_, ?_, hfollows.assigns habi a⟩
  · rw [getElem?_locations, ha, Option.map_some]
  · rw [List.take_add_one, ha, Option.toList_some, after_append]
    rfl

/-- An argument whose place is a register had one left. -/
theorem Fresh.hasRegister (h : Fresh abi c) (habi : abi.Regular) {cls : ArgClass} {k : Nat}
    (hi : (c.locations args)[i]? = some (.register cls k)) :
    ∃ a, args[i]? = some a ∧ abi.HasRegister (args.take i) a ∧ cls = a.cls ∧
      k = abi.rank (args.take i) a.cls := by
  obtain ⟨hlt, _⟩ := List.getElem?_eq_some_iff.mp hi
  rw [length_locations] at hlt
  have ha := List.getElem?_eq_getElem hlt
  obtain ⟨location, next, hlocation, _, hassigns⟩ := h.assigns habi ha
  rw [hi, Option.some.injEq] at hlocation
  cases hassigns with
  | register hregister =>
    obtain ⟨rfl, rfl⟩ := Location.register_inj.mp hlocation
    exact ⟨_, ha, hregister, rfl, rfl⟩
  | stack _ => exact absurd hlocation (Location.register_ne_stack _ _ _)

/-- An argument whose place is on the stack was put behind all that was there, and the next one is
put behind it. -/
theorem Fresh.stackPlace (h : Fresh abi c) (habi : abi.Regular) (ha : args[i]? = some a)
    {offset : Nat} (hi : (c.locations args)[i]? = some (.stack offset)) :
    offset = (c.after (args.take i)).stackPlace a.ty ∧
      (c.after (args.take i)).abi = abi ∧
      (c.after (args.take (i + 1))).stackOffset =
        offset + alignUp (max a.ty.size 1) abi.slotSize := by
  have htarget := (h.follows.after habi (args.take i)).target
  obtain ⟨location, next, hlocation, hnext, hassigns⟩ := h.assigns habi ha
  rw [hi, Option.some.injEq] at hlocation
  cases hassigns with
  | register _ => exact absurd hlocation.symm (Location.register_ne_stack _ _ _)
  | stack _ =>
    cases hlocation
    refine ⟨rfl, htarget, ?_⟩
    rw [hnext, ← htarget]
    rfl

/-- The stack that is used up before an argument is used up before all later ones. -/
theorem Fresh.stackOffset_mono (h : Fresh abi c) (habi : abi.Regular) (args : List Argument)
    (hij : i < j) :
    (c.after (args.take (i + 1))).stackOffset ≤ (c.after (args.take j)).stackOffset := by
  obtain ⟨rest, hrest⟩ := List.take_prefix_take_left hij
  rw [← hrest, after_append]
  exact (h.follows.after habi (args.take (i + 1))).stackOffset_le habi rest

/-- No register is given out twice, and on a common sequence no position is. -/
theorem Fresh.register_ne (h : Fresh abi c) (habi : abi.Regular) (hij : i < j)
    {cls cls' : ArgClass} {k k' : Nat} (hi : (c.locations args)[i]? = some (.register cls k))
    (hj : (c.locations args)[j]? = some (.register cls' k'))
    (hsequence : abi.sharedSequence = true ∨ cls = cls') : k ≠ k' := by
  obtain ⟨a, ha, hregister, rfl, rfl⟩ := h.hasRegister habi hi
  obtain ⟨b, hb, _, rfl, rfl⟩ := h.hasRegister habi hj
  have hdraws : abi.drawsOn b.cls a = true := by
    simpa [Abi.drawsOn, hregister.1] using hsequence
  have hlt := Abi.rank_take_lt hij ha hdraws
  rcases hsequence with hshared | hcls
  · rw [Abi.rank_shared hshared _ a.cls b.cls]
    exact Nat.ne_of_lt hlt
  · rw [hcls]
    exact Nat.ne_of_lt hlt

/-- The place of an argument on the stack starts and ends before all that is used up for later ones
begins. -/
theorem Fresh.end_le_stackOffset (h : Fresh abi c) (habi : abi.Regular) (hij : i < j)
    (ha : args[i]? = some a) {offset : Nat} (hi : (c.locations args)[i]? = some (.stack offset)) :
    offset < (c.after (args.take j)).stackOffset ∧
      offset + abi.room a ≤ (c.after (args.take j)).stackOffset := by
  obtain ⟨_, _, hbehind⟩ := h.stackPlace habi ha hi
  have hmono := h.stackOffset_mono habi args hij
  -- What an argument takes of the stack is at most by how far the cursor is moved.
  have hroom : abi.room a ≤ alignUp (max a.ty.size 1) abi.slotSize :=
    alignUp_mono (Nat.le_max_left _ _) _
  have hpos : 1 ≤ alignUp (max a.ty.size 1) abi.slotSize :=
    Nat.le_trans (Nat.le_max_right _ _) (le_alignUp habi.slotSize_pos _)
  omega

/-- On every target, a cursor that is new or was reset gives every argument that may travel in a
register the one of its rank, as long as there is one, and puts every other argument on the stack.
No register is given out twice. Places on the stack are aligned and do not overlap, and the stack
area covers them. -/
theorem arguments_placed (habi : abi ∈ Abi.all) (hc : Fresh abi c) (args : List Argument) :
    abi.Places args (c.locations args) (c.after args).stackSize := by
  have hregular := Abi.regular_of_mem habi
  have hend : (c.after args).abi = abi := (hc.follows.after hregular args).target
  refine
    { length := length_locations c args
      register := fun ha hregister => ?_
      stack := fun ha hnone => ?_
      distinct := fun hij _ _ _ _ => hc.register_ne hregular hij
      aligned := fun ha hi => ?_
      increasing := fun hij _ _ _ ha hi hj => ?_
      stackAlign_dvd := hend ▸ dvd_alignUp _ _
      covers := fun {i a offset} ha hi => ?_ }
  · obtain ⟨location, next, hlocation, _, hassigns⟩ := hc.assigns hregular ha
    cases hassigns with
    | register _ => exact hlocation
    | stack hnone => exact absurd hregister hnone
  · obtain ⟨location, next, hlocation, _, hassigns⟩ := hc.assigns hregular ha
    cases hassigns with
    | register hregister => exact absurd hregister hnone
    | stack _ => exact ⟨_, hlocation⟩
  · obtain ⟨rfl, htarget, _⟩ := hc.stackPlace hregular ha hi
    rw [stackPlace, htarget]
    exact ⟨Nat.dvd_trans (hregular.align_dvd _) (dvd_alignUp _ _),
      Nat.dvd_trans (hregular.slotSize_dvd _) (dvd_alignUp _ _)⟩
  · obtain ⟨hlt, _⟩ := List.getElem?_eq_some_iff.mp hj
    rw [length_locations] at hlt
    obtain ⟨rfl, htarget, _⟩ := hc.stackPlace hregular (List.getElem?_eq_getElem hlt) hj
    have hbefore := hc.end_le_stackOffset hregular hij ha hi
    exact ⟨Nat.lt_of_lt_of_le hbefore.1 (le_stackPlace hregular htarget _),
      Nat.le_trans hbefore.2 (le_stackPlace hregular htarget _)⟩
  · obtain ⟨hlt, _⟩ := List.getElem?_eq_some_iff.mp ha
    have hbefore := hc.end_le_stackOffset hregular hlt ha hi
    rw [List.take_length] at hbefore
    exact Nat.le_trans hbefore.2 (le_alignUp (hend ▸ hregular.stackAlign_pos) _)

/-- Arguments of both classes, the last three of them variadic. -/
def mixed : List Argument :=
  [⟨.int, false⟩, ⟨.double, false⟩, ⟨.short, false⟩, ⟨.float, true⟩, ⟨.double, true⟩, ⟨.char, true⟩]

/-- A cursor that has placed other arguments. -/
def worn (abi : Abi) : RegisterCursor := { abi, intUsed := 3, floatUsed := 1, stackOffset := 20 }

/-- Of the mixed arguments, two do not find a register where the classes share their positions, and
three are put on the stack where variadic ones are. -/
theorem mixed_placed :
    (worn .win64).reset.locations mixed =
      [.intRegister 0, .floatRegister 1, .intRegister 2, .floatRegister 3, .stack 0, .stack 8] ∧
    (worn .appleArm64).reset.locations mixed =
      [.intRegister 0, .floatRegister 0, .intRegister 1, .stack 0, .stack 8, .stack 16] ∧
    Abi.win64.Places mixed ((worn .win64).reset.locations mixed)
      ((worn .win64).reset.after mixed).stackSize ∧
    Abi.appleArm64.Places mixed ((worn .appleArm64).reset.locations mixed)
      ((worn .appleArm64).reset.after mixed).stackSize := by
  refine ⟨by decide, by decide, ?_, ?_⟩
  · exact arguments_placed (by decide) (.reset (worn .win64) rfl) mixed
  · exact arguments_placed (by decide) (.reset (worn .appleArm64) rfl) mixed

end RegisterCursor

end CallEngine
