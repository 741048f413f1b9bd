import CallEngine.Proofs.FrameCounts

/-!
# Open frames tile the operand stack

The open frames on the operand stack take it up from its bottom to its top, one after another in the
order of the chain, with neither gaps nor overlaps. Each begins at the mark in its record. So every
slot of an open frame is in use, and reading or writing one never falls back on anything.
-/

namespace CallEngine

/-- Ranges of slots, each given by its offset and its length, follow one another from `lo` to `hi`. -/
def Tiles : Nat → List (Nat × Nat) → Nat → Prop
  | lo, [], hi => lo = hi
  | lo, (offset, length) :: rest, hi => offset = lo ∧ Tiles (lo + length) rest hi

/-- One more range can follow where others end. -/
theorem Tiles.snoc {lo mid : Nat} {ranges : List (Nat × Nat)} (h : Tiles lo ranges mid)
    (length : Nat) : Tiles lo (ranges ++ [(mid, length)]) (mid + length) := by
  induction ranges generalizing lo with
  | nil =>
    obtain rfl : lo = mid := h
    exact ⟨rfl, rfl⟩
  | cons range rest ih => exact ⟨h.1, ih h.2⟩

/-- The slots that a frame has on the operand stack. -/
def Frame.range? (f : Frame) : Option (Nat × Nat) :=
  match f.base with
  | .values => none
  | .stack offset => some (offset, f.argc)

namespace Stacked

variable {frames : List Frame} {f g : Frame}

/-- Frames that lie upon each other, the outermost first, follow one another on the operand stack. -/
theorem tiles (h : Stacked frames) :
    Tiles 0 (frames.reverse.filterMap Frame.range?) (extent frames) := by
  induction frames with
  | nil => rfl
  | cons f outer ih =>
    obtain ⟨_, hoffset, houter⟩ := h
    rw [List.reverse_cons, List.filterMap_append, extent]
    cases hbase : f.base with
    | values =>
      have hrange : f.range? = none := by rw [Frame.range?, hbase]
      simpa [hrange, Frame.room_buffer hbase] using ih houter
    | stack offset =>
      have hrange : f.range? = some (extent outer, f.argc) := by
        rw [Frame.range?, hbase, hoffset offset hbase]
      simpa [hrange, Frame.room_stack hbase] using (ih houter).snoc f.argc

/-- A frame has its slots among those that all frames take together. -/
theorem offset_add_argc_le (h : Stacked frames) (hf : f ∈ frames) {offset : Nat}
    (hbase : f.base = .stack offset) : offset + f.argc ≤ extent frames := by
  induction frames with
  | nil => simp at hf
  | cons g outer ih =>
    obtain ⟨_, hoffset, houter⟩ := h
    rw [extent]
    rcases List.mem_cons.mp hf with rfl | hf
    · have hbegin := hoffset offset hbase
      rw [Frame.room_stack hbase]
      omega
    · exact Nat.le_add_right_of_le (ih houter hf)

/-- The slots of one frame end before those of another begin. -/
theorem disjoint (h : Stacked frames) (hf : f ∈ frames) (hg : g ∈ frames) (hne : f ≠ g)
    {offset other : Nat} (hfbase : f.base = .stack offset) (hgbase : g.base = .stack other) :
    offset + f.argc ≤ other ∨ other + g.argc ≤ offset := by
  induction frames with
  | nil => simp at hf
  | cons top outer ih =>
    obtain ⟨_, hoffset, houter⟩ := h
    rcases List.mem_cons.mp hf with rfl | hfouter
    · have hbegin := hoffset offset hfbase
      have hle := houter.offset_add_argc_le (List.mem_of_ne_of_mem hne.symm hg) hgbase
      omega
    · rcases List.mem_cons.mp hg with rfl | hgouter
      · have hbegin := hoffset other hgbase
        have hle := houter.offset_add_argc_le hfouter hfbase
        omega
      · exact ih houter hfouter hgouter

end Stacked

namespace Tracked

variable {s : Tracked} {f : Frame}

/-- The mark in the record of an open frame on the operand stack is where the frame begins. -/
theorem Coherent.stackMark (h : Coherent s) (hf : f ∈ s.openFrames) {offset : Nat}
    (hbase : f.base = .stack offset) :
    ∃ record, s.context.record? f = some record ∧ record.stackMark = offset := by
  obtain ⟨record, hrecord⟩ := Option.isSome_iff_exists.mp (mem_openFrames.mp hf).2
  obtain ⟨inner, outer, hsplit⟩ := List.append_of_mem hf
  have hstacked := h.stacked
  rw [hsplit] at hstacked
  have hoffset : offset = extent outer := hstacked.of_append.2.1 offset hbase
  exact ⟨record, hrecord, (h.mark hsplit hrecord).trans hoffset.symm⟩

/-- The slots of an open frame on the operand stack are in use. -/
theorem Coherent.slot_lt (h : Coherent s) (hf : f ∈ s.openFrames) {offset index : Nat}
    (hbase : f.base = .stack offset) (hindex : index < f.argc) :
    offset + index < s.context.stack.top := by
  have hle := h.stacked.offset_add_argc_le hf hbase
  rw [h.top]
  omega

/-- The chain, the frames that were given out, the operand stack and the numbers that are kept
belong together. -/
structure Tiled (s : Tracked) : Prop where
  /-- The records of the chain are those of the open frames, the outermost first. -/
  chain : s.context.frames.toList.map FrameRecord.serial = s.openFrames.reverse.map Frame.serial
  increasing : (s.context.frames.toList.map FrameRecord.serial).Pairwise (· < ·)
  fresh : ∀ serial ∈ s.context.frames.toList.map FrameRecord.serial, serial < s.context.nextSerial
  tiles : Tiles 0 (s.openFrames.reverse.filterMap Frame.range?) s.context.stack.top
  marked : ∀ f ∈ s.openFrames, ∀ offset, f.base = .stack offset →
    ∃ record, s.context.record? f = some record ∧ record.stackMark = offset
  /-- Every slot of an open frame can be read and written. -/
  inUse : ∀ f ∈ s.openFrames, ∀ index < f.argc,
    match f.base with
    | .values => index < s.context.values.capacity
    | .stack offset => (s.context.stack.get? (offset + index)).isSome ∧
      ∀ value, (s.context.stack.set (offset + index) value).1 = true
  opened : s.context.bufferFrames + s.context.stackFrames = s.context.nextSerial
  reserved : s.context.stack.reservations = s.context.stackFrames
  /-- What was opened on the operand stack was closed again or is still open. -/
  released : s.context.stackFrames = s.context.stack.releases + onStack s.openFrames

/-- Whatever was done with a context, its open frames tile the operand stack. -/
theorem openFrames_tile {settings : Settings} (h : Reachable settings s) : Tiled s := by
  have hcoherent := h.coherent
  have hsized := h.sized
  have hcounted := h.counted
  have hchain : s.context.frames.toList.map FrameRecord.serial =
      s.openFrames.reverse.map Frame.serial := by
    rw [hcoherent.serials, List.map_reverse]
  refine ⟨hchain, ?_, ?_, ?_, ?_, ?_, hcounted.opened, hcounted.reserved, hcounted.released⟩
  · rw [hchain, List.pairwise_map, List.pairwise_reverse]
    exact hcoherent.openFrames_pairwise
  · rw [hchain]
    intro serial hserial
    obtain ⟨f, hf, rfl⟩ := List.mem_map.mp hserial
    exact hcoherent.fresh f (mem_openFrames.mp (List.mem_reverse.mp hf)).1
  · rw [hcoherent.top]
    exact hcoherent.stacked.tiles
  · intro f hf offset hbase
    exact hcoherent.stackMark hf hbase
  · intro f hf index hindex
    cases hbase : f.base with
    | values => exact Nat.lt_trans hindex (hsized.argc_lt (mem_openFrames.mp hf).1 hbase)
    | stack offset =>
      have hlt := hcoherent.slot_lt hf hbase hindex
      refine ⟨?_, fun value => by simp [OperandStack.set, hlt]⟩
      rw [OperandStack.get?, isSome_getElem?]
      exact hlt

/-- A routine that leaves three frames open: two on the operand stack, and between them one in the
buffer, over which values were reported. -/
def nesting : Routine :=
  .request (.openFrameWith [.fixnum 1, .fixnum 2, .fixnum 3]) fun _ _ =>
  .request (.setArg 0 1 (.fixnum 9)) fun _ _ =>
  .request (.openFrameWith [.fixnum 4]) fun _ _ =>
  .request (.setValues [.fixnum 6, .fixnum 7]) fun _ _ =>
  .request (.openFrame 2) fun _ _ => .finish (.ok 0)

/-- The small context with three open frames. -/
def nested : Tracked := (nesting.run small).state

/-- Three frames can be open on the small context. -/
theorem nested_reachable : Reachable Settings.small nested :=
  ⟨small, small_created, .single (.routine nesting rfl)⟩

/-- The two large frames of the small context tile its operand stack. -/
theorem nested_openFrames_tile :
    nested.openFrames.reverse.filterMap Frame.range? = [(0, 3), (3, 2)] ∧ Tiled nested :=
  ⟨rfl, openFrames_tile nested_reachable⟩

end Tracked

end CallEngine
