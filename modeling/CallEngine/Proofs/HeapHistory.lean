import CallEngine.Literal
import CallEngine.Proofs.Crossing
import CallEngine.Proofs.Outcome

/-!
# The heap as its history

Whatever a heap is asked for, in whatever order and with whatever handles, what it answers is
decided by what was done to it before: which objects were created, and which writes were made. An
object keeps the tag and the size it was created with. Each of its bytes is the one of the latest
write to that object that covers it, and zero if none does. Whatever is refused has changed nothing,
and storing an object takes two steps, of which the second one never fails.

Objects are created unless the limit forbids it, with one exception. More bytes than one allocation
may have are counted as any others, and then the program stops. If the heap is used again after
that, the bytes are still counted, for an object that was never created.

Handles are machine words, so all this is said of heaps that hold fewer objects than there are
handles.
-/

namespace CallEngine

/-! ## Requests and what they do -/

/-- One thing that a heap is asked for. -/
inductive HeapRequest where
  | allocate (size : UInt64) (tag : Tag)
  | makeString (text : String)
  | storeBignum (number : Bignum)
  | write (handle : Handle) (offset : Nat) (bytes : List UInt8)
  | read (handle : Handle)
  | tagOf (handle : Handle)
  | string (handle : Handle)

/-- Something that was done to a heap. -/
inductive HeapDeed where
  /-- The next object was created. -/
  | created (tag : Tag) (size : Nat)
  /-- Bytes were written into an object. -/
  | written (handle : Handle) (offset : Nat) (bytes : List UInt8)
  /-- Bytes were counted, but there was no memory for their object. -/
  | lost (size : Nat)

namespace Heap

/-- Write to an object. -/
def writing (handle : Handle) (offset : Nat) (bytes : List UInt8) : HeapOp Unit :=
  Op.transition fun heap => (heap.write handle offset bytes).map fun heap => ((), heap)

/-- Store an object in two steps. What the first one did would stay if the second one failed. -/
def storing (tag : Tag) (bytes : List UInt8) : HeapOp Handle := do
  let handle ← allocate (.ofNat bytes.length) tag
  writing handle 0 bytes
  return handle

end Heap

namespace HeapRequest

/-- The bytes that a request comes with. -/
def data : HeapRequest → List UInt8
  | makeString text => Text.utf8 text
  | storeBignum number => number.payload
  | write _ _ bytes => bytes
  | _ => []

/-- How many bytes an object is asked for. -/
def demand : HeapRequest → Nat
  | allocate size _ => size.toNat
  | makeString text => (Text.utf8 text).length
  | storeBignum number => number.payload.length
  | _ => 0

/-- Do what is asked for; the result is what was done, the latest first. -/
def op : HeapRequest → HeapOp (List HeapDeed)
  | allocate size tag => do
    let _ ← Heap.allocate size tag
    return [.created tag size.toNat]
  | makeString text => stored .string (Text.utf8 text)
  | storeBignum number => stored .bignum number.payload
  | write handle offset bytes => do
    Heap.writing handle offset bytes
    return [.written handle offset bytes]
  | read handle => do
    let _ ← Op.read (·.read handle)
    return []
  | tagOf handle => do
    let _ ← Op.read (·.tagOf handle)
    return []
  | string handle => do
    let _ ← Op.read (·.string handle)
    return []
where
  /-- Store an object. -/
  stored (tag : Tag) (bytes : List UInt8) : HeapOp (List HeapDeed) := do
    let handle ← Heap.storing tag bytes
    return [.written handle 0 bytes, .created tag bytes.length]

end HeapRequest

namespace HeapDeed

/-- The tags and sizes of the objects that were created, in order. -/
def objects : List HeapDeed → List (Tag × Nat)
  | [] => []
  | created tag size :: earlier => objects earlier ++ [(tag, size)]
  | written _ _ _ :: earlier => objects earlier
  | lost _ :: earlier => objects earlier

/-- The writes that were made to an object, the latest first, each with its offset. -/
def writes (handle : Handle) : List HeapDeed → List (Nat × List UInt8)
  | [] => []
  | created _ _ :: earlier => writes handle earlier
  | written target offset bytes :: earlier =>
    if target = handle then (offset, bytes) :: writes handle earlier else writes handle earlier
  | lost _ :: earlier => writes handle earlier

/-- How many bytes were counted for objects that were never created. -/
def wasted : List HeapDeed → Nat
  | [] => 0
  | created _ _ :: earlier => wasted earlier
  | written _ _ _ :: earlier => wasted earlier
  | lost size :: earlier => size + wasted earlier

/-- The byte at a place after writes, the latest first: that of the latest write that covers the
place, and zero if there is none. -/
def byteAt (i : Nat) : List (Nat × List UInt8) → UInt8
  | [] => 0
  | (offset, bytes) :: earlier =>
    if offset ≤ i ∧ i < offset + bytes.length then bytes.getD (i - offset) 0 else byteAt i earlier

end HeapDeed

/-- A heap with what was done to it, the latest first. -/
structure RecordedHeap where
  heap : Heap
  deeds : List HeapDeed := []

namespace RecordedHeap

/-- A heap that is empty, perhaps with a limit. -/
def empty (limit : Option UInt64) : RecordedHeap := { heap := { limit } }

/-- Serve one request, and go on from what it left. -/
def serve (s : RecordedHeap) (request : HeapRequest) : RecordedHeap :=
  match request.op s.heap with
  | .done deeds heap => { heap, deeds := deeds ++ s.deeds }
  | .failed _ heap => { s with heap }
  | .fatal _ heap => { heap, deeds := .lost request.demand :: s.deeds }

/-- Serve requests one after the other. -/
def serveAll : RecordedHeap → List HeapRequest → RecordedHeap
  | s, [] => s
  | s, request :: rest => (s.serve request).serveAll rest

/-- The tags and sizes of the objects that were created, in order. -/
def created (s : RecordedHeap) : List (Tag × Nat) := HeapDeed.objects s.deeds

/-- How many bytes the objects have together. -/
def total (s : RecordedHeap) : Nat := (s.created.map Prod.snd).sum

/-- How many bytes were counted for objects that were never created. -/
def wasted (s : RecordedHeap) : Nat := HeapDeed.wasted s.deeds

/-- How many bytes were ever granted. -/
def granted (s : RecordedHeap) : Nat := s.total + s.wasted

/-- The limit, if there is one, leaves room for so many bytes more. -/
def HasRoom (limit : Option UInt64) (s : RecordedHeap) (size : Nat) : Prop :=
  ∀ most, limit = some most → s.granted + size ≤ most.toNat

/-- What an object holds by what was done to it. -/
def contents (s : RecordedHeap) (handle : Handle) (size : Nat) : List UInt8 :=
  (List.range size).map fun i => HeapDeed.byteAt i (HeapDeed.writes handle s.deeds)

end RecordedHeap

/-! ## Payloads -/

/-- What is laid over a payload is found where it was laid. -/
theorem overlay_range {size offset : Nat} {bytes : List UInt8} (f : Nat → UInt8)
    (hfits : offset + bytes.length ≤ size) :
    overlay ((List.range size).map f) offset bytes =
      (List.range size).map fun i =>
        if offset ≤ i ∧ i < offset + bytes.length then bytes.getD (i - offset) 0 else f i := by
  apply List.ext_getElem?
  intro i
  have hmin : min offset size = offset := by omega
  simp only [overlay, List.getElem?_append, List.length_append, List.length_take, List.length_map,
    List.length_range, List.getElem?_take, List.getElem?_drop, List.getElem?_map, hmin]
  by_cases hbefore : i < offset
  · have hlt : i < offset + bytes.length := by omega
    simp [hbefore, hlt, Nat.not_le.mpr hbefore, show i < size by omega]
  · by_cases hin : i < offset + bytes.length
    · have hat : i - offset < bytes.length := by omega
      simp [hbefore, hin, hat, show offset ≤ i by omega, show i < size by omega]
    · have hat : offset + bytes.length + (i - (offset + bytes.length)) = i := by omega
      by_cases hsize : i < size <;> simp [hin, hat, hsize]

/-- All bytes of a payload are laid over. -/
theorem overlay_whole {payload bytes : List UInt8} (h : bytes.length = payload.length) :
    overlay payload 0 bytes = bytes := by
  simp [overlay, h]

/-- A write is made exactly if the object is there and the bytes fit into it. -/
theorem Heap.write_eq_ok {heap heap' : Heap} {handle : Handle} {offset : Nat}
    {bytes : List UInt8} :
    heap.write handle offset bytes = .ok heap' ↔
      ∃ object, heap.objects[handle.toNat]? = some object ∧ offset + bytes.length ≤ object.size ∧
        heap' = { heap with
          objects := heap.objects.setIfInBounds handle.toNat
            { object with payload := overlay object.payload offset bytes } } := by
  cases hobject : heap.objects[handle.toNat]? with
  | none => simp [write, object, hobject]
  | some object =>
    by_cases hfits : offset + bytes.length ≤ object.size
    · simp [write, Heap.object, hobject, hfits, eq_comm]
    · simp [write, Heap.object, hobject, hfits]

namespace Heap

variable {heap : Heap} {size : UInt64}

/-- The heap in which so many more bytes are counted. -/
def counting (heap : Heap) (size : Nat) : Heap :=
  { heap with allocated := .ofNat (heap.allocated.toNat + size) }

/-- Nothing is allocated if its bytes are not granted. -/
theorem allocate_of_refused {tag : Tag} {error : HeapError}
    (h : heap.reserve size.toNat = .error error) :
    allocate size tag heap = .failed error heap := by
  simp [allocate, Op.bind_apply, Op.transition, h, Except.map]

/-- The program stops if no allocation may have the bytes that were granted. -/
theorem allocate_of_large {tag : Tag} (h : heap.reserve size.toNat = .ok (heap.counting size.toNat))
    (hlarge : 2 ^ 63 ≤ size.toNat) :
    allocate size tag heap = .fatal (.panic .capacity) (heap.counting size.toNat) := by
  have hmost : Machine.allocationLimit < size.toNat := Nat.lt_of_lt_of_le (by decide) hlarge
  simp [allocate, Op.bind_apply, Op.transition, h, Except.map, hmost, Op.panic]

/-- Any other object is added behind all others, and holds zeros. -/
theorem allocate_of_granted (tag : Tag)
    (h : heap.reserve size.toNat = .ok (heap.counting size.toNat)) (hsmall : size.toNat < 2 ^ 63) :
    allocate size tag heap = .done heap.next (heap.stored tag (List.replicate size.toNat 0)) := by
  have hmost : ¬ Machine.allocationLimit < size.toNat :=
    Nat.not_lt.mpr (Nat.le_of_lt_succ (Nat.lt_of_lt_of_eq hsmall rfl))
  simp [allocate, Op.bind_apply, Op.transition, h, Except.map, hmost, Op.change, push, counting,
    next, stored]

/-- The object that was added last is written to as a whole. -/
theorem write_stored (hsize : heap.objects.size < 2 ^ 64) (tag : Tag) (bytes : List UInt8) :
    (heap.stored tag (List.replicate bytes.length 0)).write heap.next 0 bytes =
      .ok (heap.stored tag bytes) := by
  refine write_eq_ok.mpr ⟨⟨tag, List.replicate bytes.length 0⟩, ?_, ?_, ?_⟩
  · rw [toNat_next hsize, stored, Array.getElem?_push_size]
  · rw [HeapObject.size, List.length_replicate, Nat.zero_add]
  · have hwritten : (heap.objects.push ⟨tag, List.replicate bytes.length 0⟩).setIfInBounds
        heap.objects.size ⟨tag, bytes⟩ = heap.objects.push ⟨tag, bytes⟩ := by
      apply Array.ext_getElem?
      intro i
      rw [Array.getElem?_setIfInBounds, Array.size_push, Array.getElem?_push, Array.getElem?_push]
      by_cases hi : i = heap.objects.size
      · rw [hi, if_pos rfl, if_pos (Nat.lt_succ_self _), if_pos rfl]
      · rw [if_neg (Ne.symm hi), if_neg hi, if_neg hi]
    simp only [stored, toNat_next hsize, overlay_whole List.length_replicate.symm, hwritten,
      List.length_replicate]

end Heap

/-! ## What was done -/

namespace RecordedHeap

variable {limit : Option UInt64} {s : RecordedHeap}

/-- The heap holds what was done to it. -/
structure Follows (limit : Option UInt64) (s : RecordedHeap) : Prop where
  limited : s.heap.limit = limit
  objects : s.heap.objects.toList.map (fun o => (o.tag, o.size)) = s.created
  holds {handle : Handle} {object : HeapObject} (h : s.heap.objects[handle.toNat]? = some object) :
    object.payload = s.contents handle object.size
  /-- Nothing was written to objects that are yet to be created. -/
  fresh {handle : Handle} (h : s.heap.objects.size ≤ handle.toNat) :
    HeapDeed.writes handle s.deeds = []
  counted : s.heap.allocated = .ofNat s.granted
  within {most : UInt64} (h : limit = some most) : s.granted ≤ most.toNat

namespace Follows

/-- There are as many objects as were created. -/
theorem count (h : Follows limit s) : s.heap.objects.size = s.created.length := by
  rw [← h.objects, List.length_map, Array.length_toList]

/-- An empty heap follows an empty history. -/
theorem empty (limit : Option UInt64) : Follows limit (empty limit) where
  limited := rfl
  objects := rfl
  holds h := by simp [RecordedHeap.empty] at h
  fresh _ := rfl
  counted := rfl
  within _ := Nat.zero_le _

/-- A handle finds the object that was created in its place. -/
theorem object_cases (h : Follows limit s) (handle : Handle) :
    (∃ object, s.heap.objects[handle.toNat]? = some object ∧
      s.heap.object handle = .ok object ∧
      s.created[handle.toNat]? = some (object.tag, object.size)) ∨
    (s.heap.object handle = .error (.invalidHandle handle) ∧ s.created[handle.toNat]? = none) := by
  have hcreated : s.created[handle.toNat]? =
      (s.heap.objects[handle.toNat]?).map fun o => (o.tag, o.size) := by
    rw [← h.objects, List.getElem?_map, Array.getElem?_toList]
  cases hobject : s.heap.objects[handle.toNat]? with
  | none => exact .inr ⟨by rw [Heap.object, hobject], by rw [hcreated, hobject]; rfl⟩
  | some object =>
    exact .inl ⟨object, rfl, by rw [Heap.object, hobject], by rw [hcreated, hobject]; rfl⟩

/-- More bytes are counted in the word that counts those that were granted. -/
theorem counted_add (h : Follows limit s) (size : Nat) :
    UInt64.ofNat (s.heap.allocated.toNat + size) = .ofNat (s.granted + size) := by
  rw [h.counted, UInt64.ofNat_add, UInt64.ofNat_toNat, ← UInt64.ofNat_add]

/-- Bytes are granted if the limit leaves room for them, and counted. -/
theorem reserve (h : Follows limit s) (size : Nat) :
    (∃ most, limit = some most ∧ most.toNat < s.granted + size ∧
      s.heap.reserve size = .error (.exhausted size (most.toNat - s.granted))) ∨
    (HasRoom limit s size ∧ s.heap.reserve size = .ok (s.heap.counting size)) := by
  have hlimit := h.limited
  cases limit with
  | none =>
    refine .inr ⟨nofun, ?_⟩
    simp only [Heap.reserve, hlimit, Heap.counting]
  | some most =>
    have hmost := most.toNat_lt
    have hwithin := h.within rfl
    have hcounted : s.heap.allocated.toNat = s.granted := by
      rw [h.counted, UInt64.toNat_ofNat_of_lt' (Nat.lt_of_le_of_lt hwithin hmost)]
    have hword : twoPow 64 = 2 ^ 64 := rfl
    by_cases hroom : s.granted + size ≤ most.toNat
    · refine .inr ⟨fun most' hmost' => ?_, ?_⟩
      · cases hmost'
        exact hroom
      · have hlt : s.granted + size < twoPow 64 := by omega
        simp [Heap.reserve, hlimit, hcounted, hlt, hroom, Heap.counting]
    · refine .inl ⟨most, rfl, by omega, ?_⟩
      simp [Heap.reserve, hlimit, hcounted, hroom]

/-- Creating an object is refused if the limit leaves no room for it, and stops the program if no
allocation may have so many bytes. -/
theorem allocate (h : Follows limit s) (size : UInt64) (tag : Tag) :
    (∃ most, limit = some most ∧ most.toNat < s.granted + size.toNat ∧
      Heap.allocate size tag s.heap =
        .failed (.exhausted size.toNat (most.toNat - s.granted)) s.heap) ∨
    (HasRoom limit s size.toNat ∧ 2 ^ 63 ≤ size.toNat ∧
      Heap.allocate size tag s.heap = .fatal (.panic .capacity) (s.heap.counting size.toNat)) ∨
    (HasRoom limit s size.toNat ∧ size.toNat < 2 ^ 63 ∧
      Heap.allocate size tag s.heap =
        .done s.heap.next (s.heap.stored tag (List.replicate size.toNat 0))) := by
  rcases h.reserve size.toNat with ⟨most, hlimit, hlt, hrefused⟩ | ⟨hroom, hgranted⟩
  · exact .inl ⟨most, hlimit, hlt, Heap.allocate_of_refused hrefused⟩
  · rcases Nat.lt_or_ge size.toNat (2 ^ 63) with hsmall | hlarge
    · exact .inr (.inr ⟨hroom, hsmall, Heap.allocate_of_granted tag hgranted hsmall⟩)
    · exact .inr (.inl ⟨hroom, hlarge, Heap.allocate_of_large hgranted hlarge⟩)

/-- An object that was created holds zeros, and nothing was written to it. -/
theorem create (h : Follows limit s) {size : Nat} (tag : Tag) (hroom : HasRoom limit s size) :
    Follows limit
      { heap := s.heap.stored tag (List.replicate size 0)
        deeds := .created tag size :: s.deeds } := by
  have hgranted : granted ⟨s.heap, .created tag size :: s.deeds⟩ = s.granted + size := by
    simp only [granted, total, created, wasted, HeapDeed.objects, HeapDeed.wasted, List.map_append,
      List.map_cons, List.map_nil, List.sum_append, List.sum_singleton]
    omega
  refine ⟨h.limited, ?_, fun {handle object} hobject => ?_, fun {handle} hnew => ?_, ?_,
    fun {most} hmost => ?_⟩
  · simpa [Heap.stored, created, HeapDeed.objects, HeapObject.size] using h.objects
  · rw [Heap.stored, Array.getElem?_push] at hobject
    split at hobject
    · obtain rfl := Option.some.inj hobject
      have hwrites : HeapDeed.writes handle s.deeds = [] := h.fresh (by omega)
      simp [contents, HeapDeed.writes, hwrites, HeapDeed.byteAt, HeapObject.size, List.map_const']
    · exact h.holds hobject
  · rw [Heap.stored, Array.size_push] at hnew
    exact h.fresh (by omega)
  · rw [Heap.stored, List.length_replicate, h.counted_add]
    exact congrArg UInt64.ofNat hgranted.symm
  · exact hgranted ▸ hroom most hmost

/-- Bytes may have been counted for no object. -/
theorem lose (h : Follows limit s) {size : Nat} (hroom : HasRoom limit s size) :
    Follows limit { heap := s.heap.counting size, deeds := .lost size :: s.deeds } := by
  have hgranted : granted ⟨s.heap, .lost size :: s.deeds⟩ = s.granted + size := by
    simp only [granted, total, created, wasted, HeapDeed.objects, HeapDeed.wasted]
    omega
  have hcounted := (h.counted_add size).trans (congrArg UInt64.ofNat hgranted.symm)
  exact ⟨h.limited, h.objects, h.holds, h.fresh, hcounted,
    fun hmost => hgranted ▸ hroom _ hmost⟩

/-- What was written to an object is the latest write to that object, and to no other. -/
theorem write (h : Follows limit s) {handle : Handle} {offset : Nat} {bytes : List UInt8}
    {object : HeapObject} (hobject : s.heap.objects[handle.toNat]? = some object)
    (hfits : offset + bytes.length ≤ object.size) :
    Follows limit
      { heap := { s.heap with
          objects := s.heap.objects.setIfInBounds handle.toNat
            { object with payload := overlay object.payload offset bytes } }
        deeds := .written handle offset bytes :: s.deeds } := by
  obtain ⟨hlt, hget⟩ := Array.getElem?_eq_some_iff.mp hobject
  have hsize : (overlay object.payload offset bytes).length = object.size := length_overlay hfits
  refine ⟨h.limited, ?_, fun {target found} hf => ?_, fun {target} hnew => ?_, h.counted, h.within⟩
  · have hsame : (s.heap.objects.toList.map fun o => (o.tag, o.size)).set handle.toNat
        (object.tag, object.size) = s.heap.objects.toList.map fun o => (o.tag, o.size) := by
      apply List.ext_getElem?
      intro i
      rw [List.getElem?_set]
      split
      · subst i
        simp [hlt, hget]
      · rfl
    change _ = s.created
    rw [← h.objects, ← hsame, ← List.map_set, Array.toList_setIfInBounds]
    simp [HeapObject.size, hsize]
  · rw [Array.getElem?_setIfInBounds] at hf
    by_cases htarget : handle = target
    · subst htarget
      simp only [if_true, hlt, Option.some.injEq] at hf
      subst hf
      have hlaid := overlay_range (fun i => HeapDeed.byteAt i (HeapDeed.writes handle s.deeds)) hfits
      simp only [HeapObject.size, hsize]
      rw [h.holds hobject, contents, hlaid]
      simp [contents, HeapDeed.writes, HeapDeed.byteAt]
    · rw [if_neg fun heq => htarget (UInt64.toNat_inj.mp heq)] at hf
      rw [h.holds hf]
      simp [contents, HeapDeed.writes, htarget]
  · rw [Array.size_setIfInBounds] at hnew
    have hother : handle ≠ target := by
      rintro rfl
      omega
    simp [HeapDeed.writes, hother, h.fresh hnew]

/-- Storing an object creates it and writes all of it, or is refused because of the limit. -/
theorem storing (h : Follows limit s) (hsize : s.heap.objects.size < 2 ^ 64) (tag : Tag)
    {bytes : List UInt8} (hbytes : bytes.length < 2 ^ 63) :
    (∃ error, Heap.storing tag bytes s.heap = .failed error s.heap ∧
      s.heap.store tag bytes = .error error) ∨
    (Heap.storing tag bytes s.heap = .done s.heap.next (s.heap.stored tag bytes) ∧
      s.heap.store tag bytes = .ok (s.heap.next, s.heap.stored tag bytes) ∧
      Follows limit
        { heap := s.heap.stored tag bytes
          deeds := .written s.heap.next 0 bytes :: .created tag bytes.length :: s.deeds }) := by
  have hlength : (UInt64.ofNat bytes.length).toNat = bytes.length :=
    UInt64.toNat_ofNat_of_lt' (show bytes.length < 2 ^ 64 by omega)
  rcases h.reserve bytes.length with ⟨most, _, _, hrefused⟩ | ⟨hroom, hgranted⟩
  · refine .inl ⟨_, ?_, by rw [Heap.store, hrefused]; rfl⟩
    rw [← hlength] at hrefused
    rw [Heap.storing, Op.bind_apply, Heap.allocate_of_refused hrefused, hlength]
  · have hwrite := Heap.write_stored hsize tag bytes
    obtain ⟨object, hobject, hfits, hheap⟩ := Heap.write_eq_ok.mp hwrite
    have hfollows := (h.create tag hroom).write hobject hfits
    rw [← hheap] at hfollows
    refine .inr ⟨?_, by rw [Heap.store, hgranted]; rfl, hfollows⟩
    rw [← hlength] at hgranted hbytes
    have hdone := Heap.allocate_of_granted tag hgranted hbytes
    rw [hlength] at hdone
    simp [Heap.storing, Op.bind_apply, hdone, Heap.writing, Op.transition, hwrite, Except.map]

end Follows

/-- How a request ends: it is done, and the heap follows what was done; or it is refused, and the
heap is as it was; or no allocation may have so many bytes, and they are counted for nothing. -/
def Ends (limit : Option UInt64) (s : RecordedHeap) (demand : Nat)
    (o : Outcome Heap HeapError (List HeapDeed)) : Prop :=
  (∃ deeds heap, o = .done deeds heap ∧ Follows limit { heap, deeds := deeds ++ s.deeds } ∧
      HeapDeed.wasted (deeds ++ s.deeds) = s.wasted) ∨
    (∃ error, o = .failed error s.heap) ∨
    2 ^ 63 ≤ demand ∧ HasRoom limit s demand ∧
      o = .fatal (.panic .capacity) (s.heap.counting demand)

/-- Looking something up does nothing. -/
theorem Ends.looked {α : Type} (h : Follows limit s) (demand : Nat)
    (look : Heap → Except HeapError α) :
    Ends limit s demand ((do let _ ← Op.read look; return []) s.heap) := by
  cases hlook : look s.heap with
  | ok a =>
    left
    exact ⟨[], s.heap, by simp [Op.bind_apply, Op.read, hlook], h, rfl⟩
  | error e =>
    right; left
    exact ⟨e, by simp [Op.bind_apply, Op.read, hlook]⟩

/-- Storing an object creates it with what it holds, or does nothing. -/
theorem Ends.stored (h : Follows limit s) (hsize : s.heap.objects.size < 2 ^ 64) (demand : Nat)
    (tag : Tag) {bytes : List UInt8} (hbytes : bytes.length < 2 ^ 63) :
    Ends limit s demand (HeapRequest.op.stored tag bytes s.heap) := by
  rcases h.storing hsize tag hbytes with ⟨error, hrefused, _⟩ | ⟨hdone, _, hfollows⟩
  · right; left
    exact ⟨error, by simp [HeapRequest.op.stored, Op.bind_apply, hrefused]⟩
  · left
    refine ⟨[.written s.heap.next 0 bytes, .created tag bytes.length], _, ?_, hfollows, rfl⟩
    simp [HeapRequest.op.stored, Op.bind_apply, hdone]

/-- Every request is done as it was asked for, or does nothing, or stops the program. -/
theorem Ends.op (h : Follows limit s) (hsize : s.heap.objects.size < 2 ^ 64)
    (request : HeapRequest) (hdata : request.data.length < 2 ^ 63) :
    Ends limit s request.demand (request.op s.heap) := by
  cases request with
  | allocate size tag =>
    rcases h.allocate size tag with ⟨most, _, _, hrefused⟩ | ⟨hroom, hlarge, hstopped⟩ |
      ⟨hroom, _, hdone⟩
    · right; left
      refine ⟨.exhausted size.toNat (most.toNat - s.granted), ?_⟩
      simp [HeapRequest.op, Op.bind_apply, hrefused]
    · right; right
      refine ⟨hlarge, hroom, ?_⟩
      simp [HeapRequest.op, Op.bind_apply, hstopped, HeapRequest.demand]
    · left
      refine ⟨[.created tag size.toNat], _, ?_, h.create tag hroom, rfl⟩
      simp [HeapRequest.op, Op.bind_apply, hdone]
  | makeString text => exact Ends.stored h hsize _ _ hdata
  | storeBignum number => exact Ends.stored h hsize _ _ hdata
  | write handle offset bytes =>
    cases hwrite : s.heap.write handle offset bytes with
    | error e =>
      right; left
      refine ⟨e, ?_⟩
      simp [HeapRequest.op, Heap.writing, Op.bind_apply, Op.transition, hwrite, Except.map]
    | ok heap =>
      obtain ⟨object, hobject, hfits, rfl⟩ := Heap.write_eq_ok.mp hwrite
      left
      refine ⟨[.written handle offset bytes], _, ?_, h.write hobject hfits, rfl⟩
      simp [HeapRequest.op, Heap.writing, Op.bind_apply, Op.transition, hwrite, Except.map]
  | read handle => exact Ends.looked h _ _
  | tagOf handle => exact Ends.looked h _ _
  | string handle => exact Ends.looked h _ _

/-- One request after the other, the heap follows what was done. -/
theorem Follows.serve (h : Follows limit s) (hsize : s.heap.objects.size < 2 ^ 64)
    (request : HeapRequest) (hdata : request.data.length < 2 ^ 63) :
    Follows limit (s.serve request) := by
  rcases Ends.op h hsize request hdata with ⟨deeds, heap, hdone, hfollows, _⟩ | ⟨error, hrefused⟩ |
    ⟨_, hroom, hstopped⟩
  · rwa [RecordedHeap.serve, hdone]
  · rwa [RecordedHeap.serve, hrefused]
  · rw [RecordedHeap.serve, hstopped]
    exact h.lose hroom

/-! ## Histories grow -/

/-- However an operation ends, there are not fewer objects than before. -/
def KeepsObjects {α : Type} (x : HeapOp α) : Prop :=
  ∀ heap, heap.objects.size ≤ (x heap).state.objects.size

namespace KeepsObjects

variable {α β : Type}

/-- Neither of two operations removes an object. -/
theorem bind {x : HeapOp α} {f : α → HeapOp β} (hx : KeepsObjects x)
    (hf : ∀ a, KeepsObjects (f a)) : KeepsObjects (x >>= f) := by
  intro heap
  have hkept := hx heap
  rw [Op.bind_apply]
  cases hended : x heap with
  | done a heap' =>
    rw [hended] at hkept
    exact Nat.le_trans hkept (hf a heap')
  | failed e heap' => rwa [hended] at hkept
  | fatal m heap' => rwa [hended] at hkept

/-- Nothing is removed where nothing is changed. -/
theorem pure (a : α) : KeepsObjects (Pure.pure a) := fun _ => Nat.le_refl _

/-- Looking something up removes nothing. -/
theorem read (look : Heap → Except HeapError α) : KeepsObjects (Op.read look) := by
  intro heap
  rw [Op.read]
  cases look heap <;> exact Nat.le_refl _

/-- A step that leaves enough objects where it succeeds removes nothing where it is refused. -/
theorem transition {step : Heap → Except HeapError (α × Heap)}
    (h : ∀ {heap a heap'}, step heap = .ok (a, heap') → heap.objects.size ≤ heap'.objects.size) :
    KeepsObjects (Op.transition step) := by
  intro heap
  rw [Op.transition]
  cases hstep : step heap with
  | ok next => exact h hstep
  | error e => exact Nat.le_refl _

/-- No allocation removes an object. -/
theorem allocate (size : UInt64) (tag : Tag) : KeepsObjects (Heap.allocate size tag) := by
  have hadd (object : HeapObject) : KeepsObjects (Op.change (Heap.push · object)) := fun heap =>
    Nat.le_trans (Nat.le_succ _) (Nat.le_of_eq (Array.size_push object).symm)
  refine bind (transition fun {heap a heap'} h => ?_) fun _ => ?_
  · obtain ⟨counted, hcounted, hnext⟩ := map_eq_ok.mp h
    cases hnext
    rw [Heap.reserve_ok hcounted]
  · dsimp only
    split
    · exact bind (fun _ => Nat.le_refl _) fun _ => hadd _
    · exact hadd _

/-- No write removes an object. -/
theorem writing (handle : Handle) (offset : Nat) (bytes : List UInt8) :
    KeepsObjects (Heap.writing handle offset bytes) := by
  refine transition fun {heap a heap'} h => ?_
  obtain ⟨written, hwritten, hnext⟩ := map_eq_ok.mp h
  cases hnext
  obtain ⟨object, _, _, rfl⟩ := Heap.write_eq_ok.mp hwritten
  exact Nat.le_of_eq Array.size_setIfInBounds.symm

/-- Storing an object removes none. -/
theorem stored (tag : Tag) (bytes : List UInt8) :
    KeepsObjects (HeapRequest.op.stored tag bytes) :=
  bind (bind (allocate _ _) fun _ => bind (writing _ _ _) fun _ => pure _) fun _ => pure _

/-- No request removes an object, even if there are more objects than handles. -/
theorem op (request : HeapRequest) : KeepsObjects request.op := by
  cases request with
  | allocate size tag => exact bind (allocate size tag) fun _ => pure _
  | makeString text => exact stored _ _
  | storeBignum number => exact stored _ _
  | write handle offset bytes => exact bind (writing handle offset bytes) fun _ => pure _
  | read handle => exact bind (read _) fun _ => pure _
  | tagOf handle => exact bind (read _) fun _ => pure _
  | string handle => exact bind (read _) fun _ => pure _

end KeepsObjects

/-- However a request ends, the heap goes on from there. -/
theorem heap_serve (s : RecordedHeap) (request : HeapRequest) :
    (s.serve request).heap = (request.op s.heap).state := by
  rw [serve]
  cases request.op s.heap <;> rfl

/-- No request removes an object. -/
theorem size_serve (s : RecordedHeap) (request : HeapRequest) :
    s.heap.objects.size ≤ (s.serve request).heap.objects.size := by
  rw [heap_serve]
  exact KeepsObjects.op request s.heap

/-- No requests remove an object. -/
theorem size_serveAll (s : RecordedHeap) (requests : List HeapRequest) :
    s.heap.objects.size ≤ (s.serveAll requests).heap.objects.size := by
  induction requests generalizing s with
  | nil => exact Nat.le_refl _
  | cons request rest ih => exact Nat.le_trans (s.size_serve request) (ih (s.serve request))

theorem serveAll_append (s : RecordedHeap) (requests later : List HeapRequest) :
    s.serveAll (requests ++ later) = (s.serveAll requests).serveAll later := by
  induction requests generalizing s with
  | nil => rfl
  | cons request rest ih => exact ih (s.serve request)

/-- Whatever is asked for, the heap follows what was done. -/
theorem Follows.serveAll (h : Follows limit s) (requests : List HeapRequest)
    (hdata : ∀ request ∈ requests, request.data.length < 2 ^ 63)
    (hsize : (s.serveAll requests).heap.objects.size < 2 ^ 64) :
    Follows limit (s.serveAll requests) := by
  induction requests generalizing s with
  | nil => exact h
  | cons request rest ih =>
    obtain ⟨hfirst, hrest⟩ := List.forall_mem_cons.mp hdata
    have hbefore := Nat.lt_of_le_of_lt (s.size_serveAll (request :: rest)) hsize
    exact ih (h.serve hbefore request hfirst) hrest hsize

/-- What was created stays the beginning of what is created. -/
theorem created_serve (s : RecordedHeap) (request : HeapRequest) :
    s.created <+: (s.serve request).created := by
  have hobjects (deeds earlier : List HeapDeed) :
      HeapDeed.objects earlier <+: HeapDeed.objects (deeds ++ earlier) := by
    induction deeds with
    | nil => exact List.prefix_rfl
    | cons deed rest ih =>
      cases deed with
      | created tag size => exact ih.trans (List.prefix_append _ _)
      | written handle offset bytes => exact ih
      | lost size => exact ih
  unfold serve
  cases request.op s.heap with
  | done deeds heap => exact hobjects deeds s.deeds
  | failed error heap => exact List.prefix_rfl
  | fatal message heap => exact hobjects [_] s.deeds

/-- The objects that were created stay what they were created as. -/
theorem created_serveAll (s : RecordedHeap) (requests : List HeapRequest) :
    s.created <+: (s.serveAll requests).created := by
  induction requests generalizing s with
  | nil => exact List.prefix_rfl
  | cons request rest ih => exact (s.created_serve request).trans (ih (s.serve request))

/-! ## Answers -/

namespace Follows

/-- An object is refused exactly if the limit would be exceeded. -/
theorem allocate_refused_iff (h : Follows limit s) (size : UInt64) (tag : Tag) :
    (∃ error heap, Heap.allocate size tag s.heap = .failed error heap) ↔
      ∃ most, limit = some most ∧ most.toNat < s.granted + size.toNat := by
  rcases h.allocate size tag with ⟨most, hlimit, hlt, hrefused⟩ | ⟨hroom, _, hended⟩ |
    ⟨hroom, _, hended⟩
  · exact ⟨fun _ => ⟨most, hlimit, hlt⟩, fun _ => ⟨_, _, hrefused⟩⟩
  all_goals
    constructor
    · rintro ⟨error, heap, hrefused⟩
      simp [hended] at hrefused
    · rintro ⟨most, hlimit, hlt⟩
      have := hroom most hlimit
      omega

/-- The program stops exactly if there is room for an object that no allocation may hold. -/
theorem allocate_fatal_iff (h : Follows limit s) (size : UInt64) (tag : Tag) :
    (Heap.allocate size tag s.heap).isFatal = true ↔
      HasRoom limit s size.toNat ∧ 2 ^ 63 ≤ size.toNat := by
  rcases h.allocate size tag with ⟨most, hlimit, hlt, hended⟩ | ⟨hroom, hlarge, hended⟩ |
    ⟨_, hsmall, hended⟩
  · simp only [hended, Outcome.isFatal, Bool.false_eq_true, false_iff, not_and]
    intro hroom
    have := hroom most hlimit
    omega
  · exact ⟨fun _ => ⟨hroom, hlarge⟩, fun _ => by rw [hended, Outcome.isFatal]⟩
  · simp only [hended, Outcome.isFatal, Bool.false_eq_true, false_iff, not_and, Nat.not_le]
    exact fun _ => hsmall

/-- The next object gets the next handle. -/
theorem toNat_allocated (h : Follows limit s) (hsize : s.heap.objects.size < 2 ^ 64)
    {size : UInt64} {tag : Tag} {handle : Handle} {heap : Heap}
    (hallocate : Heap.allocate size tag s.heap = .done handle heap) :
    handle.toNat = s.created.length := by
  rcases h.allocate size tag with ⟨_, _, _, hended⟩ | ⟨_, _, hended⟩ | ⟨_, _, hdone⟩
  · simp [hended] at hallocate
  · simp [hended] at hallocate
  · obtain ⟨rfl, rfl⟩ := Outcome.done.inj (hdone.symm.trans hallocate)
    rw [Heap.toNat_next hsize, h.count]

/-- An object is stored in two steps as it would be in one. -/
theorem storing_eq (h : Follows limit s) (hsize : s.heap.objects.size < 2 ^ 64) (tag : Tag)
    {bytes : List UInt8} (hbytes : bytes.length < 2 ^ 63) :
    Heap.storing tag bytes s.heap = Op.transition (·.store tag bytes) s.heap := by
  rcases h.storing hsize tag hbytes with ⟨error, hrefused, hstore⟩ | ⟨hdone, hstore, _⟩
  · simp [hrefused, Op.transition, hstore]
  · simp [hdone, Op.transition, hstore]

/-- An object that is stored gets the next handle. -/
theorem toNat_stored (h : Follows limit s) (hsize : s.heap.objects.size < 2 ^ 64) {tag : Tag}
    {bytes : List UInt8} (hbytes : bytes.length < 2 ^ 63) {handle : Handle} {heap : Heap}
    (hstore : s.heap.store tag bytes = .ok (handle, heap)) : handle.toNat = s.created.length := by
  rcases h.storing hsize tag hbytes with ⟨error, _, hrefused⟩ | ⟨_, hdone, _⟩
  · simp [hrefused] at hstore
  · obtain ⟨rfl, rfl⟩ := Prod.mk.inj (Except.ok.inj (hdone.symm.trans hstore))
    rw [Heap.toNat_next hsize, h.count]

/-- What is known of an object that was created. -/
theorem object (h : Follows limit s) {handle : Handle} {tag : Tag} {size : Nat}
    (hcreated : s.created[handle.toNat]? = some (tag, size)) :
    s.heap.tagOf handle = .ok tag ∧ s.heap.read handle = .ok (s.contents handle size) ∧
      ∀ offset bytes, (∃ heap, s.heap.write handle offset bytes = .ok heap) ↔
        offset + bytes.length ≤ size := by
  rcases h.object_cases handle with ⟨object, hget, hobject, hsome⟩ | ⟨_, hnone⟩
  · obtain ⟨rfl, rfl⟩ := Prod.mk.inj (Option.some.inj (hsome.symm.trans hcreated))
    refine ⟨?_, ?_, fun offset bytes => ?_⟩
    · simp [Heap.tagOf, hobject, Except.map]
    · simp [Heap.read, hobject, Except.map, h.holds hget]
    · simp [Heap.write_eq_ok, hget]
  · simp [hnone] at hcreated

/-- A handle that was not given out is refused. -/
theorem stranger (h : Follows limit s) {handle : Handle} (hnone : s.created[handle.toNat]? = none) :
    s.heap.tagOf handle = .error (.invalidHandle handle) ∧
      s.heap.read handle = .error (.invalidHandle handle) ∧
      s.heap.string handle = .error (.invalidHandle handle) ∧
      ∀ offset bytes, s.heap.write handle offset bytes = .error (.invalidHandle handle) := by
  rcases h.object_cases handle with ⟨object, _, _, hsome⟩ | ⟨hobject, _⟩
  · simp [hsome] at hnone
  · simp [Heap.tagOf, Heap.read, Heap.string, Heap.readAs, Heap.write, hobject, Except.map, bind,
      Except.bind]

/-- Nothing is wasted unless an object is asked for that no allocation may hold. -/
theorem wasted_serveAll (h : Follows limit s) (requests : List HeapRequest)
    (hdata : ∀ request ∈ requests, request.data.length < 2 ^ 63)
    (hdemand : ∀ request ∈ requests, request.demand < 2 ^ 63)
    (hsize : (s.serveAll requests).heap.objects.size < 2 ^ 64) :
    (s.serveAll requests).wasted = s.wasted := by
  induction requests generalizing s with
  | nil => rfl
  | cons request rest ih =>
    obtain ⟨hfirst, hrest⟩ := List.forall_mem_cons.mp hdata
    obtain ⟨hsmall, hsmaller⟩ := List.forall_mem_cons.mp hdemand
    have hbefore := Nat.lt_of_le_of_lt (s.size_serveAll (request :: rest)) hsize
    refine (ih (h.serve hbefore request hfirst) hrest hsmaller hsize).trans ?_
    rcases Ends.op h hbefore request hfirst with ⟨_, _, hdone, _, hsame⟩ | ⟨_, hrefused⟩ |
      ⟨hlarge, _⟩
    · rwa [RecordedHeap.serve, hdone]
    · rw [RecordedHeap.serve, hrefused]
    · omega

end Follows

/-- A write leaves all other objects. -/
theorem write_apart {heap heap' : Heap} {handle other : Handle} {offset : Nat}
    {bytes : List UInt8} (h : heap.write handle offset bytes = .ok heap')
    (hother : handle ≠ other) : heap'.object other = heap.object other := by
  obtain ⟨object, _, _, rfl⟩ := Heap.write_eq_ok.mp h
  have hne : handle.toNat ≠ other.toNat := fun heq => hother (UInt64.toNat_inj.mp heq)
  simp [Heap.object, Array.getElem?_setIfInBounds_ne hne]

/-! ## What a heap tells -/

/-- What a heap with a limit answers is decided by what was done to it. -/
structure Tells (limit : Option UInt64) (s : RecordedHeap) : Prop where
  count : s.heap.objects.size = s.created.length
  /-- The counter is a word. It counts the bytes of all objects, and those of none. -/
  bytes : s.heap.allocated = .ofNat (s.total + s.wasted)
  within {most : UInt64} (h : limit = some most) : s.total + s.wasted ≤ most.toNat
  /-- An object is refused exactly if the limit would be exceeded. -/
  refuses (size : UInt64) (tag : Tag) :
    (∃ error heap, Heap.allocate size tag s.heap = .failed error heap) ↔
      ∃ most, limit = some most ∧ most.toNat < s.total + s.wasted + size.toNat
  /-- The program stops exactly if there is room for an object that no allocation may hold. -/
  stops (size : UInt64) (tag : Tag) :
    (Heap.allocate size tag s.heap).isFatal = true ↔ HasRoom limit s size.toNat ∧ 2 ^ 63 ≤ size.toNat
  /-- Objects are named in the order in which they are created. -/
  names {size : UInt64} {tag : Tag} {handle : Handle} {heap : Heap}
    (h : Heap.allocate size tag s.heap = .done handle heap) : handle.toNat = s.created.length
  /-- Two steps or one, an object is stored as a whole or not at all. -/
  stores (tag : Tag) {bytes : List UInt8} (h : bytes.length < 2 ^ 63) :
    Heap.storing tag bytes s.heap = Op.transition (·.store tag bytes) s.heap
  /-- A stored object is named like any other. -/
  storesNext {tag : Tag} {bytes : List UInt8} (hbytes : bytes.length < 2 ^ 63) {handle : Handle}
    {heap : Heap} (h : s.heap.store tag bytes = .ok (handle, heap)) :
    handle.toNat = s.created.length
  /-- An object has the tag and the size that it was created with, and holds what was written. -/
  object {handle : Handle} {tag : Tag} {size : Nat}
    (h : s.created[handle.toNat]? = some (tag, size)) :
    s.heap.tagOf handle = .ok tag ∧ s.heap.read handle = .ok (s.contents handle size) ∧
      ∀ offset bytes, (∃ heap, s.heap.write handle offset bytes = .ok heap) ↔
        offset + bytes.length ≤ size
  /-- A handle that was not given out is refused. -/
  stranger {handle : Handle} (h : s.created[handle.toNat]? = none) :
    s.heap.tagOf handle = .error (.invalidHandle handle) ∧
      s.heap.read handle = .error (.invalidHandle handle) ∧
      s.heap.string handle = .error (.invalidHandle handle) ∧
      ∀ offset bytes, s.heap.write handle offset bytes = .error (.invalidHandle handle)
  /-- What is written to one object is not seen in another. -/
  apart {handle other : Handle} {offset : Nat} {bytes : List UInt8} {heap : Heap}
    (h : s.heap.write handle offset bytes = .ok heap) (hother : handle ≠ other) :
    heap.tagOf other = s.heap.tagOf other ∧ heap.read other = s.heap.read other
  /-- What is refused has changed nothing, and what stops the program has only counted. -/
  undone (request : HeapRequest) (h : request.data.length < 2 ^ 63) :
    (∃ deeds heap, request.op s.heap = .done deeds heap) ∨
      (∃ error, request.op s.heap = .failed error s.heap) ∨
      2 ^ 63 ≤ request.demand ∧
        request.op s.heap = .fatal (.panic .capacity) (s.heap.counting request.demand)

/-- A heap that follows its history tells it. -/
theorem Follows.tells (h : Follows limit s) (hsize : s.heap.objects.size < 2 ^ 64) :
    Tells limit s where
  count := h.count
  bytes := h.counted
  within := h.within
  refuses := h.allocate_refused_iff
  stops := h.allocate_fatal_iff
  names := h.toNat_allocated hsize
  stores tag _ := h.storing_eq hsize tag
  storesNext := h.toNat_stored hsize
  object := h.object
  stranger := h.stranger
  apart hwrite hother := by simp [Heap.tagOf, Heap.read, write_apart hwrite hother]
  undone request hdata := by
    rcases Ends.op h hsize request hdata with ⟨deeds, heap, hdone, _⟩ | hrefused |
      ⟨hlarge, _, hstopped⟩
    · exact .inl ⟨deeds, heap, hdone⟩
    · exact .inr (.inl hrefused)
    · exact .inr (.inr ⟨hlarge, hstopped⟩)

/-- At every moment of its use, whatever it was asked for, a heap tells what was done to it; and its
objects stay what they were created as. All bytes that were counted are those of its objects, unless
an object was asked for that no allocation may hold. -/
theorem heap_tells_its_history (limit : Option UInt64) (requests later : List HeapRequest)
    (hdata : ∀ request ∈ requests ++ later, request.data.length < 2 ^ 63)
    (hsize : ((empty limit).serveAll (requests ++ later)).heap.objects.size < 2 ^ 64) :
    Tells limit ((empty limit).serveAll requests) ∧
      ((empty limit).serveAll requests).created <+:
        ((empty limit).serveAll (requests ++ later)).created ∧
      ((∀ request ∈ requests, request.demand < 2 ^ 63) →
        ((empty limit).serveAll requests).wasted = 0) := by
  have hserved (request : HeapRequest) (hmem : request ∈ requests) :
      request.data.length < 2 ^ 63 := hdata request (List.mem_append_left _ hmem)
  rw [serveAll_append] at hsize ⊢
  have hbefore := Nat.lt_of_le_of_lt (size_serveAll _ later) hsize
  have hfollows := (Follows.empty limit).serveAll requests hserved hbefore
  exact ⟨hfollows.tells hbefore, created_serveAll _ later, fun hdemand =>
    (Follows.empty limit).wasted_serveAll requests hserved hdemand hbefore⟩

/-- An object of four bytes is written to, one that is too large for the limit is refused, and a
number is stored behind the first object; the bytes of the first one are still there. -/
theorem heap_tells_its_history_limited :
    let requests : List HeapRequest :=
      [.allocate 4 .bytes, .write 0 1 [7, 8, 9], .allocate 100 .bytes, .write 0 2 [5]]
    let later : List HeapRequest := [.write 1 0 [1], .storeBignum ⟨true, [3]⟩]
    let s := (empty (some 20)).serveAll requests
    (s.heap.read 0 = .ok [0, 7, 5, 9] ∧ s.heap.objects.size = 1) ∧ Tells (some 20) s ∧
      s.created <+: ((empty (some 20)).serveAll (requests ++ later)).created ∧ s.wasted = 0 := by
  intro requests later s
  obtain ⟨htells, hcreated, hwasted⟩ :=
    heap_tells_its_history (some 20) requests later (by decide) (by decide)
  exact ⟨by decide, htells, hcreated, hwasted (by decide)⟩

/-- There is room for an object of half the bytes that a word can count. It is not created, but its
bytes are counted from then on. -/
theorem large_object_not_created :
    let request : HeapRequest := .allocate 9223372036854775808 .bytes
    let s := empty (some 18446744073709551615)
    HasRoom (some 18446744073709551615) s request.demand ∧
      (∀ handle heap, Heap.allocate 9223372036854775808 .bytes s.heap ≠ .done handle heap) ∧
      (s.serve request).heap.allocated = 9223372036854775808 ∧ (s.serve request).created = [] := by
  refine ⟨?_, fun handle heap h => ?_, rfl, rfl⟩
  · rintro most ⟨⟩
    decide
  · have hfatal : (Heap.allocate 9223372036854775808 .bytes
        (empty (some 18446744073709551615)).heap).isFatal = true := rfl
    rw [h] at hfatal
    cases hfatal

end RecordedHeap

end CallEngine
