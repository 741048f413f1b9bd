import CallEngine.Path
import Mathlib.Data.List.Infix

/-!
# The parts of a path

A path is its parts, put together again. The parts that name something are its names, in order. A
path above another one is a first piece of its text, and its names are a first piece of the names;
and there is one for every first piece of the names. So the paths above are met from the longest to
the shortest, and each one in its turn is followed by those above it.
-/

namespace CallEngine.Path

variable {path part : String} {parts : List String} {absolute : Bool}

/-- A part of a path that names something. -/
def isName (part : String) : Bool := part != "" && part != "."

/-- The names in a path, in order. -/
def names (path : String) : List String := (segments path).filter isName

/-! ## Taking apart and putting together -/

/-- No piece holds what was split at. -/
theorem notMem_of_mem_splitOn {α : Type} [DecidableEq α] {separator : α} {text piece : List α}
    (h : piece ∈ text.splitOn separator) : separator ∉ piece := by
  induction text generalizing piece with
  | nil =>
    rw [List.splitOn_nil, List.mem_singleton] at h
    simp [h]
  | cons first rest ih =>
    rw [List.splitOn_cons_eq_if_modifyHead] at h
    split at h
    · rcases List.mem_cons.mp h with rfl | hrest
      · simp
      · exact ih hrest
    · rename_i hfirst
      obtain ⟨head, tail, hsplit⟩ := List.exists_cons_of_ne_nil (List.splitOn_ne_nil separator rest)
      rw [hsplit, List.modifyHead_cons] at h
      rcases List.mem_cons.mp h with rfl | htail
      · have hhead := ih (hsplit ▸ List.mem_cons_self)
        rw [List.mem_cons, not_or]
        exact ⟨fun hsame => hfirst (beq_iff_eq.mpr hsame.symm), hhead⟩
      · exact ih (hsplit ▸ List.mem_cons_of_mem _ htail)

/-- A path has at least one part. -/
theorem segments_ne_nil (path : String) : segments path ≠ [] := by
  simp [segments, List.splitOn_ne_nil]

/-- No part holds a separator. -/
theorem slash_notMem_of_mem_segments (h : part ∈ segments path) : '/' ∉ part.toList := by
  obtain ⟨piece, hpiece, rfl⟩ := List.mem_map.mp h
  rw [String.toList_ofList]
  exact notMem_of_mem_splitOn hpiece

/-- A path is its parts, put together. -/
theorem intercalate_segments (path : String) : String.intercalate "/" (segments path) = path := by
  apply String.toList_inj.mp
  have hparts : (segments path).map String.toList = path.toList.splitOn '/' := by
    simp [segments, Function.comp_def]
  rw [String.toList_intercalate, hparts]
  exact List.intercalate_splitOn '/'

/-- Parts that are put together are taken apart again. -/
theorem segments_intercalate (hne : parts ≠ []) (h : ∀ part ∈ parts, '/' ∉ part.toList) :
    segments (String.intercalate "/" parts) = parts := by
  have hsplit : (['/'].intercalate (parts.map String.toList)).splitOn '/' =
      parts.map String.toList := by
    apply List.splitOn_intercalate
    · simpa using h
    · simpa using hne
  rw [segments, String.toList_intercalate]
  change ((['/'].intercalate (parts.map String.toList)).splitOn '/').map String.ofList = parts
  rw [hsplit]
  simp [Function.comp_def]

/-- The parts of two paths with a separator between them. -/
theorem segments_append (path path' : String) :
    segments (path ++ "/" ++ path') = segments path ++ segments path' := by
  have htext : (path ++ "/" ++ path').toList = path.toList ++ '/' :: path'.toList := by simp
  rw [segments, htext, List.splitOn_append_cons_self, List.map_append]
  rfl

/-- A separator at the end adds an empty part. -/
theorem segments_append_slash (path : String) : segments (path ++ "/") = segments path ++ [""] := by
  have hparts := segments_append path ""
  rw [String.append_empty] at hparts
  exact hparts

/-- A separator at the end adds no name. -/
theorem names_append_slash (path : String) : names (path ++ "/") = names path := by
  rw [names, segments_append_slash, List.filter_append]
  exact List.append_nil _

/-- An absolute path starts with a separator. -/
theorem isAbsolute_iff : isAbsolute path = true ↔ ∃ rest, path = "/" ++ rest := by
  rw [isAbsolute, beq_iff_eq]
  constructor
  · intro h
    obtain ⟨rest, hrest⟩ := List.head?_eq_some_iff.mp h
    refine ⟨String.ofList rest, String.toList_inj.mp ?_⟩
    simp [hrest]
  · rintro ⟨rest, rfl⟩
    simp

/-- What is appended to a path makes no difference to where it starts. -/
theorem isAbsolute_append (hne : path ≠ "") (rest : String) :
    isAbsolute (path ++ rest) = isAbsolute path := by
  have hchars : path.toList ≠ [] := mt String.toList_eq_nil_iff.mp hne
  obtain ⟨first, later, hpath⟩ := List.exists_cons_of_ne_nil hchars
  simp [isAbsolute, hpath]

/-- The parts of an absolute path are those behind the root. -/
theorem segments_root (rest : String) : segments ("/" ++ rest) = "" :: segments rest := by
  have hempty : segments "" = [""] := by decide
  have happend := segments_append "" rest
  rw [hempty, String.empty_append] at happend
  exact happend

/-- The parts behind the root of an absolute path. -/
theorem reversedParts_root (rest : String) :
    reversedParts ("/" ++ rest) = (segments rest).reverse := by
  have habsolute : isAbsolute ("/" ++ rest) = true := isAbsolute_iff.mpr ⟨rest, rfl⟩
  rw [reversedParts, habsolute, segments_root]
  rfl

/-- All parts of a relative path are meant. -/
theorem reversedParts_relative (h : isAbsolute path = false) :
    reversedParts path = (segments path).reverse := by
  rw [reversedParts, h]
  rfl

/-- No part behind the root holds a separator. -/
theorem slash_notMem_of_mem_reversedParts (h : part ∈ reversedParts path) : '/' ∉ part.toList := by
  cases habsolute : isAbsolute path with
  | true =>
    obtain ⟨rest, rfl⟩ := isAbsolute_iff.mp habsolute
    rw [reversedParts_root, List.mem_reverse] at h
    exact slash_notMem_of_mem_segments h
  | false =>
    rw [reversedParts_relative habsolute, List.mem_reverse] at h
    exact slash_notMem_of_mem_segments h

/-- A path is what its parts behind the root make. -/
theorem ofReversed_reversedParts (path : String) :
    ofReversed (isAbsolute path) (reversedParts path) = path := by
  cases habsolute : isAbsolute path with
  | true =>
    obtain ⟨rest, rfl⟩ := isAbsolute_iff.mp habsolute
    rw [reversedParts_root, ofReversed, List.reverse_reverse, intercalate_segments]
    rfl
  | false =>
    rw [reversedParts_relative habsolute, ofReversed, List.reverse_reverse, intercalate_segments]
    exact String.empty_append

/-- The names in a path that is put together. -/
theorem names_ofReversed (absolute : Bool) (h : ∀ part ∈ parts, '/' ∉ part.toList) :
    names (ofReversed absolute parts) = (parts.filter isName).reverse := by
  have hnames : names (String.intercalate "/" parts.reverse) = (parts.filter isName).reverse := by
    by_cases hnil : parts = []
    · subst hnil
      decide
    · rw [names, segments_intercalate (by simpa using hnil) (by simpa using h), List.filter_reverse]
  cases absolute with
  | true =>
    rw [ofReversed, if_pos rfl, names, segments_root, List.filter_cons_of_neg (by decide)]
    exact hnames
  | false =>
    rw [ofReversed, if_neg Bool.false_ne_true, String.empty_append]
    exact hnames

/-- The names in a path are among its parts behind the root. -/
theorem names_eq (path : String) : names path = ((reversedParts path).filter isName).reverse := by
  have hslash : ∀ part ∈ reversedParts path, '/' ∉ part.toList := fun _ =>
    slash_notMem_of_mem_reversedParts
  have hnames := names_ofReversed (isAbsolute path) hslash
  rwa [ofReversed_reversedParts] at hnames

/-! ## Paths above -/

/-- What has no meaning names nothing. -/
theorem isName_of_isIdle {before : List String} (h : isIdle absolute part before = true) :
    isName part = false := by
  rw [isIdle, Bool.or_eq_true, Bool.and_eq_true, beq_iff_eq, beq_iff_eq] at h
  rcases h with rfl | ⟨rfl, _⟩
  · rfl
  · rfl

/-- Trimming only takes parts away at the end. -/
theorem trimEnd_suffix (absolute : Bool) (parts : List String) :
    trimEnd absolute parts <:+ parts := by
  induction parts with
  | nil => exact List.suffix_rfl
  | cons part before ih =>
    rw [trimEnd]
    split
    · exact ih.trans (List.suffix_cons part before)
    · exact List.suffix_rfl

/-- Trimming takes no names away. -/
theorem filter_trimEnd (absolute : Bool) (parts : List String) :
    (trimEnd absolute parts).filter isName = parts.filter isName := by
  induction parts with
  | nil => rfl
  | cons part before ih =>
    rw [trimEnd]
    split
    · rename_i hidle
      rw [ih, List.filter_cons_of_neg (by simp [isName_of_isIdle hidle])]
    · rfl

/-- The same is above what was trimmed. -/
theorem above_trimEnd (absolute : Bool) (parts : List String) :
    above absolute (trimEnd absolute parts) = above absolute parts := by
  induction parts with
  | nil => rfl
  | cons part before ih =>
    rw [trimEnd]
    split
    · rename_i hidle
      rw [ih, above, if_pos hidle]
    · rfl

/-- The names in a path that was trimmed. -/
theorem names_trimEnd (absolute : Bool) (h : ∀ part ∈ parts, '/' ∉ part.toList) :
    names (ofReversed absolute (trimEnd absolute parts)) = (parts.filter isName).reverse := by
  have htrimmed : ∀ part ∈ trimEnd absolute parts, '/' ∉ part.toList := fun part hpart =>
    h part ((trimEnd_suffix absolute parts).mem hpart)
  rw [names_ofReversed absolute htrimmed, filter_trimEnd]

/-- Above the parts of a path there is a path for every first piece of its names. -/
theorem exists_above_iff (absolute : Bool) (h : ∀ part ∈ parts, '/' ∉ part.toList)
    (ns : List String) :
    (parts.filter isName).reverse = ns ∨ (∃ up ∈ above absolute parts, names up = ns) ↔
      ns <+: (parts.filter isName).reverse := by
  induction parts with
  | nil => simp [above]
  | cons part before ih =>
    have hbefore : ∀ part ∈ before, '/' ∉ part.toList := fun part hpart =>
      h part (List.mem_cons_of_mem _ hpart)
    rw [above]
    split
    · rename_i hidle
      rw [List.filter_cons_of_neg (by simp [isName_of_isIdle hidle])]
      exact ih hbefore
    · rw [List.exists_mem_cons_iff, names_trimEnd absolute hbefore]
      cases hname : isName part with
      | false =>
        rw [List.filter_cons_of_neg (by simp [hname]), ← or_assoc, or_self]
        exact ih hbefore
      | true =>
        rw [List.filter_cons_of_pos hname, List.reverse_cons, List.prefix_concat_iff, ih hbefore]
        exact or_congr eq_comm Iff.rfl

/-- The names above are first pieces of the names. -/
theorem names_above (h : ∀ part ∈ parts, '/' ∉ part.toList) {up : String}
    (hup : up ∈ above absolute parts) : names up <+: (parts.filter isName).reverse :=
  (exists_above_iff absolute h _).mp (.inr ⟨up, hup, rfl⟩)

/-- Paths above have fewer and fewer names. -/
theorem pairwise_above (absolute : Bool) (h : ∀ part ∈ parts, '/' ∉ part.toList) :
    (above absolute parts).Pairwise fun inner outer => names outer <+: names inner := by
  induction parts with
  | nil => exact .nil
  | cons part before ih =>
    have hbefore : ∀ part ∈ before, '/' ∉ part.toList := fun part hpart =>
      h part (List.mem_cons_of_mem _ hpart)
    rw [above]
    split
    · exact ih hbefore
    · refine .cons (fun outer houter => ?_) (ih hbefore)
      rw [names_trimEnd absolute hbefore]
      exact names_above hbefore houter

/-- A path and the paths above it are there for every first piece of its names. -/
theorem exists_parents_iff (path : String) (ns : List String) :
    (∃ d ∈ path :: parents path, names d = ns) ↔ ns <+: names path := by
  rw [List.exists_mem_cons_iff, names_eq, parents,
    exists_above_iff _ (fun _ => slash_notMem_of_mem_reversedParts) ns]

/-- From a path on upwards there are fewer and fewer names. -/
theorem pairwise_parents (path : String) :
    (path :: parents path).Pairwise fun inner outer => names outer <+: names inner := by
  refine .cons (fun outer houter => ?_)
    (pairwise_above _ fun _ => slash_notMem_of_mem_reversedParts)
  rw [names_eq path]
  exact names_above (fun _ => slash_notMem_of_mem_reversedParts) houter

/-- A separator at the end makes no difference to the paths above. -/
theorem parents_append_slash (hne : path ≠ "") : parents (path ++ "/") = parents path := by
  have hparts : reversedParts (path ++ "/") = "" :: reversedParts path := by
    rw [reversedParts, reversedParts, isAbsolute_append hne, segments_append_slash]
    split
    · rw [List.drop_append_of_le_length (List.length_pos_iff.mpr (segments_ne_nil path)),
        List.reverse_append]
      rfl
    · rw [List.reverse_append]
      rfl
  rw [parents, parents, isAbsolute_append hne, hparts, above]
  rfl

/-! ## The texts of paths above -/

/-- Parts that are put together in two groups. -/
theorem intercalate_append {front back : List String} (hfront : front ≠ []) (hback : back ≠ [])
    (h : ∀ part ∈ front ++ back, '/' ∉ part.toList) :
    String.intercalate "/" (front ++ back) =
      String.intercalate "/" front ++ "/" ++ String.intercalate "/" back := by
  have hsegments : segments (String.intercalate "/" front ++ "/" ++ String.intercalate "/" back) =
      front ++ back := by
    rw [segments_append,
      segments_intercalate hfront fun part hpart => h part (List.mem_append_left back hpart),
      segments_intercalate hback fun part hpart => h part (List.mem_append_right front hpart)]
  rw [← hsegments, intercalate_segments]

/-- The first parts make a first piece of the text. -/
theorem ofReversed_suffix {kept : List String} (absolute : Bool)
    (h : ∀ part ∈ parts, '/' ∉ part.toList) (hkept : kept <:+ parts) :
    ∃ rest, ofReversed absolute parts = ofReversed absolute kept ++ rest := by
  obtain ⟨dropped, rfl⟩ := hkept
  by_cases hnone : kept = []
  · subst hnone
    exact ⟨String.intercalate "/" (dropped ++ []).reverse, by simp [ofReversed]⟩
  · by_cases hall : dropped = []
    · subst hall
      exact ⟨"", by simp⟩
    · refine ⟨"/" ++ String.intercalate "/" dropped.reverse, ?_⟩
      have hparts : ∀ part ∈ kept.reverse ++ dropped.reverse, '/' ∉ part.toList := by
        simpa [or_comm] using h
      rw [ofReversed, ofReversed, List.reverse_append,
        intercalate_append (by simpa using hnone) (by simpa using hall) hparts]
      simp only [String.append_assoc]

/-- A path above is made of parts that come first. -/
theorem eq_ofReversed_of_mem_above {up : String} (h : up ∈ above absolute parts) :
    ∃ kept, kept <:+ parts ∧ up = ofReversed absolute kept := by
  induction parts with
  | nil => cases h
  | cons part before ih =>
    have hstep (h : up ∈ above absolute before) :
        ∃ kept, kept <:+ part :: before ∧ up = ofReversed absolute kept := by
      obtain ⟨kept, hkept, hup⟩ := ih h
      exact ⟨kept, hkept.trans (List.suffix_cons part before), hup⟩
    rw [above] at h
    split at h
    · exact hstep h
    · rcases List.mem_cons.mp h with hup | hup
      · exact ⟨trimEnd absolute before,
          (trimEnd_suffix absolute before).trans (List.suffix_cons part before), hup⟩
      · exact hstep hup

/-- The text of a path above is a first piece of the text. -/
theorem append_of_mem_parents {up : String} (h : up ∈ parents path) :
    ∃ rest, path = up ++ rest := by
  obtain ⟨kept, hkept, rfl⟩ := eq_ofReversed_of_mem_above h
  obtain ⟨rest, hrest⟩ := ofReversed_suffix (isAbsolute path)
    (fun _ => slash_notMem_of_mem_reversedParts) hkept
  exact ⟨rest, (ofReversed_reversedParts path).symm.trans hrest⟩

/-- Above absolute paths there are absolute ones, and above relative paths relative ones. -/
theorem isAbsolute_of_mem_parents {up : String} (h : up ∈ parents path) :
    isAbsolute up = isAbsolute path := by
  cases habsolute : isAbsolute path with
  | true =>
    obtain ⟨kept, _, rfl⟩ := eq_ofReversed_of_mem_above h
    rw [habsolute]
    exact isAbsolute_iff.mpr ⟨_, rfl⟩
  | false =>
    obtain ⟨rest, rfl⟩ := append_of_mem_parents h
    cases hup : isAbsolute up with
    | false => rfl
    | true =>
      obtain ⟨root, rfl⟩ := isAbsolute_iff.mp hup
      have hroot : isAbsolute ("/" ++ root ++ rest) = true :=
        isAbsolute_iff.mpr ⟨root ++ rest, String.append_assoc⟩
      rw [habsolute] at hroot
      cases hroot

/-- The paths above a path that is put together. -/
theorem parents_ofReversed (h : ∀ part ∈ parts, '/' ∉ part.toList)
    (habsolute : isAbsolute (ofReversed absolute parts) = absolute) :
    parents (ofReversed absolute parts) = above absolute parts := by
  have hparts : reversedParts (ofReversed absolute parts) = if parts = [] then [""] else parts := by
    have hsegments : (segments (String.intercalate "/" parts.reverse)).reverse =
        if parts = [] then [""] else parts := by
      split
      · rename_i hnil
        subst hnil
        decide
      · rename_i hne
        rw [segments_intercalate (by simpa using hne) (by simpa using h), List.reverse_reverse]
    cases absolute with
    | true =>
      rw [ofReversed, if_pos rfl, reversedParts_root]
      exact hsegments
    | false =>
      rw [reversedParts_relative habsolute, ofReversed, if_neg Bool.false_ne_true,
        String.empty_append]
      exact hsegments
  rw [parents, habsolute, hparts]
  split
  · rename_i hnil
    subst hnil
    cases absolute <;> rfl
  · rfl

/-- The paths above parts are the nearest of them and those above it. -/
theorem above_eq (h : ∀ part ∈ parts, '/' ∉ part.toList)
    (habsolute : ∀ up ∈ above absolute parts, isAbsolute up = absolute) :
    above absolute parts =
      match (above absolute parts).head? with
      | some up => up :: parents up
      | none => [] := by
  induction parts with
  | nil => rfl
  | cons part before ih =>
    have hbefore : ∀ part ∈ before, '/' ∉ part.toList := fun part hpart =>
      h part (List.mem_cons_of_mem _ hpart)
    rw [above] at habsolute ⊢
    split
    · rename_i hidle
      rw [if_pos hidle] at habsolute
      exact ih hbefore habsolute
    · rename_i hmeant
      rw [if_neg hmeant] at habsolute
      have hup := parents_ofReversed
        (fun part hpart => hbefore part ((trimEnd_suffix absolute before).mem hpart))
        (habsolute _ List.mem_cons_self)
      rw [above_trimEnd] at hup
      rw [List.head?_cons]
      dsimp only
      rw [hup]

/-- The paths above a path are its parent and the paths above that. -/
theorem parents_eq (path : String) :
    parents path =
      match parent? path with
      | some up => up :: parents up
      | none => [] :=
  above_eq (fun _ => slash_notMem_of_mem_reversedParts) fun _ => isAbsolute_of_mem_parents

end CallEngine.Path
