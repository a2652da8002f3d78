import Mathlib.Algebra.BigOperators.Group.List.Basic
import SqlTemplate.Proofs.Scan.Cursor

/-!
# Covering a text with slices

A cursor that starts before the first character hands out the segments of the text one after the
other and comes to its end, whatever the delimiters are. The slices cover the text without a gap and
without an overlap.
-/

namespace SqlTemplate.Delimiters

section Definitions

variable (d : Delimiters) (text : Text)

/-- A cursor that hands out these slices one after the other and comes to the end of the text. -/
inductive Cuts : Cursor → List Slice → Prop
  | done {cursor : Cursor} (h : d.next text cursor = .ok none) : Cuts cursor []
  | slice {cursor later : Cursor} {slice : Slice} {slices : List Slice}
    (h : d.next text cursor = .ok (some (slice, later))) (hlater : Cuts later slices) :
    Cuts cursor (slice :: slices)

/-- A segment as it is cut from a text. -/
def sliceOf : Segment → Slice
  | .literal text => .literal text
  | .escapedOpening => .escapedOpening ('\\' :: d.opening)
  | .token body => .token body

/-- The part of a text that a slice stands for: that of a token goes from delimiter to delimiter. -/
def covered : Slice → Text
  | .literal text => text
  | .escapedOpening text => text
  | .token body => d.opening ++ body ++ d.closing

end Definitions

variable {d : Delimiters} {text : Text}

/-- What a slice covers is what its segment is cut from. -/
theorem covered_sliceOf (d : Delimiters) (segment : Segment) :
    d.covered (d.sliceOf segment) = d.source segment := by
  cases segment <;> rfl

/-- Literal text is put in only where there is some. -/
theorem eq_of_mem_literals {segment : Segment} (h : segment ∈ literals text) :
    segment = .literal text ∧ text ≠ [] := by
  unfold literals at h
  split at h
  · cases h
  · rename_i htext
    exact ⟨List.mem_singleton.mp h, by simpa using htext⟩

/-- A token takes up some of the text even if its body is empty. -/
theorem source_token_ne_nil (d : Delimiters) (body : Text) : d.source (.token body) ≠ [] := by
  rw [source, ne_eq, List.append_eq_nil_iff, List.append_eq_nil_iff]
  rintro ⟨⟨hopening, -⟩, hclosing⟩
  exact d.nonempty.elim (· hopening) (· hclosing)

/-- Every segment takes up some of the text. -/
theorem source_ne_nil {segment : Segment} (h : segment ∈ d.segments text) :
    d.source segment ≠ [] := by
  have hliterals {start : Text} (hmem : segment ∈ literals start) : d.source segment ≠ [] := by
    obtain ⟨rfl, hstart⟩ := eq_of_mem_literals hmem
    exact hstart
  fun_induction segments d text with
  | case1 => cases h
  | case2 text htext =>
    obtain rfl := List.mem_singleton.mp h
    simpa [source] using htext
  | case3 text _ before after _ _ _ ih =>
    rcases List.mem_append.mp h with hmem | hmem
    · exact hliterals hmem
    · rcases List.mem_cons.mp hmem with rfl | hmem
      · exact List.cons_ne_nil _ _
      · exact ih hmem
  | case4 text htext =>
    obtain rfl := List.mem_singleton.mp h
    simpa [source] using htext
  | case5 text _ before after _ _ body rest _ _ ih =>
    rcases List.mem_append.mp h with hmem | hmem
    · exact hliterals hmem
    · rcases List.mem_cons.mp hmem with rfl | hmem
      · exact d.source_token_ne_nil body
      · exact ih hmem

/-- There are no more segments than characters. -/
theorem length_segments_le (d : Delimiters) (text : Text) :
    (d.segments text).length ≤ text.length := by
  have hone : ∀ length ∈ (d.segments text).map fun segment => (d.source segment).length,
      1 ≤ length := by
    intro length hlength
    obtain ⟨segment, hsegment, rfl⟩ := List.mem_map.mp hlength
    exact List.length_pos_iff.mpr (source_ne_nil hsegment)
  calc (d.segments text).length
      = ((d.segments text).map fun segment => (d.source segment).length).length :=
        (List.length_map ..).symm
    _ ≤ ((d.segments text).map fun segment => (d.source segment).length).sum :=
        List.length_le_sum_of_one_le _ hone
    _ = ((d.segments text).flatMap d.source).length := List.length_flatMap.symm
    _ = text.length := by rw [source_segments]

/-- A literal up to the end of the text is the last slice. -/
theorem cuts_rest {cursor : Cursor} {rest : Text}
    (h : d.next text cursor = .ok (some (.literal rest, { place := text.byteSize }))) :
    d.Cuts text cursor [.literal rest] :=
  .slice h (.done next_of_end)

/-- A slice that is handed out comes behind the literal text before it. -/
theorem cuts_handOut {cursor : Cursor} {before : Text} {piece : Slice} {place : Nat}
    {slices : List Slice} (h : d.next text cursor = .ok (some (Cursor.handOut before piece place)))
    (hlater : d.Cuts text { place } slices) :
    d.Cuts text cursor ((literals before).map d.sliceOf ++ piece :: slices) := by
  unfold Cursor.handOut at h
  unfold literals
  split at h
  · rename_i hempty
    rw [if_pos hempty]
    exact .slice h hlater
  · rename_i hbefore
    rw [if_neg hbefore]
    -- The cursor behind the literal text only hands out what it holds.
    exact .slice h (.slice rfl hlater)

/-- From a place between characters on, a cursor hands out the segments of the rest. -/
theorem cuts_segments (d : Delimiters) (before rest : Text) :
    d.Cuts (before ++ rest) { place := before.byteSize } ((d.segments rest).map d.sliceOf) := by
  -- What is cut goes over to the text before the place, so the place is between characters again.
  fun_induction segments d rest generalizing before with
  | case1 rest hempty =>
    obtain rfl := List.isEmpty_iff.mp hempty
    rw [List.append_nil]
    exact .done next_of_end
  | case2 rest hrest hbreak =>
    exact cuts_rest (next_of_none (by simpa using hrest) hbreak)
  | case3 rest hrest skipped after hbreak hesc _ ih =>
    have hlater := ih (before ++ skipped ++ d.opening)
    rw [← Text.append_of_breakOn before hbreak] at hlater
    rw [List.map_append, List.map_cons]
    exact cuts_handOut (next_of_escaped hbreak hesc) hlater
  | case4 rest hrest skipped after hbreak hesc hbody =>
    exact cuts_rest (next_of_open (by simpa using hrest) hbreak (Bool.eq_false_iff.mpr hesc) hbody)
  | case5 rest hrest skipped after hbreak hesc body later hbody _ ih =>
    have hlater := ih (before ++ skipped ++ d.opening ++ body ++ d.closing)
    have htext : before ++ skipped ++ d.opening ++ body ++ d.closing ++ later = before ++ rest := by
      rw [Text.append_of_breakOn before hbreak, eq_of_body? hbody]
      simp only [List.append_assoc]
    rw [htext] at hlater
    rw [List.map_append, List.map_cons]
    exact cuts_handOut (next_of_token hbreak (Bool.eq_false_iff.mpr hesc) hbody) hlater

/-- A cursor hands out one list of slices only. -/
theorem Cuts.unique {cursor : Cursor} {slices others : List Slice}
    (h : d.Cuts text cursor slices) (hothers : d.Cuts text cursor others) : slices = others := by
  induction h generalizing others with
  | done h =>
    cases hothers with
    | done => rfl
    | slice hother => cases h.symm.trans hother
  | slice h _ ih =>
    cases hothers with
    | done hother => cases h.symm.trans hother
    | slice hother hlater =>
      cases h.symm.trans hother
      rw [ih hlater]

/-- A cursor before the first character hands out the segments of the text. -/
theorem cuts_iff {slices : List Slice} :
    d.Cuts text {} slices ↔ slices = (d.segments text).map d.sliceOf := by
  have hsegments : d.Cuts text {} ((d.segments text).map d.sliceOf) := cuts_segments d [] text
  exact ⟨fun h => h.unique hsegments, fun h => h ▸ hsegments⟩

/-- Whatever the delimiters, a cursor comes to the end of every text, and no slice on its way starts
or stops inside a character. It hands out the segments of the text, at most one for each character;
together they cover the text from its start to its end, and no literal one is empty. -/
theorem cut_without_loss (d : Delimiters) (text : Text) :
    ∃ slices, (∀ others, d.Cuts text {} others ↔ others = slices) ∧
      slices = (d.segments text).map d.sliceOf ∧
      slices.flatMap d.covered = text ∧
      (∀ piece, Slice.literal piece ∈ slices → piece ≠ []) ∧
      slices.length ≤ text.length := by
  refine ⟨(d.segments text).map d.sliceOf, fun others => cuts_iff, rfl, ?_, ?_, ?_⟩
  · simp only [List.flatMap_map, covered_sliceOf]
    exact d.source_segments text
  · intro piece hpiece
    obtain ⟨segment, hsegment, hslice⟩ := List.mem_map.mp hpiece
    have hsource : d.source segment = piece := by rw [← covered_sliceOf, hslice, covered]
    exact hsource ▸ source_ne_nil hsegment
  · rw [List.length_map]
    exact d.length_segments_le text

end SqlTemplate.Delimiters
