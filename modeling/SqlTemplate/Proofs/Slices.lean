import SqlTemplate.Proofs.Matching
import SqlTemplate.Proofs.Trimming
import SqlTemplate.Trim

/-!
# Slices of a clause

A trim rule keeps one piece of a clause. What it drops before and behind this piece is blanks and at
most one unwanted text at each end, which is the first of its list that stands there.
-/

namespace SqlTemplate.TrimRule

open Text

/-- A text starts with an unwanted one, in any case of letters. -/
structure StartsWith (unwanted text part : Text) : Prop where
  ne_nil : unwanted ≠ []
  same : sameLetters part unwanted = true
  start : part <+: text

/-- A text ends with an unwanted one, in any case of letters. -/
structure EndsWith (unwanted text part : Text) : Prop where
  ne_nil : unwanted ≠ []
  same : sameLetters part unwanted = true
  ending : part <:+ text

/-- A text ends with an unwanted one as it is, or else with what is left of that without its outer
blanks. -/
def EndsWithTrimmed (unwanted text part : Text) : Prop :=
  EndsWith unwanted text part ∨
    (∀ other, ¬ EndsWith unwanted text other) ∧ EndsWith unwanted.trim text part

/-- The part of a text that the first unwanted text that fits takes: nothing, if none of them
fits. -/
inductive FirstPart (fits : Text → Text → Text → Prop) (unwanted : List Text) (text : Text) :
    Text → Prop
  | nothing (h : ∀ other ∈ unwanted, ∀ part, ¬ fits other text part) :
    FirstPart fits unwanted text []
  | first {before after : List Text} {one part : Text} (hlist : unwanted = before ++ one :: after)
    (hbefore : ∀ other ∈ before, ∀ part, ¬ fits other text part) (h : fits one text part) :
    FirstPart fits unwanted text part

/-- The pieces of a body: between blanks the clause, from its unwanted start the rest behind blanks,
and of this rest what is to be kept, before blanks and the unwanted end. -/
structure Pieces (rule : TrimRule) (body : Text) where
  leading : Text
  clause : Text
  trailing : Text
  start : Text
  gap : Text
  rest : Text
  kept : Text
  slack : Text
  ending : Text
  body_eq : body = leading ++ clause ++ trailing
  clause_eq : clause = start ++ gap ++ rest
  rest_eq : rest = kept ++ slack ++ ending
  blank : ∀ c ∈ leading ++ trailing ++ gap ++ slack, isBlank c = true
  clause_trim : clause.trim = clause
  rest_trim : rest.trim = rest
  kept_trim : kept.trim = kept
  start_first : FirstPart StartsWith rule.unwantedStarts clause start
  ending_first : FirstPart EndsWithTrimmed rule.unwantedEnds rest ending

section FirstPart

variable {fits : Text → Text → Text → Prop} {joins : Text → Text → Prop}
  {without? : Text → Option Text} {unwanted : List Text} {text part : Text}

/-- If a look-up finds what is left without a part that fits, it finds what is left without the
first part. -/
theorem FirstPart.findSome?_eq (hfits : ∀ {one part}, fits one text part → ∃ rest, joins part rest)
    (hwithout : ∀ {one rest},
      without? one = some rest ↔ ∃ part, fits one text part ∧ joins part rest)
    (h : FirstPart fits unwanted text part) :
    part = [] ∧ unwanted.findSome? without? = none ∨
      ∃ rest, joins part rest ∧ unwanted.findSome? without? = some rest := by
  have hnone {one : Text} (hone : ∀ part, ¬ fits one text part) : without? one = none := by
    rw [Option.eq_none_iff_forall_ne_some]
    intro rest hrest
    obtain ⟨part, hpart, -⟩ := hwithout.mp hrest
    exact hone part hpart
  cases h with
  | nothing h =>
    exact .inl ⟨rfl, List.findSome?_eq_none_iff.mpr fun other hother => hnone (h other hother)⟩
  | first hlist hbefore h =>
    obtain ⟨rest, hrest⟩ := hfits h
    exact .inr ⟨rest, hrest, List.findSome?_eq_some_iff.mpr ⟨_, _, _, hlist,
      hwithout.mpr ⟨part, h, hrest⟩, fun other hother => hnone (hbefore other hother)⟩⟩

/-- There is always a first part. -/
theorem exists_firstPart (fits : Text → Text → Text → Prop) (unwanted : List Text) (text : Text) :
    ∃ part, FirstPart fits unwanted text part := by
  induction unwanted with
  | nil => exact ⟨[], .nothing (List.forall_mem_nil _)⟩
  | cons one others ih =>
    by_cases hone : ∃ part, fits one text part
    · obtain ⟨part, hpart⟩ := hone
      exact ⟨part, .first (List.nil_append _).symm (List.forall_mem_nil _) hpart⟩
    · have hnone : ∀ part, ¬ fits one text part := not_exists.mp hone
      obtain ⟨part, hpart⟩ := ih
      refine ⟨part, ?_⟩
      cases hpart with
      | nothing h => exact .nothing (List.forall_mem_cons.mpr ⟨hnone, h⟩)
      | first hlist hbefore h =>
        exact .first (congrArg (one :: ·) hlist) (List.forall_mem_cons.mpr ⟨hnone, hbefore⟩) h

end FirstPart

/-- What is left without an unwanted start stands behind a part that fits it. -/
theorem withoutStart?_eq_some_iff {unwanted text rest : Text} :
    withoutStart? text unwanted = some rest ↔
      ∃ part, StartsWith unwanted text part ∧ text = part ++ rest := by
  unfold withoutStart?
  split
  · rename_i hempty
    refine ⟨nofun, ?_⟩
    rintro ⟨part, hpart, -⟩
    exact absurd (List.isEmpty_iff.mp hempty) hpart.ne_nil
  · rename_i hne
    rw [afterLead?_eq_some_iff]
    constructor
    · rintro ⟨part, rfl, hsame⟩
      exact ⟨part, ⟨mt List.isEmpty_iff.mpr hne, hsame, List.prefix_append ..⟩, rfl⟩
    · rintro ⟨part, hpart, htext⟩
      exact ⟨part, htext, hpart.same⟩

/-- What is left without an unwanted end stands before a part that fits it. -/
theorem withoutEnd?_eq_some_iff {unwanted text rest : Text} :
    withoutEnd? text unwanted = some rest ↔
      ∃ part, EndsWith unwanted text part ∧ text = rest ++ part := by
  unfold withoutEnd?
  split
  · rename_i hempty
    refine ⟨nofun, ?_⟩
    rintro ⟨part, hpart, -⟩
    exact absurd (List.isEmpty_iff.mp hempty) hpart.ne_nil
  · rename_i hne
    rw [beforeTail?_eq_some_iff]
    constructor
    · rintro ⟨part, rfl, hsame⟩
      exact ⟨part, ⟨mt List.isEmpty_iff.mpr hne, hsame, List.suffix_append ..⟩, rfl⟩
    · rintro ⟨part, hpart, htext⟩
      exact ⟨part, htext, hpart.same⟩

/-- What is left without an unwanted end, or without that end trimmed, stands before a part that
fits it as it is or trimmed. -/
theorem withoutEnd?_or_eq_some_iff {unwanted text rest : Text} :
    (withoutEnd? text unwanted).or (withoutEnd? text unwanted.trim) = some rest ↔
      ∃ part, EndsWithTrimmed unwanted text part ∧ text = rest ++ part := by
  rw [Option.or_eq_some_iff, withoutEnd?_eq_some_iff, withoutEnd?_eq_some_iff,
    Option.eq_none_iff_forall_ne_some]
  constructor
  · rintro (⟨part, hpart, htext⟩ | ⟨hnone, part, hpart, htext⟩)
    · exact ⟨part, .inl hpart, htext⟩
    · refine ⟨part, .inr ⟨fun other hother => ?_, hpart⟩, htext⟩
      obtain ⟨before, hbefore⟩ := hother.ending
      exact hnone before (withoutEnd?_eq_some_iff.mpr ⟨other, hother, hbefore.symm⟩)
  · rintro ⟨part, hpart | ⟨hnone, hpart⟩, htext⟩
    · exact .inl ⟨part, hpart, htext⟩
    · refine .inr ⟨fun before hbefore => ?_, part, hpart, htext⟩
      obtain ⟨other, hother, -⟩ := withoutEnd?_eq_some_iff.mp hbefore
      exact hnone other hother

/-- A part that fits an unwanted start has a rest behind it. -/
theorem StartsWith.exists_rest {unwanted text part : Text} (h : StartsWith unwanted text part) :
    ∃ rest, text = part ++ rest := by
  obtain ⟨rest, hrest⟩ := h.start
  exact ⟨rest, hrest.symm⟩

/-- A part that fits an unwanted end has a rest before it. -/
theorem EndsWithTrimmed.exists_rest {unwanted text part : Text}
    (h : EndsWithTrimmed unwanted text part) : ∃ rest, text = rest ++ part := by
  have hending : part <:+ text := by
    rcases h with h | ⟨-, h⟩
    · exact h.ending
    · exact h.ending
  obtain ⟨rest, hrest⟩ := hending
  exact ⟨rest, hrest.symm⟩

variable {rule : TrimRule} {body : Text}

/-- The rest of a clause is what the rule leaves of it without its unwanted start. -/
theorem Pieces.dropStart_eq (p : rule.Pieces body) : rule.dropStart p.clause = p.rest := by
  have hgap : ∀ c ∈ p.gap, isBlank c = true := fun c hc => p.blank c (by simp [hc])
  have hrest : trimStart (p.gap ++ p.rest) = p.rest := by
    rw [trimStart_append hgap, trimStart_of_trim p.rest_trim]
  unfold dropStart
  rcases p.start_first.findSome?_eq StartsWith.exists_rest withoutStart?_eq_some_iff with
    ⟨hstart, hfind⟩ | ⟨later, hlater, hfind⟩
  · have hclause : p.clause = p.gap ++ p.rest := by rw [p.clause_eq, hstart, List.nil_append]
    rw [hfind, ← hrest, ← hclause, trimStart_of_trim p.clause_trim]
  · have hboth := hlater.symm.trans p.clause_eq
    rw [List.append_assoc] at hboth
    rw [hfind, List.append_cancel_left hboth]
    exact hrest

/-- What is kept is what the rule leaves of the rest without its unwanted end. -/
theorem Pieces.dropEnd_eq (p : rule.Pieces body) : rule.dropEnd p.rest = p.kept := by
  have hslack : ∀ c ∈ p.slack, isBlank c = true := fun c hc => p.blank c (by simp [hc])
  have hkept : trimEnd (p.kept ++ p.slack) = p.kept := by
    rw [trimEnd_append_blanks hslack, trimEnd_of_trim p.kept_trim]
  unfold dropEnd
  rcases p.ending_first.findSome?_eq EndsWithTrimmed.exists_rest withoutEnd?_or_eq_some_iff with
    ⟨hending, hfind⟩ | ⟨earlier, hearlier, hfind⟩
  · have hrest : p.rest = p.kept ++ p.slack := by rw [p.rest_eq, hending, List.append_nil]
    rw [hfind, ← hkept, ← hrest, trimEnd_of_trim p.rest_trim]
  · have hboth := hearlier.symm.trans p.rest_eq
    rw [hfind, List.append_cancel_right hboth]
    exact hkept

/-- The clause is the trimmed body. -/
theorem Pieces.trim_eq (p : rule.Pieces body) : body.trim = p.clause := by
  have hleading : ∀ c ∈ p.leading, isBlank c = true := fun c hc => p.blank c (by simp [hc])
  have htrailing : ∀ c ∈ p.trailing, isBlank c = true := fun c hc => p.blank c (by simp [hc])
  have hbody : trim (p.leading ++ p.clause ++ p.trailing) = p.clause := by
    rw [trim_append htrailing, trim, trimStart_append hleading, ← trim, p.clause_trim]
  rwa [← p.body_eq] at hbody

/-- The piece that is kept is the core of the body. -/
theorem Pieces.core_eq (p : rule.Pieces body) : rule.core body = p.kept := by
  unfold core
  split
  · rename_i hblank
    have hclause : p.clause = [] := by rw [← p.trim_eq, trim_eq_nil_iff.mpr hblank]
    have hrest : p.rest = [] := (List.append_eq_nil_iff.mp (p.clause_eq ▸ hclause)).2
    have hkept := (List.append_eq_nil_iff.mp (p.rest_eq ▸ hrest)).1
    exact (List.append_eq_nil_iff.mp hkept).1.symm
  · rw [p.trim_eq, p.dropStart_eq, p.dropEnd_eq]

/-- A trimmed clause has an unwanted start, if any, then blanks and a trimmed rest. -/
theorem exists_start (rule : TrimRule) {clause : Text} (h : clause.trim = clause) :
    ∃ start gap rest, clause = start ++ gap ++ rest ∧ (∀ c ∈ gap, isBlank c = true) ∧
      rest.trim = rest ∧ FirstPart StartsWith rule.unwantedStarts clause start := by
  obtain ⟨start, hfirst⟩ := exists_firstPart StartsWith rule.unwantedStarts clause
  have hlater : ∃ later, clause = start ++ later := by
    cases hfirst with
    | nothing => exact ⟨clause, rfl⟩
    | first _ _ hfits => exact hfits.exists_rest
  obtain ⟨later, hlater⟩ := hlater
  have hclause : clause = start ++ later.takeWhile isBlank ++ trimStart later := by
    rw [hlater, List.append_assoc, trimStart, List.takeWhile_append_dropWhile]
  refine ⟨start, later.takeWhile isBlank, trimStart later, hclause,
    fun c hc => List.mem_takeWhile_imp hc, ?_, hfirst⟩
  refine trim_eq_self (fun c => head?_trimStart) fun hne => ?_
  have hend := endsSolid_of_trim h (by simp [hclause, hne])
  rw [hclause] at hend
  exact hend.of_append _ hne

/-- A trimmed rest has a trimmed piece to keep, then blanks and an unwanted end, if any. -/
theorem exists_ending (rule : TrimRule) {rest : Text} (h : rest.trim = rest) :
    ∃ kept slack ending, rest = kept ++ slack ++ ending ∧ (∀ c ∈ slack, isBlank c = true) ∧
      kept.trim = kept ∧ FirstPart EndsWithTrimmed rule.unwantedEnds rest ending := by
  obtain ⟨ending, hfirst⟩ := exists_firstPart EndsWithTrimmed rule.unwantedEnds rest
  have hearlier : ∃ earlier, rest = earlier ++ ending := by
    cases hfirst with
    | nothing => exact ⟨rest, (List.append_nil rest).symm⟩
    | first _ _ hfits => exact hfits.exists_rest
  obtain ⟨earlier, hearlier⟩ := hearlier
  obtain ⟨slack, hslack, hblanks⟩ := exists_trimEnd_append earlier
  have hstart : trimEnd earlier <+: rest :=
    (trimEnd_start earlier).trans (hearlier ▸ List.prefix_append ..)
  refine ⟨trimEnd earlier, slack, ending, by rw [← hslack, hearlier], hblanks, ?_, hfirst⟩
  exact trim_eq_self (fun c hc => head?_of_trim h c (head?_of_start hstart hc)) endsSolid_trimEnd

/-- Every body has its pieces. -/
theorem exists_pieces (rule : TrimRule) (body : Text) : Nonempty (rule.Pieces body) := by
  obtain ⟨leading, trailing, hbody, hleading, htrailing⟩ := exists_trim_append body
  obtain ⟨start, gap, rest, hclause, hgap, hrest, hstart⟩ := exists_start rule (trim_trim body)
  obtain ⟨kept, slack, ending, hrests, hslack, hkept, hending⟩ := exists_ending rule hrest
  refine ⟨⟨leading, body.trim, trailing, start, gap, rest, kept, slack, ending, hbody, hclause,
    hrests, fun c hc => ?_, trim_trim body, hrest, hkept, hstart, hending⟩⟩
  simp only [List.mem_append] at hc
  rcases hc with ((hc | hc) | hc) | hc
  · exact hleading c hc
  · exact htrailing c hc
  · exact hgap c hc
  · exact hslack c hc

/-- A body has pieces, and a rule leaves the one to keep between its lead and its trail, or nothing
if that piece is empty. Unwanted texts may be looked for by their size in bytes: what they match
ends between two characters. -/
theorem apply_keeps_one_piece (rule : TrimRule) (body : Text) :
    Nonempty (rule.Pieces body) ∧
      (∀ p : rule.Pieces body,
        (rule.apply body = if p.kept = [] then [] else
          (if rule.lead = [] then [] else rule.lead ++ [' ']) ++ p.kept ++
            (if rule.trail = [] then [] else ' ' :: rule.trail)) ∧
        (rule.apply body = [] ↔ p.kept = [])) ∧
      ∀ text unwanted,
        withoutStart? text unwanted =
          (if unwanted = [] then none else afterBytes? unwanted text) ∧
        withoutEnd? text unwanted =
          if unwanted = [] then none else beforeBytes? unwanted text := by
  refine ⟨exists_pieces rule body, fun p => ?_, fun text unwanted => ?_⟩
  · have happly : rule.apply body = if p.kept = [] then [] else
        (if rule.lead = [] then [] else rule.lead ++ [' ']) ++ p.kept ++
          (if rule.trail = [] then [] else ' ' :: rule.trail) := by
      simp only [apply, p.core_eq, List.isEmpty_iff]
    refine ⟨happly, ?_⟩
    rw [happly]
    split
    · rename_i hkept
      simp [hkept]
    · rename_i hkept
      simp [hkept]
  · rw [afterBytes?_eq, beforeBytes?_eq]
    simp only [withoutStart?, withoutEnd?, List.isEmpty_iff, and_self]

example : whereClause.apply "\t and  é = 1 ".toList = "WHERE é = 1".toList := by decide

end SqlTemplate.TrimRule
