import SqlTemplate.Proofs.Matching
import SqlTemplate.Proofs.Scan.Cutting
import SqlTemplate.Render.Layer
import SqlTemplate.Trim

/-!
# Placeholders in chunks

Chunks are joined into a buffer, and a clause is cleaned up at its ends. Both keep the placeholders
of the chunks: a space stands where two chunks could make up a delimiter, and what a clause loses at
its ends is part of none.
-/

namespace SqlTemplate

open Delimiters

namespace Delimiters

/-- Chunks whose placeholders are all closed, and their bodies in order. -/
inductive ClosedAll : List Text → List Text → Prop
  | nil : ClosedAll [] []
  | cons {chunk : Text} {chunks bodies more : List Text} (h : Closed chunk bodies)
    (hrest : ClosedAll chunks more) : ClosedAll (chunk :: chunks) (bodies ++ more)

namespace ClosedAll

/-- One chunk. -/
theorem single {chunk : Text} {bodies : List Text} (h : Closed chunk bodies) :
    ClosedAll [chunk] bodies := by
  rw [← List.append_nil bodies]
  exact .cons h .nil

/-- Chunks after others. -/
theorem append {chunks others bodies more : List Text} (h : ClosedAll chunks bodies)
    (hothers : ClosedAll others more) : ClosedAll (chunks ++ others) (bodies ++ more) := by
  induction h with
  | nil => exact hothers
  | cons hchunk _ ih =>
    rw [List.append_assoc]
    exact .cons hchunk ih

/-- A chunk without placeholders may stand anywhere between others. -/
theorem insert {before after bodies : List Text} {chunk : Text}
    (h : ClosedAll (before ++ after) bodies) (hchunk : Closed chunk []) :
    ClosedAll (before ++ chunk :: after) bodies := by
  induction before generalizing bodies with
  | nil => exact .cons hchunk h
  | cons first before ih =>
    cases h with
    | cons hfirst hrest => exact .cons hfirst (ih hrest)

/-- The bodies in all chunks are replaced. -/
theorem substitute {chunks bodies : List Text} (h : ClosedAll chunks bodies)
    {replace : Text → Text} (hreplace : ∀ body, IsBody body → IsBody (replace body)) :
    ClosedAll (chunks.map (parameter.substitute replace)) (bodies.map replace) := by
  induction h with
  | nil => exact .nil
  | cons hchunk _ ih =>
    rw [List.map_append]
    exact .cons (hchunk.substitute hreplace).1 ih

end ClosedAll

end Delimiters

/-- Two characters that meet without a space make up no delimiter. -/
theorem apart_of_meets {last first : Char} (h : meets last first = true) :
    ¬(last = '#' ∧ first = '{') ∧ ¬(last = '\\' ∧ first = '#') := by
  constructor
  · rintro ⟨rfl, rfl⟩
    revert h
    decide
  · rintro ⟨rfl, rfl⟩
    revert h
    decide

/-- A chunk is joined with its placeholders after those in the buffer. -/
theorem closed_joinChunk {buffer chunk : Text} {bodies more : List Text}
    (h : Closed buffer bodies) (hchunk : Closed chunk more) :
    Closed (joinChunk buffer chunk) (bodies ++ more) := by
  unfold joinChunk
  split
  · rename_i last first hlast hfirst
    split
    · rename_i hmeets
      refine h.append hchunk fun c hc e he => ?_
      obtain rfl := Option.some.inj (hlast.symm.trans hc)
      obtain rfl := Option.some.inj (hfirst.symm.trans he)
      exact apart_of_meets hmeets
    · exact h.append (hchunk.cons (by decide) (by decide)) (apart_of_head (by decide) (by decide))
  · rename_i hnone
    refine h.append hchunk fun c hc e he => ?_
    exact absurd he (hnone c e hc)

/-- Chunks are joined with their placeholders after those in the buffer. -/
theorem closed_joinChunks {buffer : Text} {chunks bodies more : List Text}
    (h : Closed buffer bodies) (hchunks : ClosedAll chunks more) :
    Closed (joinChunks buffer chunks) (bodies ++ more) := by
  unfold joinChunks
  induction hchunks generalizing buffer bodies with
  | nil => simpa using h
  | cons hchunk _ ih =>
    rw [List.foldl_cons, ← List.append_assoc]
    exact ih (closed_joinChunk h hchunk)

namespace Text

/-- Trimming brings no character in. -/
theorem mem_of_mem_trim {text : Text} {c : Char} (h : c ∈ trim text) : c ∈ text := by
  have hstart : c ∈ trimStart text := (List.rdropWhile_prefix _ _).subset h
  exact (List.dropWhile_suffix _).subset hstart

/-- A character of a text is one of another text up to the case of letters. -/
theorem exists_mem_of_map_toLower {text other : Text}
    (h : text.map Char.toLower = other.map Char.toLower) {c : Char} (hc : c ∈ text) :
    ∃ e ∈ other, e.toLower = c.toLower := by
  have hmem : c.toLower ∈ other.map Char.toLower := h ▸ List.mem_map_of_mem hc
  exact List.mem_map.mp hmem

end Text

namespace TrimRule

/-- A rule that leaves placeholders alone: it adds none, and drops no part of a delimiter. -/
structure Harmless (rule : TrimRule) : Prop where
  lead : Closed rule.lead []
  trail : Closed rule.trail []
  starts : ∀ start ∈ rule.unwantedStarts, ∀ c ∈ start, c.toLower ≠ '#' ∧ c.toLower ≠ '\\'
  ends : ∀ ending ∈ rule.unwantedEnds, ∀ c ∈ ending, c.toLower ≠ '{' ∧ c.toLower ≠ '}'

/-- A `WHERE` clause leaves placeholders alone. -/
theorem whereClause_harmless : whereClause.Harmless where
  lead := .of_breakOn (by decide)
  trail := .nil
  starts := by
    have hall : whereClause.unwantedStarts.all
        (·.all fun c => c.toLower ≠ '#' && c.toLower ≠ '\\') = true := by decide
    simpa [List.all_eq_true] using hall
  ends := fun _ hending => absurd hending List.not_mem_nil

/-- A `SET` clause leaves placeholders alone. -/
theorem setClause_harmless : setClause.Harmless where
  lead := .of_breakOn (by decide)
  trail := .nil
  starts := by
    have hall : setClause.unwantedStarts.all
        (·.all fun c => c.toLower ≠ '#' && c.toLower ≠ '\\') = true := by decide
    simpa [List.all_eq_true] using hall
  ends := by
    have hall : setClause.unwantedEnds.all
        (·.all fun c => c.toLower ≠ '{' && c.toLower ≠ '}') = true := by decide
    simpa [List.all_eq_true] using hall

/-- An unwanted start that is dropped is no part of a placeholder. -/
theorem Harmless.closed_dropStart {rule : TrimRule} (h : rule.Harmless) {text : Text}
    {bodies : List Text} (htext : Closed text bodies) : Closed (rule.dropStart text) bodies := by
  unfold dropStart
  split
  · rename_i rest hfound
    obtain ⟨start, hmem, hrest⟩ := List.exists_of_findSome?_eq_some hfound
    unfold withoutStart? at hrest
    split at hrest
    · cases hrest
    · obtain ⟨head, rfl, hsame⟩ := Text.eq_of_afterLead? hrest
      refine (htext.of_append_left fun c hc => ?_).trimStart
      obtain ⟨e, he, hlower⟩ := Text.exists_mem_of_map_toLower hsame hc
      obtain ⟨hmark, hslash⟩ := h.starts start hmem e he
      rw [hlower] at hmark hslash
      constructor
      · rintro rfl
        exact hmark rfl
      · rintro rfl
        exact hslash rfl
  · exact htext

/-- An unwanted end that is dropped is no part of a placeholder. -/
theorem Harmless.closed_dropEnd {rule : TrimRule} (h : rule.Harmless) {text : Text}
    {bodies : List Text} (htext : Closed text bodies) : Closed (rule.dropEnd text) bodies := by
  -- What is dropped is the unwanted end as it is, or without its outer blanks.
  have hwithout {ending other rest : Text} (hmem : ending ∈ rule.unwantedEnds)
      (hother : ∀ c ∈ other, c ∈ ending) (hrest : withoutEnd? text other = some rest) :
      Closed (Text.trimEnd rest) bodies := by
    unfold withoutEnd? at hrest
    split at hrest
    · cases hrest
    · obtain ⟨last, rfl, hsame⟩ := Text.eq_of_beforeTail? hrest
      refine (htext.of_append_right fun c hc => ?_).trimEnd
      obtain ⟨e, he, hlower⟩ := Text.exists_mem_of_map_toLower hsame hc
      obtain ⟨hopen, hclose⟩ := h.ends ending hmem e (hother e he)
      rw [hlower] at hopen hclose
      constructor
      · rintro rfl
        exact hopen rfl
      · rintro rfl
        exact hclose rfl
  unfold dropEnd
  split
  · rename_i rest hfound
    obtain ⟨ending, hmem, hrest⟩ := List.exists_of_findSome?_eq_some hfound
    rcases Option.or_eq_some_iff.mp hrest with hfirst | ⟨-, hsecond⟩
    · exact hwithout hmem (fun _ hc => hc) hfirst
    · exact hwithout hmem (fun _ hc => Text.mem_of_mem_trim hc) hsecond
  · exact htext

/-- What a rule keeps of a clause has all its placeholders. -/
theorem Harmless.closed_core {rule : TrimRule} (h : rule.Harmless) {clause : Text}
    {bodies : List Text} (hclause : Closed clause bodies) : Closed (rule.core clause) bodies := by
  unfold core
  split
  · rename_i hblank
    refine (List.append_nil clause ▸ hclause).of_append_left fun c hc => ?_
    have hc' := List.all_eq_true.mp hblank c hc
    constructor
    · rintro rfl
      cases hc'
    · rintro rfl
      cases hc'
  · exact h.closed_dropEnd (h.closed_dropStart hclause.trim)

/-- A clause has all its placeholders when a rule has cleaned it up. -/
theorem Harmless.closed_apply {rule : TrimRule} (h : rule.Harmless) {clause : Text}
    {bodies : List Text} (hclause : Closed clause bodies) : Closed (rule.apply clause) bodies := by
  have hcore := h.closed_core hclause
  simp only [apply]
  by_cases hempty : (rule.core clause).isEmpty = true
  · rw [if_pos hempty]
    rw [List.isEmpty_iff.mp hempty] at hcore
    exact hcore
  · rw [if_neg hempty]
    have htrail : Closed (rule.core clause ++ if rule.trail.isEmpty then [] else ' ' :: rule.trail)
        (bodies ++ []) := by
      split
      · exact hcore.append .nil fun _ _ _ he => by cases he
      · exact hcore.append (h.trail.cons (by decide) (by decide))
          (apart_of_head (by decide) (by decide))
    rw [List.append_nil] at htrail
    rw [List.append_assoc]
    split
    · exact htrail
    · have hlead : Closed (rule.lead ++ [' ']) ([] ++ []) :=
        h.lead.append (Closed.nil.cons (by decide) (by decide))
          (apart_of_head (by decide) (by decide))
      exact hlead.append htrail (apart_of_last (by decide) (by decide))

end TrimRule

end SqlTemplate
