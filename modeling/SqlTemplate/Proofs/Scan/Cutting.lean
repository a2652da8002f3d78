import Mathlib.Data.List.DropRight
import SqlTemplate.Proofs.Scan.Closed
import SqlTemplate.Statement.Prepared

/-!
# Changing texts with closed placeholders

What rendering does to a text keeps its placeholders closed: it puts texts together, cuts blanks and
connectives off, renames bodies and collapses blanks. None of this makes a placeholder or loses one.
-/

namespace SqlTemplate

namespace Text

/-- Of two texts that end in a character, the second one ends in it unless it is empty. -/
theorem split_concat {text : Text} {c : Char} (start rest : Text)
    (h : text ++ [c] = start ++ rest) :
    rest = [] ∧ text = start.dropLast ∧ start.getLast? = some c ∨
      ∃ more, rest = more ++ [c] ∧ text = start ++ more := by
  rcases List.eq_nil_or_concat rest with rfl | ⟨more, e, rfl⟩
  · rw [List.append_nil] at h
    rw [← h]
    exact .inl ⟨rfl, by simp, by simp⟩
  · rw [List.concat_eq_append, ← List.append_assoc] at h
    obtain ⟨rfl, hc⟩ := List.append_inj' h rfl
    obtain rfl : c = e := by simpa using hc
    exact .inr ⟨more, List.concat_eq_append, rfl⟩

end Text

namespace Delimiters

/-- A placeholder starts at the first character of a text, with its opening delimiter. -/
def Opens (text : Text) : Prop := ∃ rest, text = '#' :: '{' :: rest

/-- Nothing starts at a character unless it is half of an opening delimiter, or a backslash before
one. -/
theorem plain_iff {c : Char} {text : Text} :
    parameter.Plain c text ↔ ¬(c = '#' ∧ text.head? = some '{') ∧ ¬(c = '\\' ∧ Opens text) :=
  parameter_braced.plain_iff

/-- No delimiter starts in a text that does not start in another one. -/
def StartsLike (text other : Text) : Prop :=
  (text.head? = some '{' → other.head? = some '{') ∧ (Opens text → Opens other)

/-- Nothing starts at a character before a text that starts like another one. -/
theorem Plain.of_startsLike {c : Char} {text other : Text} (h : parameter.Plain c other)
    (hlike : StartsLike text other) : parameter.Plain c text := by
  obtain ⟨hopen, hescape⟩ := plain_iff.mp h
  exact plain_iff.mpr ⟨fun ⟨hc, hhead⟩ => hopen ⟨hc, hlike.1 hhead⟩,
    fun ⟨hc, hopens⟩ => hescape ⟨hc, hlike.2 hopens⟩⟩

/-- Texts that start alike do so behind a common first character. -/
theorem StartsLike.cons {text other : Text} (h : StartsLike text other) (c : Char) :
    StartsLike (c :: text) (c :: other) := by
  refine ⟨fun hhead => hhead, ?_⟩
  rintro ⟨rest, hrest⟩
  obtain ⟨rfl, rfl⟩ := List.cons.inj hrest
  obtain ⟨more, rfl⟩ := List.head?_eq_some_iff.mp (h.1 rfl)
  exact ⟨more, rfl⟩

/-- No delimiter starts at a character that is part of none. -/
theorem startsLike_of_head {c : Char} (hbrace : c ≠ '{') (hmark : c ≠ '#') (text other : Text) :
    StartsLike (c :: text) other := by
  refine ⟨fun hhead => absurd (Option.some.inj hhead) hbrace, ?_⟩
  rintro ⟨rest, hrest⟩
  exact absurd (List.cons.inj hrest).1 hmark

/-- Two texts meet without a delimiter at the seam. -/
def Apart (first second : Text) : Prop :=
  ∀ c ∈ first.getLast?, ∀ e ∈ second.head?, ¬(c = '#' ∧ e = '{') ∧ ¬(c = '\\' ∧ e = '#')

/-- A delimiter at the seam would need the last character of the first text. -/
theorem apart_of_last {first second : Text} {c : Char} (hmark : c ≠ '#') (hslash : c ≠ '\\') :
    Apart (first ++ [c]) second := by
  intro last hlast e _
  obtain rfl : c = last := by simpa using hlast
  exact ⟨fun h => hmark h.1, fun h => hslash h.1⟩

/-- A delimiter at the seam would need the first character of the second text. -/
theorem apart_of_head {first second : Text} {c : Char} (hmark : c ≠ '#') (hbrace : c ≠ '{') :
    Apart first (c :: second) := by
  intro last _ e he
  obtain rfl : c = e := by simpa using he
  exact ⟨fun h => hbrace h.2, fun h => hmark h.2⟩

/-- The seam is that of the end of the first text. -/
theorem Apart.of_append (first : Text) {middle second : Text} (h : Apart (first ++ middle) second) :
    Apart middle second := by
  intro c hc e he
  refine h c ?_ e he
  rw [List.getLast?_append, Option.mem_def.mp hc]
  rfl

/-- Nothing starts at a character before two texts that meet without a delimiter, if nothing starts
at it before the first of them. -/
theorem Plain.append {c : Char} {first second : Text} (h : parameter.Plain c first)
    (hapart : Apart (c :: first) second) : parameter.Plain c (first ++ second) := by
  obtain ⟨hopen, hescape⟩ := plain_iff.mp h
  rw [plain_iff]
  cases first with
  | nil =>
    refine ⟨?_, ?_⟩
    · rintro ⟨rfl, hhead⟩
      exact (hapart '#' rfl '{' hhead).1 ⟨rfl, rfl⟩
    · rintro ⟨rfl, rest, hrest⟩
      exact (hapart '\\' rfl '#' (List.head?_eq_some_iff.mpr ⟨_, hrest⟩)).2 ⟨rfl, rfl⟩
  | cons e first =>
    refine ⟨hopen, ?_⟩
    rintro ⟨rfl, rest, hrest⟩
    obtain ⟨rfl, hsecond⟩ := List.cons.inj hrest
    cases first with
    | nil => exact (hapart '#' rfl '{' (List.head?_eq_some_iff.mpr ⟨rest, hsecond⟩)).1 ⟨rfl, rfl⟩
    | cons f first =>
      obtain ⟨rfl, -⟩ := List.cons.inj hsecond
      exact hescape ⟨rfl, first, rfl⟩

/-- Nothing starts at a character before less text. -/
theorem Plain.of_append {c : Char} {first second : Text}
    (h : parameter.Plain c (first ++ second)) : parameter.Plain c first := by
  obtain ⟨hopen, hescape⟩ := plain_iff.mp h
  refine plain_iff.mpr ⟨?_, ?_⟩
  · rintro ⟨hc, hhead⟩
    obtain ⟨rest, rfl⟩ := List.head?_eq_some_iff.mp hhead
    exact hopen ⟨hc, rfl⟩
  · rintro ⟨hc, rest, rfl⟩
    exact hescape ⟨hc, rest ++ second, rfl⟩

namespace Closed

/-- Nothing starts at a character that is part of no delimiter. -/
theorem cons {c : Char} {text : Text} {bodies : List Text} (h : Closed text bodies)
    (hmark : c ≠ '#') (hslash : c ≠ '\\') : Closed (c :: text) bodies :=
  .char (plain_iff.mpr ⟨fun hc => hmark hc.1, fun hc => hslash hc.1⟩) h

/-- A text that opens no placeholder is closed. -/
theorem of_breakOn {text : Text} (h : Text.breakOn parameter.opening text = none) :
    Closed text [] := by
  induction text with
  | nil => exact .nil
  | cons c text ih =>
    have htail := Text.breakOn_eq_none_of_cons h
    refine .char ⟨?_, fun _ => ?_⟩ (ih htail)
    · cases hlead : Text.dropLead? parameter.opening (c :: text) with
      | none => rfl
      | some rest =>
        rw [Text.breakOn_of_dropLead? parameter_braced.opening_ne_nil hlead] at h
        cases h
    · cases hlead : Text.dropLead? parameter.opening text with
      | none => rfl
      | some rest =>
        rw [Text.breakOn_of_dropLead? parameter_braced.opening_ne_nil hlead] at htail
        cases htail

/-- Closed texts that meet without a delimiter make up a closed one. -/
theorem append {first second : Text} {bodies more : List Text} (h : Closed first bodies)
    (hsecond : Closed second more) (hapart : Apart first second) :
    Closed (first ++ second) (bodies ++ more) := by
  induction h with
  | nil => exact hsecond
  | @char c text _ hplain _ ih =>
    exact .char (hplain.append hapart) (ih (hapart.of_append [c]))
  | @escaped text _ _ ih => exact .escaped (ih (hapart.of_append ['\\', '#', '{']))
  | @token body text _ hbody _ ih =>
    have htext : Apart text second := by
      refine Apart.of_append ('#' :: '{' :: (body ++ ['}'])) ?_
      simpa using hapart
    have hclosed := token hbody (ih htext)
    simpa using hclosed

/-- What follows a character that is part of no opening delimiter is closed. -/
theorem of_cons {c : Char} {text : Text} {bodies : List Text} (h : Closed (c :: text) bodies)
    (hmark : c ≠ '#') (hslash : c ≠ '\\') : Closed text bodies := by
  cases h with
  | char _ htail => exact htail
  | escaped => exact absurd rfl hslash
  | token => exact absurd rfl hmark

/-- What follows characters that are part of no opening delimiter is closed. -/
theorem of_append_left {before text : Text} {bodies : List Text}
    (h : Closed (before ++ text) bodies) (hbefore : ∀ c ∈ before, c ≠ '#' ∧ c ≠ '\\') :
    Closed text bodies := by
  induction before with
  | nil => exact h
  | cons c before ih =>
    obtain ⟨⟨hmark, hslash⟩, hrest⟩ := List.forall_mem_cons.mp hbefore
    exact ih (of_cons h hmark hslash) hrest

/-- What precedes a character that is part of no closing delimiter is closed. -/
theorem of_concat {text : Text} {c : Char} {bodies : List Text} (h : Closed (text ++ [c]) bodies)
    (hopen : c ≠ '{') (hclose : c ≠ '}') : Closed text bodies := by
  generalize hwhole : text ++ [c] = whole at h
  induction h generalizing text with
  | nil => simp at hwhole
  | @char e rest bodies hplain htail ih =>
    rcases Text.split_concat [e] rest hwhole with ⟨rfl, htext, -⟩ | ⟨more, rfl, rfl⟩
    · obtain rfl : text = [] := by simpa using htext
      exact htail
    · exact .char hplain.of_append (ih rfl)
  | @escaped rest bodies htail ih =>
    rcases Text.split_concat ['\\', '#', '{'] rest hwhole with ⟨-, -, hlast⟩ | ⟨more, rfl, rfl⟩
    · exact absurd (Option.some.inj hlast).symm hopen
    · exact .escaped (ih rfl)
  | @token body rest bodies hbody htail ih =>
    have hsplit : text ++ [c] = '#' :: '{' :: (body ++ ['}']) ++ rest := by rw [hwhole]; simp
    rcases Text.split_concat _ rest hsplit with ⟨-, -, hlast⟩ | ⟨more, rfl, rfl⟩
    · have hc : '}' = c := by simpa [List.getLast?_cons] using hlast
      exact absurd hc.symm hclose
    · have hclosed := token hbody (ih rfl)
      simpa using hclosed

/-- What precedes characters that are part of no closing delimiter is closed. -/
theorem of_append_right {text after : Text} {bodies : List Text} (h : Closed (text ++ after) bodies)
    (hafter : ∀ c ∈ after, c ≠ '{' ∧ c ≠ '}') : Closed text bodies := by
  induction after generalizing text with
  | nil => simpa using h
  | cons c after ih =>
    obtain ⟨⟨hopen, hclose⟩, hrest⟩ := List.forall_mem_cons.mp hafter
    rw [List.append_cons] at h
    exact of_concat (ih h hrest) hopen hclose

/-- Blanks at the start of a text are part of no placeholder. -/
theorem trimStart {text : Text} {bodies : List Text} (h : Closed text bodies) :
    Closed (Text.trimStart text) bodies := by
  rw [← List.takeWhile_append_dropWhile (p := isBlank) (l := text)] at h
  refine of_append_left h fun c hc => ?_
  have hblank := List.mem_takeWhile_imp hc
  constructor
  · rintro rfl
    cases hblank
  · rintro rfl
    cases hblank

/-- Blanks at the end of a text are part of no placeholder. -/
theorem trimEnd {text : Text} {bodies : List Text} (h : Closed text bodies) :
    Closed (Text.trimEnd text) bodies := by
  rw [← List.rdropWhile_append_rtakeWhile (p := isBlank) (l := text)] at h
  refine of_append_right h fun c hc => ?_
  have hblank := List.mem_rtakeWhile_imp hc
  constructor
  · rintro rfl
    cases hblank
  · rintro rfl
    cases hblank

/-- Outer blanks are part of no placeholder. -/
theorem trim {text : Text} {bodies : List Text} (h : Closed text bodies) :
    Closed (Text.trim text) bodies := h.trimStart.trimEnd

end Closed

/-- The text that segments stand for, all bodies replaced. -/
def replaced (replace : Text → Text) : Segment → Text
  | .token body => parameter.source (.token (replace body))
  | segment => parameter.source segment

/-- Replacing the bodies goes segment by segment. -/
theorem substitute_eq (replace : Text → Text) (text : Text) :
    parameter.substitute replace text =
      (parameter.segments text).flatMap (replaced replace) := by
  rw [substitute]
  congr 1

/-- Literal text stays. -/
theorem flatMap_replaced_pushLiteral (replace : Text → Text) (c : Char) (segments : List Segment) :
    (pushLiteral c segments).flatMap (replaced replace) =
      c :: segments.flatMap (replaced replace) := by
  cases segments with
  | nil => rfl
  | cons segment rest => cases segment <;> rfl

namespace Closed

/-- Bodies can be replaced by others, and everything around them stays. -/
theorem substitute {text : Text} {bodies : List Text} (h : Closed text bodies)
    {replace : Text → Text} (hreplace : ∀ body, IsBody body → IsBody (replace body)) :
    Closed (parameter.substitute replace text) (bodies.map replace) ∧
      StartsLike (parameter.substitute replace text) text := by
  rw [substitute_eq]
  induction h with
  | nil =>
    rw [segments_nil]
    exact ⟨.nil, id, id⟩
  | char hplain _ ih =>
    rw [parameter_braced.segments_char hplain, flatMap_replaced_pushLiteral]
    exact ⟨.char (hplain.of_startsLike ih.2) ih.1, ih.2.cons _⟩
  | escaped _ ih =>
    rw [parameter_braced.segments_slash]
    exact ⟨.escaped ih.1, startsLike_of_head (by decide) (by decide) _ _⟩
  | @token body text _ hbody _ ih =>
    rw [parameter_braced.segments_body hbody, List.flatMap_cons]
    have hclosed := token (hreplace body hbody) ih.1
    refine ⟨by simpa [replaced, source, parameter] using hclosed, ?_, fun _ => ⟨_, rfl⟩⟩
    intro hhead
    exact absurd (Option.some.inj hhead) (by decide)

end Closed

end Delimiters

namespace Prepared

open Delimiters

/-- Whether a space stands before what follows a text is up to its last character. -/
theorem endsInSpace_cons (afterSpace : Bool) (c : Char) (text : Text) :
    endsInSpace afterSpace (c :: text) = endsInSpace (c == ' ') text := by
  cases text with
  | nil => rfl
  | cons e rest => simp [endsInSpace, List.getLast?_cons]

/-- The first character of literal text is kept, unless it is a blank: a space stands for it, if
none stands there yet. -/
theorem collapseSegments_literal_cons (afterSpace : Bool) (c : Char) (text : Text)
    (rest : List Segment) :
    collapseSegments afterSpace (.literal (c :: text) :: rest) =
      if isBlank c then
        if afterSpace then collapseSegments true (.literal text :: rest)
        else ' ' :: collapseSegments true (.literal text :: rest)
      else c :: collapseSegments false (.literal text :: rest) := by
  cases hblank : isBlank c with
  | true =>
    cases afterSpace with
    | true => simp [collapseSegments, collapse, hblank]
    | false => simp [collapseSegments, collapse, hblank, endsInSpace_cons]
  | false =>
    have hspace : (c == ' ') = false := by
      rw [beq_eq_false_iff_ne]
      rintro rfl
      cases hblank
    simp [collapseSegments, collapse, hblank, endsInSpace_cons, hspace]

/-- No literal text is collapsed to none. -/
theorem collapseSegments_literal_nil (afterSpace : Bool) (rest : List Segment) :
    collapseSegments afterSpace (.literal [] :: rest) = collapseSegments afterSpace rest := rfl

/-- A character put before segments is collapsed before them. -/
theorem collapseSegments_pushLiteral (afterSpace : Bool) (c : Char) (segments : List Segment) :
    collapseSegments afterSpace (pushLiteral c segments) =
      if isBlank c then
        if afterSpace then collapseSegments true segments
        else ' ' :: collapseSegments true segments
      else c :: collapseSegments false segments := by
  have hsingle := collapseSegments_literal_cons afterSpace c [] segments
  simp only [collapseSegments_literal_nil] at hsingle
  cases segments with
  | nil => exact hsingle
  | cons segment rest =>
    cases segment with
    | literal text => exact collapseSegments_literal_cons afterSpace c text rest
    | escapedOpening => exact hsingle
    | token body => exact hsingle

/-- No delimiter comes up where blanks are collapsed. -/
theorem startsLike_collapseSegments (text : Text) :
    StartsLike (collapseSegments false (parameter.segments text)) text := by
  induction text using parameter_braced.inductionOn with
  | nil =>
    rw [segments_nil]
    exact ⟨id, id⟩
  | char c text hplain ih =>
    rw [parameter_braced.segments_char hplain, collapseSegments_pushLiteral]
    split
    · exact startsLike_of_head (by decide) (by decide) _ _
    · exact ih.cons c
  | slash text _ =>
    rw [parameter_braced.segments_slash]
    exact startsLike_of_head (by decide) (by decide) _ _
  | token body text hbody _ =>
    rw [parameter_braced.segments_body hbody]
    refine ⟨fun hhead => absurd (Option.some.inj hhead) (by decide), fun _ => ⟨_, rfl⟩⟩
  | unclosed text hopen =>
    rw [parameter_braced.segments_unclosed hopen]
    refine ⟨fun hhead => absurd (Option.some.inj hhead) (by decide), fun _ => ⟨_, rfl⟩⟩

/-- Placeholders stay what they are where blanks are collapsed. -/
theorem closed_collapseSegments {text : Text} {bodies : List Text} (h : Closed text bodies)
    (afterSpace : Bool) :
    Closed (collapseSegments afterSpace (parameter.segments text)) bodies := by
  induction h generalizing afterSpace with
  | nil =>
    rw [segments_nil]
    exact .nil
  | @char c text _ hplain htail ih =>
    rw [parameter_braced.segments_char hplain, collapseSegments_pushLiteral]
    split
    · split
      · exact ih true
      · exact (ih true).cons (by decide) (by decide)
    · exact .char (hplain.of_startsLike (startsLike_collapseSegments text)) (ih false)
  | escaped _ ih =>
    rw [parameter_braced.segments_slash]
    exact .escaped (ih _)
  | @token body text _ hbody _ ih =>
    rw [parameter_braced.segments_body hbody]
    have hclosed := Closed.token hbody
      (ih (endsInSpace afterSpace (parameter.source (.token body))))
    simpa [collapseSegments, source, parameter] using hclosed

/-- Placeholders stay what they are where a statement is shrunk. -/
theorem closed_shrink {text : Text} {bodies : List Text} (h : Closed text bodies) :
    Closed (shrink text) bodies := (closed_collapseSegments h false).trim

end Prepared

end SqlTemplate
