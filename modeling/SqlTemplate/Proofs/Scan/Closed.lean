import SqlTemplate.Proofs.Scan.Braced

/-!
# Texts with closed placeholders

In a text whose placeholders are all closed, each of them is where it is whatever stands around the
text. So such texts can be put together, cut at their ends, and changed inside their placeholders,
and the bodies stay what they are.
-/

namespace SqlTemplate

/-- The text of a literal segment. -/
def Segment.literal? : Segment → Option Text
  | .literal text => some text
  | _ => none

namespace Delimiters

/-- All placeholders in a text are closed: what is left as literal text opens none. -/
def Terminated (d : Delimiters) (text : Text) : Prop :=
  ∀ literal, Segment.literal literal ∈ d.segments text → Text.breakOn d.opening literal = none

/-- Whether all placeholders are closed can be seen from the literal segments one by one. -/
theorem terminated_iff {d : Delimiters} {text : Text} :
    d.Terminated text ↔ ∀ literal ∈ (d.segments text).filterMap Segment.literal?,
      Text.breakOn d.opening literal = none := by
  constructor
  · intro h literal hmem
    obtain ⟨segment, hsegment, hliteral⟩ := List.mem_filterMap.mp hmem
    cases segment with
    | literal text =>
      obtain rfl := Option.some.inj hliteral
      exact h text hsegment
    | escapedOpening => cases hliteral
    | token body => cases hliteral
  · intro h literal hmem
    exact h literal (List.mem_filterMap.mpr ⟨.literal literal, hmem, rfl⟩)

instance (d : Delimiters) (text : Text) : Decidable (d.Terminated text) :=
  decidable_of_iff _ terminated_iff.symm

/-- A text whose placeholders are all closed, and their bodies in order. -/
inductive Closed : Text → List Text → Prop
  | nil : Closed [] []
  | char {c : Char} {text : Text} {bodies : List Text} (hplain : parameter.Plain c text)
    (h : Closed text bodies) : Closed (c :: text) bodies
  | escaped {text : Text} {bodies : List Text} (h : Closed text bodies) :
    Closed ('\\' :: '#' :: '{' :: text) bodies
  | token {body text : Text} {bodies : List Text} (hbody : IsBody body) (h : Closed text bodies) :
    Closed ('#' :: '{' :: (body ++ '}' :: text)) (body :: bodies)

/-- Literal text has no bodies. -/
theorem filterMap_body?_pushLiteral (c : Char) (segments : List Segment) :
    (pushLiteral c segments).filterMap Segment.body? = segments.filterMap Segment.body? := by
  cases segments with
  | nil => rfl
  | cons segment rest => cases segment <;> rfl

namespace Closed

/-- The bodies are those that a scan finds. -/
theorem bodies_eq {text : Text} {bodies : List Text} (h : Closed text bodies) :
    parameter.bodies text = bodies := by
  unfold Delimiters.bodies
  induction h with
  | nil => rw [segments_nil]; rfl
  | char hplain _ ih => rw [parameter_braced.segments_char hplain, filterMap_body?_pushLiteral, ih]
  | escaped _ ih => rw [parameter_braced.segments_slash, List.filterMap_cons_none rfl, ih]
  | token hbody _ ih =>
    rw [parameter_braced.segments_body hbody,
      List.filterMap_cons_some (Segment.body?_token _), ih]

end Closed

/-- What no placeholder is opened in goes on so behind a character at which nothing starts. -/
theorem Terminated.of_cons {c : Char} {text : Text} (hplain : parameter.Plain c text)
    (h : parameter.Terminated (c :: text)) : parameter.Terminated text := by
  intro literal hmem
  rw [Terminated, parameter_braced.segments_char hplain] at h
  cases hsegments : parameter.segments text with
  | nil =>
    rw [hsegments] at hmem
    cases hmem
  | cons segment rest =>
    rw [hsegments] at h hmem
    cases segment with
    | literal first =>
      rcases List.mem_cons.mp hmem with hfirst | hrest
      · obtain rfl := Segment.literal.inj hfirst
        exact Text.breakOn_eq_none_of_cons (h (c :: literal) List.mem_cons_self)
      · exact h literal (List.mem_cons_of_mem _ hrest)
    | escapedOpening => exact h literal (List.mem_cons_of_mem _ hmem)
    | token body => exact h literal (List.mem_cons_of_mem _ hmem)

/-- A text in which no literal text opens a placeholder is closed. -/
theorem Terminated.exists_closed {text : Text} (h : parameter.Terminated text) :
    ∃ bodies, Closed text bodies := by
  induction text using parameter_braced.inductionOn with
  | nil => exact ⟨[], .nil⟩
  | char c text hplain ih =>
    obtain ⟨bodies, hbodies⟩ := ih (h.of_cons hplain)
    exact ⟨bodies, .char hplain hbodies⟩
  | slash text ih =>
    rw [Terminated, parameter_braced.segments_slash] at h
    obtain ⟨bodies, hbodies⟩ := ih fun literal hmem => h literal (List.mem_cons_of_mem _ hmem)
    exact ⟨bodies, .escaped hbodies⟩
  | token body text hbody ih =>
    rw [Terminated, parameter_braced.segments_body hbody] at h
    obtain ⟨bodies, hbodies⟩ := ih fun literal hmem => h literal (List.mem_cons_of_mem _ hmem)
    exact ⟨body :: bodies, .token hbody hbodies⟩
  | unclosed text hopen =>
    -- The opening delimiter would be literal, but no literal text has one.
    have hnone := h ('#' :: '{' :: text) (by
      rw [parameter_braced.segments_unclosed hopen]
      exact List.mem_cons_self)
    have hsome : Text.breakOn parameter.opening ('#' :: '{' :: text) = some ([], text) :=
      Text.breakOn_of_dropLead? parameter_braced.opening_ne_nil (Text.dropLead?_eq_some.mpr rfl)
    rw [hnone] at hsome
    cases hsome

/-- A text in which no literal text opens a placeholder is closed, with the bodies in it. -/
theorem Terminated.closed {text : Text} (h : parameter.Terminated text) :
    Closed text (parameter.bodies text) := by
  obtain ⟨bodies, hbodies⟩ := h.exists_closed
  rw [hbodies.bodies_eq]
  exact hbodies

end Delimiters

end SqlTemplate
