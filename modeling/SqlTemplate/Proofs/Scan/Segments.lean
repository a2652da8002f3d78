import SqlTemplate.Proofs.Scan.Bodies

/-!
# Cutting a text piece by piece

The segments of a text are found from left to right: a character at which nothing starts belongs to
the literal text, an escaped opening and a token stand for themselves.
-/

namespace SqlTemplate

namespace Text

/-- A lead is dropped exactly from a text that starts with it. -/
theorem dropLead?_eq_some {lead text rest : Text} :
    dropLead? lead text = some rest ↔ text = lead ++ rest := by
  refine ⟨eq_append_of_dropLead?, ?_⟩
  rintro rfl
  induction lead with
  | nil => rfl
  | cons c lead ih => rw [List.cons_append, dropLead?, if_pos rfl, ih]

/-- A pattern that a text starts with is found there. -/
theorem breakOn_of_dropLead? {pattern text rest : Text} (hpattern : pattern ≠ [])
    (h : dropLead? pattern text = some rest) : breakOn pattern text = some ([], rest) := by
  cases text with
  | nil =>
    cases pattern with
    | nil => exact absurd rfl hpattern
    | cons c pattern => cases h
  | cons c text => simp only [breakOn, h]

/-- A pattern that a text does not start with is found behind its first character. -/
theorem breakOn_cons {pattern text : Text} {c : Char}
    (h : dropLead? pattern (c :: text) = none) :
    breakOn pattern (c :: text) =
      (breakOn pattern text).map fun (before, after) => (c :: before, after) := by
  simp only [breakOn, h]

/-- A pattern that does not occur does not occur behind the first character. -/
theorem breakOn_eq_none_of_cons {pattern text : Text} {c : Char}
    (h : breakOn pattern (c :: text) = none) : breakOn pattern text = none := by
  cases hlead : dropLead? pattern (c :: text) with
  | some rest =>
    simp only [breakOn, hlead] at h
    cases h
  | none =>
    rw [breakOn_cons hlead] at h
    exact Option.map_eq_none_iff.mp h

end Text

namespace Delimiters

variable {d : Delimiters} {text before after body rest : Text}

/-- An opening delimiter that does not occur leaves all the text literal. -/
theorem segments_of_none (htext : text ≠ []) (h : Text.breakOn d.opening text = none) :
    d.segments text = [.literal text] := by
  rw [segments, if_neg (by simpa using htext)]
  split
  · rfl
  · rename_i hbreak
    rw [h] at hbreak
    cases hbreak

/-- An opening delimiter after a backslash stands for itself. -/
theorem segments_of_escaped (h : Text.breakOn d.opening text = some (before, after))
    (hesc : escapes before = true) :
    d.segments text = literals before.dropLast ++ .escapedOpening :: d.segments after := by
  have htext : text ≠ [] := by
    rintro rfl
    have := length_of_escaped h hesc
    simp at this
  rw [segments, if_neg (by simpa using htext)]
  split
  · rename_i hbreak
    rw [h] at hbreak
    cases hbreak
  · rename_i hbreak
    rw [h] at hbreak
    cases hbreak
    rw [dif_pos hesc]

/-- An opening delimiter that is never closed is literal. -/
theorem segments_of_open (htext : text ≠ [])
    (h : Text.breakOn d.opening text = some (before, after))
    (hesc : escapes before = false) (hbody : d.body? after = none) :
    d.segments text = [.literal text] := by
  rw [segments, if_neg (by simpa using htext)]
  split
  · rfl
  · rename_i hbreak
    rw [h] at hbreak
    cases hbreak
    rw [dif_neg (by simp [hesc])]
    split
    · rfl
    · rename_i hsome
      rw [hbody] at hsome
      cases hsome

/-- A token stands behind the literal text before it. -/
theorem segments_of_token (h : Text.breakOn d.opening text = some (before, after))
    (hesc : escapes before = false) (hbody : d.body? after = some (body, rest)) :
    d.segments text = literals before ++ .token body :: d.segments rest := by
  have htext : text ≠ [] := by
    rintro rfl
    have := length_of_token h hbody
    simp at this
  rw [segments, if_neg (by simpa using htext)]
  split
  · rename_i hbreak
    rw [h] at hbreak
    cases hbreak
  · rename_i hbreak
    rw [h] at hbreak
    cases hbreak
    rw [dif_neg (by simp [hesc])]
    split
    · rename_i hnone
      rw [hbody] at hnone
      cases hnone
    · rename_i hsome
      rw [hbody] at hsome
      cases hsome
      rfl

/-- Segments with a character put before them, as literal text. -/
def pushLiteral (c : Char) : List Segment → List Segment
  | .literal text :: rest => .literal (c :: text) :: rest
  | segments => .literal [c] :: segments

/-- Nothing starts at a character before a text: no opening delimiter, and no escaped one. -/
def Plain (d : Delimiters) (c : Char) (text : Text) : Prop :=
  Text.dropLead? d.opening (c :: text) = none ∧ (c = '\\' → Text.dropLead? d.opening text = none)

/-- Only a backslash at its end makes a text escape what follows. -/
theorem escapes_cons {c : Char} {text : Text} (htext : text ≠ []) :
    escapes (c :: text) = escapes text := by
  obtain ⟨e, rest, rfl⟩ := List.exists_cons_of_ne_nil htext
  simp [escapes]

/-- No text has no segments. -/
theorem segments_nil (d : Delimiters) : d.segments [] = [] := by
  rw [segments]
  rfl

/-- A character at which nothing starts goes to the literal text. -/
theorem segments_cons (hopening : d.opening ≠ []) {c : Char} (h : d.Plain c text) :
    d.segments (c :: text) = pushLiteral c (d.segments text) := by
  obtain ⟨hopen, hescape⟩ := h
  have hbreak := Text.breakOn_cons hopen
  cases hfound : Text.breakOn d.opening text with
  | none =>
    rw [hfound] at hbreak
    rw [segments_of_none (List.cons_ne_nil c text) hbreak]
    cases text with
    | nil => rw [segments_nil]; rfl
    | cons e rest => rw [segments_of_none (List.cons_ne_nil e rest) hfound]; rfl
  | some found =>
    obtain ⟨before, after⟩ := found
    rw [hfound] at hbreak
    have htext : text ≠ [] := by
      rintro rfl
      simp [Text.breakOn, hopening] at hfound
    cases before with
    | nil =>
      -- The opening delimiter stands right behind the character, which is no backslash.
      have hlead : Text.dropLead? d.opening text = some after :=
        Text.dropLead?_eq_some.mpr (by simpa using Text.eq_of_breakOn hfound)
      have hc : escapes [c] = false := by
        have hne : c ≠ '\\' := by
          intro hslash
          rw [hescape hslash] at hlead
          cases hlead
        simpa [escapes] using hne
      cases hbody : d.body? after with
      | none =>
        rw [segments_of_open (List.cons_ne_nil c text) hbreak hc hbody,
          segments_of_open htext hfound rfl hbody]
        rfl
      | some found =>
        rw [segments_of_token hbreak hc hbody, segments_of_token hfound rfl hbody]
        rfl
    | cons e before =>
      have hsame : escapes (c :: e :: before) = escapes (e :: before) :=
        escapes_cons (List.cons_ne_nil e before)
      cases hesc : escapes (e :: before) with
      | true =>
        rw [segments_of_escaped hbreak (hsame.trans hesc), segments_of_escaped hfound hesc]
        cases before <;> rfl
      | false =>
        cases hbody : d.body? after with
        | none =>
          rw [segments_of_open (List.cons_ne_nil c text) hbreak (hsame.trans hesc) hbody,
            segments_of_open htext hfound hesc hbody]
          rfl
        | some found =>
          rw [segments_of_token hbreak (hsame.trans hesc) hbody,
            segments_of_token hfound hesc hbody]
          rfl

/-- A backslash and an opening delimiter are an escaped one. -/
theorem segments_escaped (hopening : d.opening ≠ [])
    (hplain : Text.dropLead? d.opening ('\\' :: (d.opening ++ text)) = none) :
    d.segments ('\\' :: (d.opening ++ text)) = .escapedOpening :: d.segments text := by
  have hlead := Text.dropLead?_eq_some.mpr (rfl : d.opening ++ text = d.opening ++ text)
  have hbreak := Text.breakOn_cons hplain
  rw [Text.breakOn_of_dropLead? hopening hlead] at hbreak
  rw [segments_of_escaped hbreak rfl]
  rfl

/-- An opening delimiter, a body that is closed and the closing delimiter are a token. -/
theorem segments_token (hopening : d.opening ≠ []) (hbody : d.body? text = some (body, rest)) :
    d.segments (d.opening ++ text) = .token body :: d.segments rest := by
  have hlead := Text.dropLead?_eq_some.mpr (rfl : d.opening ++ text = d.opening ++ text)
  rw [segments_of_token (Text.breakOn_of_dropLead? hopening hlead) rfl hbody]
  rfl

/-- An opening delimiter behind which no body is closed makes all the text literal. -/
theorem segments_open (hopening : d.opening ≠ []) (hbody : d.body? text = none) :
    d.segments (d.opening ++ text) = [.literal (d.opening ++ text)] := by
  have hlead := Text.dropLead?_eq_some.mpr (rfl : d.opening ++ text = d.opening ++ text)
  exact segments_of_open (by simp [hopening]) (Text.breakOn_of_dropLead? hopening hlead) rfl hbody

end Delimiters

end SqlTemplate
