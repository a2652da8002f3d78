import SqlTemplate.Proofs.Scan.Segments
import SqlTemplate.Proofs.Trimming

/-!
# Bodies of placeholders

The body of a placeholder goes on to the first closing brace that has no backslash before it. What
makes a text such a body can be said without the text around it. Before a body is read, the braces
in it lose their backslashes.
-/

namespace SqlTemplate

namespace Text

/-- The first occurrence of a character. -/
theorem breakOn_char {c : Char} {before : Text} (h : c ∉ before) (after : Text) :
    breakOn [c] (before ++ c :: after) = some (before, after) := by
  induction before with
  | nil => exact breakOn_of_dropLead? (List.cons_ne_nil c []) (dropLead?_eq_some.mpr rfl)
  | cons e before ih =>
    rw [List.mem_cons, not_or] at h
    have hlead : dropLead? [c] (e :: (before ++ c :: after)) = none := by
      rw [dropLead?, if_neg h.1]
    rw [List.cons_append, breakOn_cons hlead, ih h.2]
    rfl

/-- A character does not occur before its first occurrence. -/
theorem not_mem_of_breakOn {c : Char} {text before after : Text}
    (h : breakOn [c] text = some (before, after)) : c ∉ before := by
  induction text generalizing before with
  | nil => cases h
  | cons e text ih =>
    by_cases hce : c = e
    · have hlead : dropLead? [c] (e :: text) = some text :=
        dropLead?_eq_some.mpr (by rw [hce]; rfl)
      rw [breakOn_of_dropLead? (List.cons_ne_nil c []) hlead] at h
      cases h
      exact List.not_mem_nil
    · have hlead : dropLead? [c] (e :: text) = none := by rw [dropLead?, if_neg hce]
      rw [breakOn_cons hlead] at h
      obtain ⟨⟨b, a⟩, hb, heq⟩ := Option.map_eq_some_iff.mp h
      cases heq
      exact List.not_mem_cons_of_ne_of_not_mem hce (ih hb)

/-- A character that does not occur is not found. -/
theorem breakOn_char_eq_none {c : Char} {text : Text} : breakOn [c] text = none ↔ c ∉ text := by
  constructor
  · rintro h hmem
    obtain ⟨before, after, rfl, hbefore⟩ := List.eq_append_cons_of_mem hmem
    rw [breakOn_char hbefore] at h
    cases h
  · intro h
    cases hbreak : breakOn [c] text with
    | none => rfl
    | some found =>
      obtain ⟨before, after⟩ := found
      exact absurd (by rw [eq_of_breakOn hbreak]; simp) h

end Text

namespace Delimiters

variable {d : Delimiters} {text before after : Text}

/-- An escaped closing delimiter belongs to the body. -/
theorem body?_of_escaped (h : Text.breakOn d.closing text = some (before, after))
    (hesc : escapes before = true) :
    d.body? text =
      (d.body? after).map fun (body, rest) => (before ++ d.closing ++ body, rest) := by
  rw [body?]
  split
  · rename_i hbreak
    rw [h] at hbreak
    cases hbreak
  · rename_i hbreak
    rw [h] at hbreak
    cases hbreak
    rw [dif_pos hesc]

/-- A closing delimiter that is not escaped ends the body. -/
theorem body?_of_closed (h : Text.breakOn d.closing text = some (before, after))
    (hesc : escapes before = false) : d.body? text = some (before, after) := by
  rw [body?]
  split
  · rename_i hbreak
    rw [h] at hbreak
    cases hbreak
  · rename_i hbreak
    rw [h] at hbreak
    cases hbreak
    rw [dif_neg (by simp [hesc])]

/-- A text that a closing brace right behind it ends: all braces in it that close are escaped, and
it does not escape the one behind it. -/
def IsBody (body : Text) : Prop :=
  escapes body = false ∧ ∀ before after, body = before ++ '}' :: after → escapes before = true

/-- The end of a text decides whether it escapes what follows. -/
theorem escapes_append {before after : Text} (h : after ≠ []) :
    escapes (before ++ after) = escapes after := by
  rw [escapes, escapes, List.getLast?_append, List.getLast?_eq_some_getLast h, Option.some_or]

/-- A text that does not end in a backslash does not do so behind its first character. -/
theorem escapes_of_cons {c : Char} {text : Text} (h : escapes (c :: text) = false) :
    escapes text = false := by
  cases text with
  | nil => rfl
  | cons e rest => rwa [escapes_cons (List.cons_ne_nil e rest)] at h

/-- Nothing is a body. -/
theorem isBody_nil : IsBody [] := ⟨rfl, fun before after h => by simp at h⟩

/-- A body goes on behind a character that is no closing brace. -/
theorem IsBody.cons {c : Char} {body : Text} (h : IsBody body) (hc : c ≠ '}')
    (hend : escapes (c :: body) = false) : IsBody (c :: body) := by
  refine ⟨hend, fun before after hsplit => ?_⟩
  cases before with
  | nil => exact absurd (List.cons.inj hsplit).1 hc
  | cons e before =>
    have hesc := h.2 before after (List.cons.inj hsplit).2
    rw [escapes_cons (ne_nil_of_escapes hesc), hesc]

/-- A body behind an escaped brace. -/
theorem IsBody.after_brace {before after : Text} (h : IsBody (before ++ '}' :: after)) :
    IsBody after := by
  obtain ⟨hend, hbraces⟩ := h
  refine ⟨?_, fun u w hsplit => ?_⟩
  · cases after with
    | nil => rfl
    | cons c rest =>
      rw [escapes_append (List.cons_ne_nil _ _), escapes_cons (List.cons_ne_nil c rest)] at hend
      exact hend
  · have hesc := hbraces (before ++ '}' :: u) w (by simp [hsplit])
    rw [escapes_append (List.cons_ne_nil _ _)] at hesc
    cases u with
    | nil => exact absurd hesc (by decide)
    | cons c u =>
      rw [escapes_cons (List.cons_ne_nil c u)] at hesc
      exact hesc

/-- A body ends at the closing brace behind it. -/
theorem IsBody.body?_eq {body : Text} (h : IsBody body) (rest : Text) :
    parameter.body? (body ++ '}' :: rest) = some (body, rest) := by
  cases hbreak : Text.breakOn ['}'] body with
  | none =>
    exact body?_of_closed (Text.breakOn_char (Text.breakOn_char_eq_none.mp hbreak) rest) h.1
  | some found =>
    obtain ⟨before, after⟩ := found
    have hsplit : body = before ++ '}' :: after := by simpa using Text.eq_of_breakOn hbreak
    have hlater := (hsplit ▸ h).after_brace.body?_eq rest
    have hfirst := Text.breakOn_char (Text.not_mem_of_breakOn hbreak) (after ++ '}' :: rest)
    rw [hsplit, List.append_assoc, List.cons_append,
      body?_of_escaped hfirst (h.2 before after hsplit), hlater]
    simp [parameter]
  termination_by body.length
  decreasing_by
    rw [hsplit, List.length_append, List.length_cons]
    omega

/-- A body goes on behind its first closing brace if that is escaped. -/
theorem IsBody.brace {before after : Text} (h : IsBody after) (hbefore : '}' ∉ before)
    (hesc : escapes before = true) : IsBody (before ++ '}' :: after) := by
  obtain ⟨hend, hbraces⟩ := h
  refine ⟨?_, fun u w hsplit => ?_⟩
  · rw [escapes_append (List.cons_ne_nil _ _)]
    cases after with
    | nil => rfl
    | cons c rest => rw [escapes_cons (List.cons_ne_nil c rest), hend]
  · rcases List.append_eq_append_iff.mp hsplit with ⟨v, rfl, hv⟩ | ⟨v, rfl, hv⟩
    · cases v with
      | nil => simpa using hesc
      | cons c v =>
        obtain ⟨rfl, rfl⟩ := List.cons.inj hv
        have hv' := hbraces v w rfl
        rw [escapes_append (List.cons_ne_nil _ _), escapes_cons (ne_nil_of_escapes hv'), hv']
    · cases v with
      | nil => simpa using hesc
      | cons c v =>
        obtain ⟨rfl, -⟩ := List.cons.inj hv
        simp at hbefore

/-- What is found as a body is one. -/
theorem isBody_of_body? {text body rest : Text} (h : parameter.body? text = some (body, rest)) :
    IsBody body := by
  fun_induction body? parameter text generalizing body with
  | case1 => cases h
  | case2 text before after hbreak hesc _ ih =>
    obtain ⟨⟨b, r⟩, hb, heq⟩ := Option.map_eq_some_iff.mp h
    cases heq
    have hbody := (ih hb).brace (Text.not_mem_of_breakOn hbreak) hesc
    rw [List.append_assoc]
    exact hbody
  | case3 text before after hbreak hesc =>
    cases h
    refine ⟨by simpa using hesc, fun u w hsplit => ?_⟩
    exact absurd (by rw [hsplit]; simp) (Text.not_mem_of_breakOn hbreak)

/-- A body goes on from a character of it that escapes no brace. -/
theorem IsBody.tail {c : Char} {body : Text} (h : IsBody (c :: body))
    (hesc : ¬(c = '\\' ∧ body.head? = some '}')) : IsBody body := by
  refine ⟨escapes_of_cons h.1, fun before after hsplit => ?_⟩
  have hbefore := h.2 (c :: before) after (by rw [hsplit, List.cons_append])
  cases before with
  | nil => exact absurd ⟨by simpa [escapes] using hbefore, by simp [hsplit]⟩ hesc
  | cons e before => rwa [escapes_cons (List.cons_ne_nil e before)] at hbefore

/-- A closing brace ends the body before it. -/
theorem body?_brace (rest : Text) : parameter.body? ('}' :: rest) = some ([], rest) :=
  isBody_nil.body?_eq rest

/-- An escaped brace belongs to the body. -/
theorem body?_slash (rest : Text) :
    parameter.body? ('\\' :: '}' :: rest) =
      (parameter.body? rest).map fun (body, after) => ('\\' :: '}' :: body, after) := by
  have hbefore : '}' ∉ ['\\'] := by decide
  have hbreak : Text.breakOn parameter.closing ('\\' :: '}' :: rest) = some (['\\'], rest) :=
    Text.breakOn_char hbefore rest
  exact body?_of_escaped hbreak rfl

/-- A character that neither is a closing brace nor escapes one belongs to the body. -/
theorem body?_cons {c : Char} {text : Text} (hc : c ≠ '}')
    (hesc : ¬(c = '\\' ∧ text.head? = some '}')) :
    parameter.body? (c :: text) =
      (parameter.body? text).map fun (body, after) => (c :: body, after) := by
  cases hbody : parameter.body? text with
  | some found =>
    obtain ⟨body, after⟩ := found
    have hsplit : text = body ++ '}' :: after := by
      rw [eq_of_body? hbody]
      simp [parameter]
    have hclosed : IsBody (c :: body) := by
      refine (isBody_of_body? hbody).cons hc ?_
      cases body with
      | nil => simpa [escapes, hsplit] using hesc
      | cons e rest =>
        rw [escapes_cons (List.cons_ne_nil e rest)]
        exact (isBody_of_body? hbody).1
    rw [hsplit]
    exact hclosed.body?_eq after
  | none =>
    cases hlonger : parameter.body? (c :: text) with
    | none => rfl
    | some found =>
      -- A body of the longer text would be one of the text behind its first character.
      obtain ⟨body, after⟩ := found
      have hsplit : c :: text = body ++ '}' :: after := by
        rw [eq_of_body? hlonger]
        simp [parameter]
      have hclosed := isBody_of_body? hlonger
      cases body with
      | nil => exact absurd (List.cons.inj hsplit).1 hc
      | cons e rest =>
        rw [List.cons_append, List.cons.injEq] at hsplit
        obtain ⟨rfl, rfl⟩ := hsplit
        have htail := hclosed.tail fun h =>
          hesc ⟨h.1, by rw [List.head?_append, h.2, Option.some_or]⟩
        rw [htail.body?_eq after] at hbody
        cases hbody

/-- Nothing is nothing without its escapes. -/
theorem unescape_nil : parameter.unescape [] = [] := by
  rw [unescape, Text.replaceAll]

/-- An escaped brace loses its backslash. -/
theorem unescape_escaped (rest : Text) :
    parameter.unescape ('\\' :: '}' :: rest) = '}' :: parameter.unescape rest := by
  rw [unescape, Text.replaceAll, if_pos rfl]
  rfl

/-- A character that is no backslash before a brace is kept. -/
theorem unescape_cons {c : Char} {rest : Text} (h : ¬(c = '\\' ∧ rest.head? = some '}')) :
    parameter.unescape (c :: rest) = c :: parameter.unescape rest := by
  rw [unescape, Text.replaceAll]
  by_cases hc : c = '\\'
  · rw [if_pos hc]
    split
    · rename_i hlead
      obtain rfl := Text.dropLead?_eq_some.mp hlead
      exact absurd ⟨hc, rfl⟩ h
    · rfl
  · rw [if_neg hc]
    rfl

/-- A text without backslashes stays in front. -/
theorem unescape_append {before : Text} (h : '\\' ∉ before) (after : Text) :
    parameter.unescape (before ++ after) = before ++ parameter.unescape after := by
  induction before with
  | nil => rfl
  | cons c before ih =>
    rw [List.mem_cons, not_or] at h
    rw [List.cons_append, unescape_cons (fun hc => h.1 hc.1.symm), ih h.2, List.cons_append]

/-- Only a brace can come to stand at the start. -/
theorem head?_unescape (text : Text) :
    (parameter.unescape text).head? = text.head? ∨
      (parameter.unescape text).head? = some '}' := by
  cases text with
  | nil => exact .inl (by rw [unescape_nil])
  | cons c rest =>
    by_cases hc : c = '\\' ∧ rest.head? = some '}'
    · obtain ⟨rfl, hrest⟩ := hc
      obtain ⟨more, rfl⟩ := List.head?_eq_some_iff.mp hrest
      exact .inr (by rw [unescape_escaped]; rfl)
    · exact .inl (by rw [unescape_cons hc]; rfl)

/-- A start without braces has been there before. -/
theorem exists_append_of_unescape {text before after : Text}
    (h : parameter.unescape text = before ++ after) (hbefore : '}' ∉ before) :
    ∃ rest, text = before ++ rest ∧ parameter.unescape rest = after := by
  induction before generalizing text with
  | nil => exact ⟨text, rfl, h⟩
  | cons c before ih =>
    rw [List.mem_cons, not_or] at hbefore
    cases text with
    | nil =>
      rw [unescape_nil] at h
      cases h
    | cons e rest =>
      by_cases he : e = '\\' ∧ rest.head? = some '}'
      · obtain ⟨rfl, hrest⟩ := he
        obtain ⟨more, rfl⟩ := List.head?_eq_some_iff.mp hrest
        rw [unescape_escaped] at h
        exact absurd (List.cons.inj h).1 hbefore.1
      · rw [unescape_cons he] at h
        obtain ⟨rfl, htail⟩ := List.cons.inj h
        obtain ⟨more, rfl, hmore⟩ := ih htail hbefore.2
        exact ⟨more, rfl, hmore⟩

/-- Blanks before a text are trimmed before or after its escapes are resolved. -/
theorem trimStart_unescape (text : Text) :
    Text.trimStart (parameter.unescape text) = parameter.unescape text.trimStart := by
  have hsplit : text.takeWhile isBlank ++ text.trimStart = text :=
    List.takeWhile_append_dropWhile
  have hslash : '\\' ∉ text.takeWhile isBlank := fun hmem =>
    absurd (List.mem_takeWhile_imp hmem) (by decide)
  have hstart : Text.trimStart (parameter.unescape text.trimStart) =
      parameter.unescape text.trimStart := by
    refine Text.trimStart_eq_self fun c hc => ?_
    rcases head?_unescape text.trimStart with hhead | hhead
    · exact Text.head?_trimStart (hhead ▸ hc)
    · obtain rfl := Option.some.inj (hhead.symm.trans hc)
      rfl
  calc Text.trimStart (parameter.unescape text)
      = Text.trimStart (text.takeWhile isBlank ++ parameter.unescape text.trimStart) := by
        rw [← unescape_append hslash, hsplit]
    _ = parameter.unescape text.trimStart := by
        rw [Text.trimStart_append fun _ hc => List.mem_takeWhile_imp hc, hstart]

end Delimiters

end SqlTemplate
