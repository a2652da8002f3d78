import SqlTemplate.Proofs.Scan.Bodies
import SqlTemplate.Proofs.Scan.Braces

/-!
# Tokens of a mark and braces

Parameters and substitutions have tokens of one shape: a mark and a brace open them, and a brace
closes them. A text with such tokens starts with one of a few things, and for each of them there is
one law for its segments and one for its scan.
-/

namespace SqlTemplate.Delimiters

variable {d : Delimiters} {mark : Char}

/-- A text without a closing delimiter has no body. -/
theorem body?_of_none {text : Text} (h : Text.breakOn d.closing text = none) :
    d.body? text = none := by
  rw [body?]
  split
  · rfl
  · rename_i hbreak
    rw [h] at hbreak
    cases hbreak

/-- Where a body ends is a matter of the closing delimiter. -/
theorem body?_congr {e : Delimiters} (h : d.closing = e.closing) (text : Text) :
    d.body? text = e.body? text := by
  fun_induction body? e text with
  | case1 text hbreak => exact body?_of_none (h ▸ hbreak)
  | case2 text before after hbreak hesc _ ih =>
    rw [body?_of_escaped (h ▸ hbreak) hesc, ih, h]
  | case3 text before after hbreak hesc =>
    exact body?_of_closed (h ▸ hbreak) (by simpa using hesc)

/-- Escapes in a body are a matter of the closing delimiter. -/
theorem unescape_congr {e : Delimiters} (h : d.closing = e.closing) (body : Text) :
    d.unescape body = e.unescape body := by
  rw [unescape, unescape, h]

/-- A mark and a brace open a token, and a brace closes it. -/
structure Braced (d : Delimiters) (mark : Char) : Prop where
  opening : d.opening = [mark, '{']
  closing : d.closing = ['}']
  mark_ne_slash : mark ≠ '\\'
  mark_ne_brace : mark ≠ '{'

/-- Parameters are marked by `#`. -/
theorem parameter_braced : parameter.Braced '#' := ⟨rfl, rfl, by decide, by decide⟩

/-- Substitutions are marked by `$`. -/
theorem substitution_braced : substitution.Braced '$' := ⟨rfl, rfl, by decide, by decide⟩

/-- Both kinds of tokens have a mark. -/
theorem exists_braced (h : d = parameter ∨ d = substitution) : ∃ mark, d.Braced mark := by
  rcases h with rfl | rfl
  · exact ⟨'#', parameter_braced⟩
  · exact ⟨'$', substitution_braced⟩

namespace Braced

/-- Tokens have an opening delimiter. -/
theorem opening_ne_nil (hd : d.Braced mark) : d.opening ≠ [] := by
  rw [hd.opening]
  exact List.cons_ne_nil _ _

/-- A body ends at the closing brace behind it. -/
theorem body?_eq (hd : d.Braced mark) {body : Text} (h : IsBody body) (rest : Text) :
    d.body? (body ++ '}' :: rest) = some (body, rest) := by
  rw [body?_congr (e := parameter) hd.closing, h.body?_eq]

/-- What is found as a body is one, and a brace closes it. -/
theorem isBody_of_body? (hd : d.Braced mark) {text body rest : Text}
    (h : d.body? text = some (body, rest)) : IsBody body ∧ text = body ++ '}' :: rest := by
  rw [body?_congr (e := parameter) hd.closing] at h
  refine ⟨Delimiters.isBody_of_body? h, ?_⟩
  rw [eq_of_body? h]
  simp [parameter]

/-- Nothing starts at a character unless it is the mark before a brace, or a backslash before
both. -/
theorem plain_iff (hd : d.Braced mark) {c : Char} {text : Text} :
    d.Plain c text ↔ ¬(c = mark ∧ text.head? = some '{') ∧
      ¬(c = '\\' ∧ ∃ rest, text = mark :: '{' :: rest) := by
  have hlead : ∀ t : Text, Text.dropLead? d.opening t = none ↔ ¬∃ rest, t = mark :: '{' :: rest := by
    intro t
    rw [Option.eq_none_iff_forall_ne_some, hd.opening]
    constructor
    · rintro h ⟨rest, rfl⟩
      exact h rest (Text.dropLead?_eq_some.mpr rfl)
    · intro h rest hsome
      exact h ⟨rest, Text.dropLead?_eq_some.mp hsome⟩
  rw [Plain, hlead, hlead]
  have hfirst : (∃ rest, c :: text = mark :: '{' :: rest) ↔ c = mark ∧ text.head? = some '{' := by
    rw [List.head?_eq_some_iff]
    constructor
    · rintro ⟨rest, hsplit⟩
      obtain ⟨hc, htext⟩ := List.cons.inj hsplit
      exact ⟨hc, rest, htext⟩
    · rintro ⟨rfl, rest, rfl⟩
      exact ⟨rest, rfl⟩
  rw [hfirst, not_and (a := c = '\\')]

/-- What stands at the start of a text: a character at which nothing starts, an escaped opening
delimiter or an opening one. -/
theorem start_cases (hd : d.Braced mark) (c : Char) (text : Text) :
    d.Plain c text ∨ (∃ rest, c = '\\' ∧ text = mark :: '{' :: rest) ∨
      ∃ rest, c = mark ∧ text = '{' :: rest := by
  by_cases hopen : c = mark ∧ text.head? = some '{'
  · obtain ⟨hc, hhead⟩ := hopen
    obtain ⟨rest, htext⟩ := List.head?_eq_some_iff.mp hhead
    exact .inr (.inr ⟨rest, hc, htext⟩)
  · by_cases hescape : c = '\\' ∧ ∃ rest, text = mark :: '{' :: rest
    · obtain ⟨hc, rest, htext⟩ := hescape
      exact .inr (.inl ⟨rest, hc, htext⟩)
    · exact .inl (hd.plain_iff.mpr ⟨hopen, hescape⟩)

/-- A backslash before an opening delimiter is no opening delimiter itself. -/
theorem dropLead?_slash (hd : d.Braced mark) (text : Text) :
    Text.dropLead? d.opening ('\\' :: text) = none := by
  rw [hd.opening, Text.dropLead?, if_neg hd.mark_ne_slash]

/-- The segments behind a character at which nothing starts. -/
theorem segments_char (hd : d.Braced mark) {c : Char} {text : Text} (h : d.Plain c text) :
    d.segments (c :: text) = pushLiteral c (d.segments text) :=
  segments_cons hd.opening_ne_nil h

/-- The segments behind an escaped opening delimiter. -/
theorem segments_slash (hd : d.Braced mark) (text : Text) :
    d.segments ('\\' :: mark :: '{' :: text) = .escapedOpening :: d.segments text := by
  have h := segments_escaped hd.opening_ne_nil (hd.dropLead?_slash (d.opening ++ text))
  simpa [hd.opening] using h

/-- The segments behind a token. -/
theorem segments_body (hd : d.Braced mark) {body : Text} (h : IsBody body) (text : Text) :
    d.segments (mark :: '{' :: (body ++ '}' :: text)) = .token body :: d.segments text := by
  have htoken := segments_token hd.opening_ne_nil (hd.body?_eq h text)
  simpa [hd.opening] using htoken

/-- An opening delimiter that is never closed is literal, with all that follows it. -/
theorem segments_unclosed (hd : d.Braced mark) {text : Text} (h : d.body? text = none) :
    d.segments (mark :: '{' :: text) = [.literal (mark :: '{' :: text)] := by
  have hopen := segments_open hd.opening_ne_nil h
  simpa [hd.opening] using hopen

/-- What holds of no text, and goes on to hold behind whatever a text can start with, holds of all
texts. -/
theorem inductionOn (hd : d.Braced mark) {motive : Text → Prop} (nil : motive [])
    (char : ∀ c text, d.Plain c text → motive text → motive (c :: text))
    (slash : ∀ text, motive text → motive ('\\' :: mark :: '{' :: text))
    (token : ∀ body text, IsBody body → motive text →
      motive (mark :: '{' :: (body ++ '}' :: text)))
    (unclosed : ∀ text, d.body? text = none → motive (mark :: '{' :: text)) (text : Text) :
    motive text := by
  induction hlength : text.length using Nat.strongRecOn generalizing text with
  | ind n ih =>
    cases text with
    | nil => exact nil
    | cons c text =>
      rcases hd.start_cases c text with hplain | ⟨rest, rfl, rfl⟩ | ⟨rest, rfl, rfl⟩
      · exact char c text hplain (ih text.length (by simp [← hlength]) text rfl)
      · exact slash rest (ih rest.length (by simp [← hlength]; omega) rest rfl)
      · cases hbody : d.body? rest with
        | none => exact unclosed rest hbody
        | some found =>
          obtain ⟨body, after⟩ := found
          obtain ⟨hclosed, rfl⟩ := hd.isBody_of_body? hbody
          exact token body after hclosed (ih after.length (by simp [← hlength]; omega) after rfl)

end Braced

section Scanning

variable {m : Type → Type} [Monad m] [LawfulMonad m] (handle : Text → m Text)

/-- There is nothing to scan in no text. -/
theorem scan_nil (d : Delimiters) : d.scan handle [] = pure [] := by
  simp [scan_eq, segments_nil]

/-- A scan keeps a literal character that segments are given. -/
theorem mapM_resolve_pushLiteral (d : Delimiters) (c : Char) (segments : List Segment) :
    List.flatten <$> (pushLiteral c segments).mapM (d.resolve handle) =
      (fun out => c :: out) <$> (List.flatten <$> segments.mapM (d.resolve handle)) := by
  cases segments with
  | nil => simp [pushLiteral, resolve]
  | cons segment rest => cases segment <;> simp [pushLiteral, resolve]

/-- A scan in terms of the segments. -/
theorem scan_eq_map (d : Delimiters) (text : Text) :
    d.scan handle text = List.flatten <$> (d.segments text).mapM (d.resolve handle) := by
  rw [scan_eq, map_eq_pure_bind]

namespace Braced

/-- A character at which nothing starts is kept. -/
theorem scan_char (hd : d.Braced mark) {c : Char} {text : Text} (h : d.Plain c text) :
    d.scan handle (c :: text) = (fun out => c :: out) <$> d.scan handle text := by
  rw [scan_eq_map, scan_eq_map, hd.segments_char h, mapM_resolve_pushLiteral]

/-- An escaped opening delimiter loses its backslash. -/
theorem scan_slash (hd : d.Braced mark) (text : Text) :
    d.scan handle ('\\' :: mark :: '{' :: text) =
      (fun out => mark :: '{' :: out) <$> d.scan handle text := by
  rw [scan_eq_map, scan_eq_map, hd.segments_slash]
  simp [resolve, hd.opening]

/-- A token is handled before what follows it. -/
theorem scan_body (hd : d.Braced mark) {body : Text} (h : IsBody body) (text : Text) :
    d.scan handle (mark :: '{' :: (body ++ '}' :: text)) = (do
      let out ← handle (d.unescape body)
      let rest ← d.scan handle text
      return out ++ rest) := by
  rw [scan_eq_map, scan_eq_map, hd.segments_body h]
  simp [resolve]

end Braced

end Scanning

end SqlTemplate.Delimiters
