import SqlTemplate.Proofs.Mapping.Reordering
import SqlTemplate.Proofs.Statement.Marked
import SqlTemplate.Proofs.Statement.Shrinking

/-!
# Reordered attributes in statements

A placeholder is read for its mapping only. So a placeholder may be exchanged for another one with
the same mapping, wherever it stands in a statement; in particular its attributes may be put in
another order.
-/

namespace SqlTemplate.Prepared

open Delimiters Results

/-- Segments that are the same, or placeholders with the one body and with the other. -/
inductive Exchanged (body other : Text) : Segment → Segment → Prop
  | same (segment : Segment) : Exchanged body other segment segment
  | token {text changed : Text} (htext : parameter.unescape text = body)
    (hchanged : parameter.unescape changed = other) :
    Exchanged body other (.token text) (.token changed)

variable {body other : Text} {segments changed : List Segment}

/-- Exchanged placeholders are replaced by the same markers. -/
theorem pieces_exchanged (h : List.Forall₂ (Exchanged body other) segments changed)
    (style : MarkerStyle) (count : ℕ) :
    pieces style count segments = pieces style count changed := by
  induction h generalizing count with
  | nil => rfl
  | @cons segment _ _ _ hsegment _ ih =>
    cases hsegment with
    | same =>
      cases segment with
      | literal text => rw [pieces, pieces, ih]
      | escapedOpening => rw [pieces, pieces, ih]
      | token text => rw [pieces, pieces, ih]
    | token => rw [pieces, pieces, ih]

/-- Exchanged placeholders have the same mappings if the two bodies have. -/
theorem mappings_exchanged {known : Surroundings}
    (hsame : ∀ m, Mapping.ofBody known body = .ok m ↔ Mapping.ofBody known other = .ok m)
    (h : List.Forall₂ (Exchanged body other) segments changed) (mappings : List Mapping) :
    ((segments.filterMap Segment.body?).map parameter.unescape).mapM (Mapping.ofBody known) =
        .ok mappings ↔
      ((changed.filterMap Segment.body?).map parameter.unescape).mapM (Mapping.ofBody known) =
        .ok mappings := by
  rw [mapM_eq_ok, mapM_eq_ok]
  induction h generalizing mappings with
  | nil => rfl
  | @cons segment _ _ _ hsegment _ ih =>
    cases hsegment with
    | same =>
      cases segment with
      | literal text => exact ih mappings
      | escapedOpening => exact ih mappings
      | token text =>
        simp only [List.filterMap_cons_some (Segment.body?_token _), List.map_cons,
          List.forall₂_cons_left_iff, ih]
    | token htext hchanged =>
      simp only [List.filterMap_cons_some (Segment.body?_token _), List.map_cons, htext, hchanged,
        List.forall₂_cons_left_iff, hsame, ih]

/-- A scan makes the same text and the same mappings of exchanged placeholders. -/
theorem run_scan_exchanged {known : Surroundings} {sql new : Text}
    (hsame : ∀ m, Mapping.ofBody known body = .ok m ↔ Mapping.ofBody known other = .ok m)
    (h : List.Forall₂ (Exchanged body other) (parameter.segments sql) (parameter.segments new))
    (style : MarkerStyle) (found : Text × List Mapping) :
    (parameter.scan (mark style known) sql).run [] = .ok found ↔
      (parameter.scan (mark style known) new).run [] = .ok found := by
  simp only [scan_eq, StateT.run_bind, run_mapM_resolve, bind_assoc, pure_bind, bind_eq_ok,
    pieces_exchanged h, mappings_exchanged hsame h]

/-- A statement is prepared alike if its placeholders are exchanged for others with the same
mapping. -/
theorem ofText_exchanged {known : Surroundings} {sql new : Text}
    (hsame : ∀ m, Mapping.ofBody known body = .ok m ↔ Mapping.ofBody known other = .ok m)
    (h : List.Forall₂ (Exchanged body other) (parameter.segments sql) (parameter.segments new))
    (config : Config) (statement : Prepared) :
    ofText config known sql = .ok statement ↔ ofText config known new = .ok statement := by
  have hscan : ∀ found, (parameter.scan (mark config.markers known)
        (scanned config sql)).run [] = .ok found ↔
      (parameter.scan (mark config.markers known) (scanned config new)).run [] = .ok found := by
    intro found
    unfold scanned
    -- Blanks may be shrunk after the scan as well, where the bodies count no more.
    split
    · rw [scan_shrink (yields_mark config.markers known),
        scan_shrink (yields_mark config.markers known), StateT.run_map, StateT.run_map]
      simp only [map_eq_pure_bind, bind_eq_ok, run_scan_exchanged hsame h]
    · exact run_scan_exchanged hsame h config.markers found
  have hrun (text : Text) : ofText config known text =
      (parameter.scan (mark config.markers known) (scanned config text)).run [] >>=
        fun found => pure (⟨found.1, found.2⟩ : Prepared) := rfl
  simp only [hrun, bind_eq_ok, hscan]

/-- A text with neither closing braces nor backslashes is the body of one placeholder. -/
theorem segments_placeholder {text : Text} (hbrace : '}' ∉ text) (hslash : '\\' ∉ text) :
    parameter.segments ('#' :: '{' :: (text ++ ['}'])) = [.token text] ∧
      parameter.unescape text = text := by
  have hclosed : IsBody text := by
    refine ⟨?_, fun before after hsplit => ?_⟩
    · rw [escapes, beq_eq_false_iff_ne]
      exact fun hlast => hslash (List.mem_of_getLast? hlast)
    · exact absurd (hsplit ▸ List.mem_append_right _ List.mem_cons_self) hbrace
  have hunescape := unescape_append hslash []
  rw [unescape_nil, List.append_nil] at hunescape
  rw [parameter_braced.segments_body hclosed, segments_nil]
  exact ⟨rfl, hunescape⟩

/-- The attributes of a placeholder may be put in any order if no key stands twice: there is a
body with the new order, and each such body has the same mapping. A statement with the one body in
place of the other is prepared alike, or neither of the two is. -/
theorem ofText_reordered {p : Placeholder} {attributes : List (Text × Text)}
    (hbody : Placeholder.parse body = .ok p)
    (hkeys : ((Placeholder.given body).map Prod.fst).Nodup)
    (hperm : attributes.Perm (Placeholder.given body)) :
    (∃ other, Placeholder.Spelled (Placeholder.written body) attributes other) ∧
      ∀ other, Placeholder.Spelled (Placeholder.written body) attributes other → ∀ known,
        (∀ m, Mapping.ofBody known body = .ok m ↔ Mapping.ofBody known other = .ok m) ∧
        ∀ config sql new,
          List.Forall₂ (Exchanged body other) (parameter.segments sql) (parameter.segments new) →
          ∀ statement, ofText config known sql = .ok statement ↔
            ofText config known new = .ok statement := by
  have hspelled := Placeholder.spelled_of_parse hbody
  refine ⟨hspelled.exists_of_perm hperm, fun other hother known => ?_⟩
  have hsame := Mapping.ofBody_of_perm hspelled hother hkeys hperm.symm known
  exact ⟨hsame, fun config sql new h statement => ofText_exchanged hsame h config statement⟩

/-- A type behind the colon and the same type in the last place. -/
theorem ofText_reordered_cursor :
    let body := "rows : CURSOR , resultMap=r, mode=OUT".toList
    let other := "rows,mode = OUT,resultMap=r , jdbcType=CURSOR".toList
    (∃ p, Placeholder.parse body = .ok p) ∧ ((Placeholder.given body).map Prod.fst).Nodup ∧
      (Placeholder.given other).Perm (Placeholder.given body) ∧
      ∀ config known statement,
        ofText config known ('#' :: '{' :: (body ++ ['}'])) = .ok statement ↔
          ofText config known ('#' :: '{' :: (other ++ ['}'])) = .ok statement := by
  intro body other
  have hbody : Placeholder.parse body = .ok ⟨[("property", "rows"), ("jdbcType", "CURSOR"),
      ("resultMap", "r"), ("mode", "OUT")].map (Prod.map String.toList String.toList)⟩ := rfl
  have hnew : Placeholder.parse other = .ok ⟨[("property", "rows"), ("mode", "OUT"),
      ("resultMap", "r"), ("jdbcType", "CURSOR")].map (Prod.map String.toList String.toList)⟩ := rfl
  have hkeys : ((Placeholder.given body).map Prod.fst).Nodup := by decide
  have hperm : (Placeholder.given other).Perm (Placeholder.given body) := by decide
  have hother : Placeholder.Spelled (Placeholder.written body) (Placeholder.given other) other := by
    have hwritten : Placeholder.written body = Placeholder.written other := by decide
    rw [hwritten]
    exact Placeholder.spelled_of_parse hnew
  refine ⟨⟨_, hbody⟩, hkeys, hperm, fun config known statement => ?_⟩
  obtain ⟨hsegments, hunescape⟩ : parameter.segments ('#' :: '{' :: (body ++ ['}'])) =
      [.token body] ∧ parameter.unescape body = body :=
    segments_placeholder (by decide) (by decide)
  obtain ⟨hsegments', hunescape'⟩ : parameter.segments ('#' :: '{' :: (other ++ ['}'])) =
      [.token other] ∧ parameter.unescape other = other :=
    segments_placeholder (by decide) (by decide)
  have hexchanged : List.Forall₂ (Exchanged body other)
      (parameter.segments ('#' :: '{' :: (body ++ ['}'])))
      (parameter.segments ('#' :: '{' :: (other ++ ['}']))) := by
    rw [hsegments, hsegments']
    exact .cons (.token hunescape hunescape') .nil
  exact ((ofText_reordered hbody hkeys hperm).2 other hother known).2 config _ _
    hexchanged statement

end SqlTemplate.Prepared
