import SqlTemplate.Proofs.Render.Names
import SqlTemplate.Proofs.Scan.Blanks
import SqlTemplate.Proofs.Statement.Squeezing

/-!
# Shrinking a statement

Blanks may be shrunk before the placeholders of a statement are replaced, or after it: the markers
hold no blanks, and no delimiter is made, lost or escaped on the way. So the placeholders are the
same, in the same order, and the text is the same but for its blanks.
-/

namespace SqlTemplate

namespace Prepared

open Text

/-- Behind a solid text a text is collapsed by itself. -/
theorem collapse_append {solid : Text} (h : solid.Solid) (afterSpace : Bool) (text : Text) :
    collapse afterSpace (solid ++ text) = solid ++ collapse false text := by
  obtain ⟨hne, hsolid⟩ := h
  induction solid generalizing afterSpace with
  | nil => exact absurd rfl hne
  | cons c solid ih =>
    obtain ⟨hc, hrest⟩ := List.forall_mem_cons.mp hsolid
    simp only [List.cons_append, collapse, hc, Bool.false_eq_true, if_false]
    cases solid with
    | nil => rfl
    | cons e solid => rw [ih false (List.cons_ne_nil e solid) hrest]

/-- A collapsed text starts with a closing brace only where the text does. -/
theorem head?_of_collapse {text : Text} (h : (collapse false text).head? = some '}') :
    text.head? = some '}' := by
  cases text with
  | nil => exact h
  | cons c text =>
    cases hc : isBlank c with
    | true =>
      simp only [collapse, hc, if_true, Bool.false_eq_true, if_false] at h
      exact absurd (Option.some.inj h) (by decide)
    | false =>
      simp only [collapse, hc, Bool.false_eq_true, if_false] at h
      exact h

end Prepared

namespace Delimiters

open Text

/-- Where no body ends, none ends when blanks are collapsed. -/
theorem body?_collapse {text : Text} (afterSpace : Bool) (h : parameter.body? text = none) :
    parameter.body? (Prepared.collapse afterSpace text) = none := by
  induction hlength : text.length using Nat.strongRecOn generalizing text afterSpace with
  | ind n ih =>
    cases text with
    | nil => exact h
    | cons c rest =>
      by_cases hesc : c = '\\' ∧ rest.head? = some '}'
      · obtain ⟨rfl, hrest⟩ := hesc
        obtain ⟨more, rfl⟩ := List.head?_eq_some_iff.mp hrest
        have hcollapse : Prepared.collapse afterSpace ('\\' :: '}' :: more) =
            '\\' :: '}' :: Prepared.collapse false more := rfl
        have hshorter : more.length < n := by
          rw [← hlength, List.length_cons, List.length_cons]
          omega
        rw [body?_slash] at h
        rw [hcollapse, body?_slash, ih _ hshorter false (Option.map_eq_none_iff.mp h) rfl]
        rfl
      · have hc : c ≠ '}' := by
          rintro rfl
          rw [body?_brace] at h
          cases h
        rw [body?_cons hc hesc] at h
        have hrest (afterSpace : Bool) := ih rest.length (by simp [← hlength]) afterSpace
          (Option.map_eq_none_iff.mp h) rfl
        cases hblank : isBlank c with
        | true =>
          simp only [Prepared.collapse, hblank, if_true]
          cases afterSpace with
          | true => exact hrest true
          | false =>
            simp only [Bool.false_eq_true, if_false]
            rw [body?_cons (by decide) (by simp), hrest true]
            rfl
        | false =>
          simp only [Prepared.collapse, hblank, Bool.false_eq_true, if_false]
          have hesc' : ¬(c = '\\' ∧ (Prepared.collapse false rest).head? = some '}') :=
            fun hboth => hesc ⟨hboth.1, Prepared.head?_of_collapse hboth.2⟩
          rw [body?_cons hc hesc', hrest false]
          rfl

variable {m : Type → Type} [Monad m] [LawfulMonad m] {handle : Text → m Text}
  (hsolid : ∀ body, Yields Solid (handle body))
include hsolid

/-- The blanks of literal text may be collapsed before a scan, or all blanks after it. -/
theorem scan_collapseSegments (text : Text) (afterSpace : Bool) :
    parameter.scan handle (Prepared.collapseSegments afterSpace (parameter.segments text)) =
      Prepared.collapse afterSpace <$> parameter.scan handle text := by
  induction text using parameter_braced.inductionOn generalizing afterSpace with
  | nil =>
    rw [segments_nil, scan_nil, map_pure]
    exact scan_nil handle parameter
  | char c text hplain ih =>
    rw [parameter_braced.segments_char hplain, Prepared.collapseSegments_pushLiteral,
      parameter_braced.scan_char handle hplain, Functor.map_map]
    cases hc : isBlank c with
    | true =>
      simp only [Prepared.collapse, hc, if_true]
      cases afterSpace with
      | true => exact ih true
      | false =>
        simp only [Bool.false_eq_true, if_false]
        rw [parameter_braced.scan_char handle (plain_of_isBlank isBlank_space _), ih true,
          Functor.map_map]
    | false =>
      simp only [Prepared.collapse, hc, Bool.false_eq_true, if_false]
      rw [parameter_braced.scan_char handle
        (hplain.of_startsLike (Prepared.startsLike_collapseSegments text)), ih false,
        Functor.map_map]
  | slash text ih =>
    rw [parameter_braced.segments_slash, parameter_braced.scan_slash handle, Functor.map_map]
    change parameter.scan handle
      ('\\' :: '#' :: '{' :: Prepared.collapseSegments false (parameter.segments text)) = _
    rw [parameter_braced.scan_slash handle, ih false, Functor.map_map]
    rfl
  | token body text hbody ih =>
    have hsource : Prepared.collapseSegments afterSpace
        (parameter.segments ('#' :: '{' :: (body ++ '}' :: text))) =
          '#' :: '{' :: (body ++ '}' ::
            Prepared.collapseSegments false (parameter.segments text)) := by
      have hend : Prepared.endsInSpace afterSpace (parameter.source (.token body)) = false := by
        simp [Prepared.endsInSpace, source, parameter, List.getLast?_cons]
      rw [parameter_braced.segments_body hbody]
      change parameter.source (.token body) ++ Prepared.collapseSegments
        (Prepared.endsInSpace afterSpace (parameter.source (.token body))) _ = _
      rw [hend]
      simp [source, parameter]
    rw [hsource, parameter_braced.scan_body handle hbody, parameter_braced.scan_body handle hbody,
      ih false, map_bind]
    refine (hsolid _).bind_congr fun out hout => ?_
    rw [bind_map_left, map_bind]
    congr 1
    funext rest
    rw [map_pure, Prepared.collapse_append hout]
  | unclosed text hopen =>
    rw [parameter_braced.segments_unclosed hopen, scan_unclosed handle hopen, map_pure]
    change parameter.scan handle ('#' :: '{' :: Prepared.collapse false text ++ []) = _
    rw [List.append_nil, scan_unclosed handle (body?_collapse false hopen)]
    rfl

/-- A text may be shrunk before a scan, or what the scan makes of it may be squeezed. -/
theorem scan_shrink (text : Text) :
    parameter.scan handle (Prepared.shrink text) = squeeze <$> parameter.scan handle text := by
  rw [Prepared.shrink, trim, scan_trimEnd hsolid, scan_trimStart hsolid,
    scan_collapseSegments hsolid, Functor.map_map, Functor.map_map]
  congr 1
  funext out
  exact Prepared.trim_collapse out

end Delimiters

namespace Prepared

open Delimiters Text

/-- A marker is a solid text. -/
theorem solid_marker (style : MarkerStyle) (n : Nat) : Solid (style.marker n) := by
  cases style with
  | question => exact ⟨List.cons_ne_nil _ _, List.forall_mem_singleton.mpr (by decide)⟩
  | dollar =>
    refine ⟨List.cons_ne_nil _ _, List.forall_mem_cons.mpr ⟨by decide, fun c hc => ?_⟩⟩
    have hdigit := Nat.isDigit_of_mem_toDigits (by decide) (by decide) hc
    exact LoopScope.isBlank_of_isNameChar (LoopScope.isNameChar_of_isDigit hdigit)

/-- Making a mapping yields a marker. -/
theorem yields_mark (style : MarkerStyle) (known : Surroundings) (body : Text) :
    Yields Solid (mark style known body) :=
  (yields_true _).bind fun _ _ => (yields_true _).bind fun _ _ =>
    yields_pure (solid_marker style _)

/-- Shrinking the blanks of a statement has no say in what its placeholders are bound to. With it
and without it the same error comes up, or the mappings are the same; then the shrunk text is the
other one with one space for every run of blanks, and none at its ends. -/
theorem ofText_shrunk (config : Config) (known : Surroundings) (sql : Text) :
    let kept := ofText { config with shrinkBlanks := false } known sql
    let shrunk := ofText { config with shrinkBlanks := true } known sql
    (∃ e, kept = .error e ∧ shrunk = .error e) ∨
      ∃ statement, kept = .ok statement ∧
        shrunk = .ok { statement with sql := statement.sql.squeeze } := by
  intro kept shrunk
  have hscan := scan_shrink (yields_mark config.markers known) sql
  have hkept : kept = (parameter.scan (mark config.markers known) sql).run [] >>=
      fun found => pure (⟨found.1, found.2⟩ : Prepared) := rfl
  have hshrunk : shrunk = (parameter.scan (mark config.markers known) (shrink sql)).run [] >>=
      fun found => pure (⟨found.1, found.2⟩ : Prepared) := rfl
  rw [hscan, StateT.run_map] at hshrunk
  cases hfound : (parameter.scan (mark config.markers known) sql).run [] with
  | error e =>
    rw [hfound] at hkept hshrunk
    exact .inl ⟨e, hkept, hshrunk⟩
  | ok found =>
    rw [hfound] at hkept hshrunk
    exact .inr ⟨⟨found.1, found.2⟩, hkept, hshrunk⟩

end Prepared

end SqlTemplate
