import SqlTemplate.Proofs.Node.Steps
import SqlTemplate.Proofs.Scan.Braced
import SqlTemplate.Template.Compile

/-!
# Texts without tokens

A text without tokens is compiled to plain text, in which nothing is scanned. A scan would yield the
same chunk unless a backslash escapes an opening delimiter: the scan drops the backslash, and plain
text keeps it.
-/

namespace SqlTemplate

namespace Delimiters

variable {d : Delimiters} {text : Text}

/-- A segment without the backslash of an escaped opening delimiter. -/
def dropEscape (d : Delimiters) : Segment → Text
  | .escapedOpening => d.opening
  | segment => d.source segment

/-- The text without the backslashes before opening delimiters. -/
def dropEscapes (d : Delimiters) (text : Text) : Text := (d.segments text).flatMap d.dropEscape

/-- One character is dropped for each escaped opening delimiter. -/
theorem length_dropEscapes (d : Delimiters) (text : Text) :
    (d.dropEscapes text).length + (d.segments text).count .escapedOpening = text.length := by
  have hall (segments : List Segment) :
      (segments.flatMap d.dropEscape).length + segments.count .escapedOpening =
        (segments.flatMap d.source).length := by
    induction segments with
    | nil => rfl
    | cons segment rest ih =>
      rw [List.flatMap_cons, List.flatMap_cons, List.length_append, List.length_append, ← ih,
        List.count_cons]
      cases segment <;> simp [dropEscape, source] <;> omega
  rw [dropEscapes, hall, source_segments]

/-- Without escaped opening delimiters nothing is dropped. -/
theorem dropEscapes_eq_self (h : .escapedOpening ∉ d.segments text) :
    d.dropEscapes text = text := by
  have hsource : d.dropEscapes text = (d.segments text).flatMap d.source := by
    refine List.flatMap_congr fun segment hsegment => ?_
    cases segment with
    | literal _ => rfl
    | escapedOpening => exact absurd hsegment h
    | token _ => rfl
  rw [hsource, source_segments]

/-- With an escaped opening delimiter the text is another one. -/
theorem dropEscapes_ne_self (h : .escapedOpening ∈ d.segments text) :
    d.dropEscapes text ≠ text := by
  intro hsame
  have hlength := length_dropEscapes d text
  have hcount := List.count_pos_iff.mpr h
  rw [hsame] at hlength
  omega

/-- A scan of a text without tokens asks its handler for nothing. -/
theorem scan_of_not_hasToken {m : Type → Type} [Monad m] [LawfulMonad m] (handle : Text → m Text)
    (h : d.hasToken text = false) : d.scan handle text = pure (d.dropEscapes text) := by
  have hall (segments : List Segment) (hnone : ∀ body, .token body ∉ segments) :
      List.flatten <$> segments.mapM (d.resolve handle) =
        (pure (segments.flatMap d.dropEscape) : m Text) := by
    induction segments with
    | nil => simp
    | cons segment rest ih =>
      have hrest := ih fun body hbody => hnone body (List.mem_cons_of_mem _ hbody)
      cases segment with
      | literal text =>
        simpa [resolve, dropEscape, source] using congrArg ((text ++ ·) <$> ·) hrest
      | escapedOpening =>
        simpa [resolve, dropEscape] using congrArg ((d.opening ++ ·) <$> ·) hrest
      | token body => exact absurd List.mem_cons_self (hnone body)
  rw [scan_eq_map]
  refine hall _ fun body hbody => ?_
  rw [hasToken, List.any_eq_false] at h
  exact h _ hbody rfl

end Delimiters

open Delimiters

namespace Node

/-- If values are to be spliced into a text without tokens, the text is yielded without the
backslashes before opening delimiters. -/
theorem render_spliced_of_not_hasToken {content : Text} (filter : Option Filter)
    (h : substitution.hasToken content = false) (s : RenderState) :
    (Node.spliced content filter).render s =
      ⟨.ok true, [substitution.dropEscapes content], s⟩ := by
  rw [render, scan_of_not_hasToken _ h, pure_bind]
  rfl

end Node

namespace Template

/-- A text is compiled to a node that renders as the text with its tokens spliced in, from the same
state to the same chunk, result and state, exactly if there is a token in it or no escaped opening
delimiter. Else both succeed with one chunk, which is the text as it is for the compiled node and
shorter by one backslash for each escaped delimiter for a scan. -/
theorem compileText_renders_alike_iff (config : Config) (content : Text) (s : RenderState) :
    let compiled := (compileText config content).render s
    let scanned := (Node.spliced content config.filter).render s
    let escaped := (substitution.segments content).count .escapedOpening
    (compiled = scanned ↔ substitution.hasToken content = true ∨ escaped = 0) ∧
      (substitution.hasToken content = false →
        compiled = ⟨.ok true, [content], s⟩ ∧
          scanned = ⟨.ok true, [substitution.dropEscapes content], s⟩ ∧
          (substitution.dropEscapes content).length + escaped = content.length) := by
  intro compiled scanned escaped
  cases htoken : substitution.hasToken content with
  | true =>
    have hsame : compiled = scanned := by
      simp only [compiled, scanned, compileText, if_pos htoken]
    exact ⟨iff_of_true hsame (.inl rfl), nofun⟩
  | false =>
    have hcompiled : compiled = ⟨.ok true, [content], s⟩ := by
      simp only [compiled, compileText, htoken, Bool.false_eq_true, if_false]
      exact Node.gives_text.mpr ⟨rfl, rfl, rfl⟩
    have hscanned := Node.render_spliced_of_not_hasToken config.filter htoken s
    refine ⟨?_, fun _ => ⟨hcompiled, hscanned, length_dropEscapes _ _⟩⟩
    rw [hcompiled, show scanned = _ from hscanned]
    constructor
    · intro hsame
      refine .inr (List.count_eq_zero.mpr fun hescaped => dropEscapes_ne_self hescaped ?_)
      injection hsame with _ hchunks
      exact (List.cons.inj hchunks).1.symm
    · rintro (hfalse | hnone)
      · cases hfalse
      · rw [dropEscapes_eq_self (List.count_eq_zero.mp hnone)]

/-- A text whose only opening delimiter is escaped: the compiled node keeps the backslash. -/
theorem not_compileText_renders_alike :
    let content := "'\\$\x7bb\x7d'".toList
    ∀ s : RenderState,
      (compileText {} content).render s = ⟨.ok true, [content], s⟩ ∧
        (Node.spliced content none).render s = ⟨.ok true, ["'$\x7bb\x7d'".toList], s⟩ ∧
        (compileText {} content).render s ≠ (Node.spliced content none).render s := by
  intro content s
  have htoken : substitution.hasToken content = false := by decide +kernel
  have hdropped : substitution.dropEscapes content = "'$\x7bb\x7d'".toList := by decide +kernel
  have hcompiled : (compileText {} content).render s = ⟨.ok true, [content], s⟩ := by
    rw [compileText, htoken]
    exact Node.gives_text.mpr ⟨rfl, rfl, rfl⟩
  have hscanned : (Node.spliced content none).render s =
      ⟨.ok true, ["'$\x7bb\x7d'".toList], s⟩ := by
    rw [Node.render_spliced_of_not_hasToken none htoken s, hdropped]
  refine ⟨hcompiled, hscanned, fun hsame => ?_⟩
  rw [hcompiled, hscanned] at hsame
  injection hsame with _ hchunks
  exact absurd (List.cons.inj hchunks).1 (by decide)

end Template

end SqlTemplate
