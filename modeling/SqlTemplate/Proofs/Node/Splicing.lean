import SqlTemplate.Proofs.Node.Steps
import SqlTemplate.Proofs.Render.Splicing
import SqlTemplate.Proofs.Scan.Outline

/-!
# Placeholders around values

A text that values are spliced into is rendered to its outline, filled with the values. Safe values
leave the placeholders alone: which ones there are is settled by the outline, and so is what they
hold, unless a value is spliced into their bodies.
-/

namespace SqlTemplate

open Render

namespace Outline

/-- The outline of segments whose tokens are the places of values, numbered from the given number
on. -/
def ofSegments (number : Nat) : List Segment → List Spot
  | [] => []
  | .literal text :: rest => text.map .char ++ ofSegments number rest
  | .escapedOpening :: rest =>
    Delimiters.substitution.opening.map .char ++ ofSegments number rest
  | .token _ :: rest => .value number :: ofSegments (number + 1) rest

/-- The outline of a text that values are spliced into. -/
def ofContent (content : Text) : List Spot :=
  ofSegments 0 (Delimiters.substitution.segments content)

variable {values : Nat → Text}

/-- Places behind others are filled behind them. -/
theorem fillAll_append (first second : List Spot) :
    fillAll values (first ++ second) = fillAll values first ++ fillAll values second :=
  List.flatMap_append

/-- Characters stay what they are. -/
theorem fillAll_map_char (text : Text) : fillAll values (text.map .char) = text := by
  induction text with
  | nil => rfl
  | cons c text ih => rw [List.map_cons, fillAll_cons, ih, Spot.fill, List.singleton_append]

/-- Places without values do not depend on the values. -/
theorem fillAll_congr {others : Nat → Text} {outline : List Spot}
    (h : ∀ number, .value number ∉ outline) : fillAll values outline = fillAll others outline := by
  refine List.flatMap_congr fun spot hspot => ?_
  cases spot with
  | char c => rfl
  | value number => exact absurd hspot (h number)

/-- The bodies of a filled outline, if the values are safe. -/
theorem bodies_fillAll (hvalues : ∀ number, (values number).Safe) (outline : List Spot) :
    Delimiters.parameter.bodies (fillAll values outline) =
      ((pieces outline).filterMap Piece.body?).map (fillAll values) := by
  rw [Delimiters.bodies, segments_fillAll hvalues, List.filterMap_map, List.map_filterMap]
  congr 1
  funext piece
  cases piece <;> rfl

/-- The number of escaped opening delimiters in a filled outline, if the values are safe. -/
theorem count_escapedOpening_fillAll (hvalues : ∀ number, (values number).Safe)
    (outline : List Spot) :
    (Delimiters.parameter.segments (fillAll values outline)).count .escapedOpening =
      (pieces outline).count .escapedOpening := by
  rw [segments_fillAll hvalues, List.count, List.count, List.countP_map]
  congr 1
  funext piece
  cases piece <;> rfl

end Outline

namespace Node

variable {filter : Option Filter} {s t : RenderState} {chunks : List Text}

/-- A text is spliced in alone, and nothing is yielded yet. -/
theorem gives_splice {source text : Text} (h : (splice filter source).Gives s text chunks t) :
    chunks = [] ∧ s.memory.Splices [text] t.memory := by
  obtain ⟨value, c, u, d, hvalue, htext, rfl⟩ := gives_bind.mp h
  obtain ⟨rfl, -⟩ := (quiet_evaluate source).of_gives hvalue
  have hnothing := splicesNothing_evaluate source s
  rw [hvalue] at hnothing
  suffices hlast : d = [] ∧ u.memory.Splices [text] t.memory from
    ⟨hlast.1, hnothing.trans hlast.2⟩
  cases filter with
  | none =>
    cases htext
    exact ⟨rfl, [_], rfl, rfl⟩
  | some filter =>
    dsimp only at htext
    by_cases haccepts : filter.accepts value.toSql = true
    · rw [if_pos haccepts] at htext
      cases htext
      exact ⟨rfl, [_], rfl, rfl⟩
    · rw [if_neg haccepts] at htext
      cases htext

/-- The segments of a text are resolved to their outline, filled with the texts that are spliced
in. -/
theorem gives_mapM_resolve {segments : List Segment} {out : List Text}
    (h : (segments.mapM (Delimiters.substitution.resolve (splice filter))).Gives s out chunks t) :
    chunks = [] ∧ ∃ texts, s.memory.Splices texts t.memory ∧
      texts.length = (segments.filterMap Segment.body?).length ∧
      ∀ (number : Nat) (values : Nat → Text),
        (∀ i text, texts[i]? = some text → values (number + i) = text) →
          out.flatten = fillAll values (Outline.ofSegments number segments) := by
  induction segments generalizing s out chunks with
  | nil =>
    rw [List.mapM_nil] at h
    obtain ⟨rfl, rfl, rfl⟩ := gives_pure.mp h
    exact ⟨rfl, [], .of_events_eq rfl, rfl, fun _ _ _ => rfl⟩
  | cons segment rest ih =>
    rw [List.mapM_cons] at h
    obtain ⟨first, c, u, d, hfirst, hothers, rfl⟩ := gives_bind.mp h
    obtain ⟨others, e, v, f, hrest, hpure, rfl⟩ := gives_bind.mp hothers
    obtain ⟨rfl, rfl, rfl⟩ := gives_pure.mp hpure
    obtain ⟨rfl, texts, hsplices, hlength, hout⟩ := ih hrest
    cases segment with
    | literal text =>
      obtain ⟨rfl, rfl, rfl⟩ := gives_pure.mp hfirst
      refine ⟨rfl, texts, hsplices, hlength, fun number values hvalues => ?_⟩
      rw [List.flatten_cons, hout number values hvalues, Outline.ofSegments,
        Outline.fillAll_append, Outline.fillAll_map_char]
    | escapedOpening =>
      obtain ⟨rfl, rfl, rfl⟩ := gives_pure.mp hfirst
      refine ⟨rfl, texts, hsplices, hlength, fun number values hvalues => ?_⟩
      rw [List.flatten_cons, hout number values hvalues, Outline.ofSegments,
        Outline.fillAll_append, Outline.fillAll_map_char]
    | token body =>
      obtain ⟨rfl, hown⟩ := gives_splice hfirst
      refine ⟨rfl, first :: texts, hown.trans hsplices, congrArg (· + 1) hlength,
        fun number values hvalues => ?_⟩
      have hnumber : values number = first := hvalues 0 first rfl
      have hlater : ∀ i text, texts[i]? = some text → values (number + 1 + i) = text := by
        intro i text htext
        rw [Nat.add_assoc, Nat.add_comm 1 i]
        exact hvalues (i + 1) text htext
      rw [List.flatten_cons, hout (number + 1) values hlater, Outline.ofSegments,
        Outline.fillAll_cons, Spot.fill, hnumber]

/-- A text that values are spliced into is rendered to its outline, filled with the texts that are
spliced in. There is one for each token. -/
theorem gives_spliced {content : Text} {contributed : Bool}
    (h : (render (.spliced content filter)).Gives s contributed chunks t) :
    let texts := s.memory.splicedSince t.memory
    texts.length = (Delimiters.substitution.bodies content).length ∧
      ∀ values : Nat → Text, (∀ i text, texts[i]? = some text → values i = text) →
        chunks = [fillAll values (Outline.ofContent content)] := by
  obtain ⟨sql, -, hscan, rfl⟩ := gives_splicedNode h
  rw [Delimiters.scan_eq] at hscan
  obtain ⟨out, _, _, _, hsegments, hpure, -⟩ := gives_bind.mp hscan
  obtain ⟨rfl, rfl, rfl⟩ := gives_pure.mp hpure
  obtain ⟨rfl, texts, hsplices, hlength, hout⟩ := gives_mapM_resolve hsegments
  rw [hsplices.splicedSince_eq]
  refine ⟨hlength, fun values hvalues => ?_⟩
  rw [hout 0 values (by simpa using hvalues)]
  rfl

/-- If all texts that are spliced in are safe, the values of the outline are. -/
theorem exists_safe_values {content rendered : Text} {contributed : Bool}
    (h : (render (.spliced content filter)).Gives s contributed [rendered] t)
    (hsafe : ∀ text ∈ s.memory.splicedSince t.memory, text.Safe) :
    ∃ values : Nat → Text, (∀ number, (values number).Safe) ∧
      rendered = fillAll values (Outline.ofContent content) := by
  let texts := s.memory.splicedSince t.memory
  -- Numbers without a text do not occur in the outline, so any safe text will do for them.
  let values : Nat → Text := fun number => texts[number]?.getD ['0']
  have hvalues : ∀ i text, texts[i]? = some text → values i = text := by
    intro i text htext
    change texts[i]?.getD ['0'] = text
    rw [htext, Option.getD_some]
  refine ⟨values, fun number => ?_, (List.cons.inj ((gives_spliced h).2 _ hvalues)).1⟩
  cases htext : texts[number]? with
  | none =>
    have hvalue : values number = ['0'] := by
      change texts[number]?.getD ['0'] = ['0']
      rw [htext, Option.getD_none]
    rw [hvalue]
    decide
  | some text =>
    rw [hvalues number text htext]
    exact hsafe text (List.mem_of_getElem? htext)

/-- Safe values cannot change the placeholders of a text. Two renderings of it have as many
placeholders as its outline has, and as many escaped opening delimiters, and the same body in each
place unless a value is spliced into that body. -/
theorem placeholders_of_safe_values {content rendered₁ rendered₂ : Text}
    {filter₁ filter₂ : Option Filter} {s₁ s₂ t₁ t₂ : RenderState} {contributed₁ contributed₂ : Bool}
    (h₁ : (render (.spliced content filter₁)).Gives s₁ contributed₁ [rendered₁] t₁)
    (h₂ : (render (.spliced content filter₂)).Gives s₂ contributed₂ [rendered₂] t₂)
    (hsafe₁ : ∀ text ∈ s₁.memory.splicedSince t₁.memory, text.Safe)
    (hsafe₂ : ∀ text ∈ s₂.memory.splicedSince t₂.memory, text.Safe) :
    let template := Outline.pieces (Outline.ofContent content)
    let bodies : List (List Spot) := template.filterMap Piece.body?
    let bodies₁ := Delimiters.parameter.bodies rendered₁
    let bodies₂ := Delimiters.parameter.bodies rendered₂
    (bodies₁.length = bodies.length ∧ bodies₂.length = bodies.length) ∧
      ((Delimiters.parameter.segments rendered₁).count .escapedOpening =
          template.count .escapedOpening ∧
        (Delimiters.parameter.segments rendered₂).count .escapedOpening =
          template.count .escapedOpening) ∧
      ∀ (i : Nat) (body : List Spot), bodies[i]? = some body → (∀ number, Spot.value number ∉ body) →
        bodies₁[i]? = bodies₂[i]? := by
  intro template bodies bodies₁ bodies₂
  obtain ⟨values₁, hvalues₁, rfl⟩ := exists_safe_values h₁ hsafe₁
  obtain ⟨values₂, hvalues₂, rfl⟩ := exists_safe_values h₂ hsafe₂
  have hbodies₁ : bodies₁ = bodies.map (fillAll values₁) := Outline.bodies_fillAll hvalues₁ _
  have hbodies₂ : bodies₂ = bodies.map (fillAll values₂) := Outline.bodies_fillAll hvalues₂ _
  refine ⟨⟨by rw [hbodies₁, List.length_map], by rw [hbodies₂, List.length_map]⟩,
    ⟨Outline.count_escapedOpening_fillAll hvalues₁ _,
      Outline.count_escapedOpening_fillAll hvalues₂ _⟩, fun i body hbody hfree => ?_⟩
  rw [hbodies₁, hbodies₂, List.getElem?_map, List.getElem?_map, hbody, Option.map_some,
    Option.map_some, Outline.fillAll_congr hfree]

/-- Values in the first of three bodies, right before the second one, and between an escaped opening
delimiter and a brace. -/
theorem placeholders_of_two_columns :
    let content : Text :=
      "#{t.${column}} = ${function}#{v, mode=IN}, \\#{${column}} #\x7bw\\\x7d\x7d".toList
    let node : Node := .spliced content none
    let start (column function : String) : RenderState :=
      { bindings := .seed (.obj [("column", .str column), ("function", .str function)]) none
        memory := ⟨.empty 8, []⟩ }
    let texts (s : RenderState) : List Text := s.memory.splicedSince (node.render s).state.memory
    let rendered (s : RenderState) : Text := (node.render s).chunks.flatten
    let bodies (s : RenderState) : List Text := Delimiters.parameter.bodies (rendered s)
    let escaped (s : RenderState) : Nat :=
      (Delimiters.parameter.segments (rendered s)).count .escapedOpening
    let first := start "a" "lower$"
    let second := start "$b c" "?"
    (texts first = ["a".toList, "lower$".toList, "a".toList] ∧
        texts second = ["$b c".toList, ['?'], "$b c".toList]) ∧
      ((bodies first).length = 3 ∧ (bodies second).length = 3) ∧
      (escaped first = 1 ∧ escaped second = 1) ∧
      (bodies first)[1]? = (bodies second)[1]? ∧ (bodies first)[2]? = (bodies second)[2]? := by
  intro content node start texts rendered bodies escaped first second
  have htexts₁ : texts first = ["a".toList, "lower$".toList, "a".toList] := by decide +kernel
  have htexts₂ : texts second = ["$b c".toList, ['?'], "$b c".toList] := by decide +kernel
  have hgives : ∀ s, (node.render s).result.toOption = some true →
      (node.render s).chunks = [rendered s] →
        node.render.Gives s true [rendered s] (node.render s).state := fun s hresult hchunks =>
    hchunks ▸ gives_of_toOption hresult
  have h₁ := hgives first (by decide +kernel) (by decide +kernel)
  have h₂ := hgives second (by decide +kernel) (by decide +kernel)
  have hbodies : (Outline.pieces (Outline.ofContent content)).filterMap Piece.body? =
      [[.char 't', .char '.', .value 0], "v, mode=IN".toList.map .char,
        "w\\\x7d".toList.map .char] := by
    decide +kernel
  have hcount : (Outline.pieces (Outline.ofContent content)).count .escapedOpening = 1 := by
    decide +kernel
  have hsafe₁ : ∀ text ∈ texts first, text.Safe := by
    rw [htexts₁]
    decide
  have hsafe₂ : ∀ text ∈ texts second, text.Safe := by
    rw [htexts₂]
    decide
  obtain ⟨hlengths, hescaped, hsame⟩ := placeholders_of_safe_values h₁ h₂ hsafe₁ hsafe₂
  rw [hbodies] at hlengths hsame
  rw [hcount] at hescaped
  have hfree : ∀ (text : Text) (number : Nat), Spot.value number ∉ text.map .char := by
    intro text number hmem
    obtain ⟨c, -, hc⟩ := List.mem_map.mp hmem
    cases hc
  exact ⟨⟨htexts₁, htexts₂⟩, hlengths, hescaped, hsame 1 _ rfl (hfree _), hsame 2 _ rfl (hfree _)⟩

end Node

end SqlTemplate
