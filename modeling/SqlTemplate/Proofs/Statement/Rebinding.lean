import SqlTemplate.Proofs.Statement.Capture

/-!
# Names bound within loops

A name that is bound in each pass of a loop keeps its own name in the placeholders. These are
resolved when the loop is over, so all of them have the value from the last pass. In this a bound
name is unlike the variables of the loop.
-/

namespace SqlTemplate

open Delimiters LoopScope Placeholder Render Results

namespace Loop

/-- The values that a name is bound to in the passes over elements, one for each pass. -/
def reboundValues (spec : Loop) (name : String) (source : Text) :
    List LoopElement → RenderState → List Value
  | [], _ => []
  | element :: rest, s =>
    let o := evaluate source (spec.enter element s)
    match o.result with
    | .error _ => []
    | .ok value =>
      let next := { o.state with bindings := o.state.bindings.insert name value }
      value :: reboundValues spec name source rest next

/-- After a pass the values of the others follow. -/
theorem reboundValues_cons {spec : Loop} {name : String} {source : Text} {element : LoopElement}
    {rest : List LoopElement} {s t : RenderState} {value : Value} {chunks : List Text}
    (h : (evaluate source).Gives (spec.enter element s) value chunks t) :
    spec.reboundValues name source (element :: rest) s =
      value :: spec.reboundValues name source rest
        { t with bindings := t.bindings.insert name value } := by
  rw [reboundValues, h]

end Loop

/-- The placeholders of a text in passes with these values of a name, each with the value of its
pass. -/
def reboundOccurrences (content : Text) (values : List Value) : List (Text × Value) :=
  values.flatMap fun value => (parameter.bodies content).map (·, value)

/-- The body of a loop that binds a name, and a text behind that. -/
def rebinding (name : String) (source content : Text) : Node :=
  .mixed [.bind name source, .text content]

/-- The text is yielded, and the name has the value of its expression. -/
theorem gives_rebinding {name : String} {source content : Text} {s t : RenderState}
    {contributed : Bool} {chunks : List Text}
    (h : (rebinding name source content).render.Gives s contributed chunks t) :
    ∃ value u, (evaluate source).Gives s value [] u ∧ chunks = [content] ∧
      t = { u with bindings := u.bindings.insert name value } := by
  obtain ⟨-, hall⟩ := Node.gives_mixed h
  obtain ⟨_, c, v, d, hbind, hrest, rfl⟩ := Node.gives_renderAll_cons.mp hall
  obtain ⟨_, e, w, f, htext, hnone, rfl⟩ := Node.gives_renderAll_cons.mp hrest
  obtain ⟨-, rfl, rfl⟩ := Node.gives_text.mp htext
  obtain ⟨rfl, rfl⟩ := Node.gives_renderAll_nil.mp hnone
  rw [Node.render] at hbind
  obtain ⟨value, _, u, _, hvalue, hlast, rfl⟩ := gives_bind.mp hbind
  obtain ⟨rfl, -⟩ := (quiet_evaluate source).of_gives hvalue
  obtain ⟨_, _, _, _, hinsert, hpure, rfl⟩ := gives_bind.mp hlast
  obtain ⟨rfl, rfl⟩ := gives_update.mp hinsert
  obtain ⟨-, rfl, rfl⟩ := gives_pure.mp hpure
  exact ⟨value, u, hvalue, rfl, rfl⟩

namespace Node

/-- In the passes of a loop placeholders keep a bound name, which has the last of its values
afterwards. -/
theorem passes_rebinding {spec : Loop} (hspec : spec.Capturing) {name : String}
    (hname : IsName name) (hitem : spec.item ≠ some name) (hindex : spec.index ≠ some name)
    {source content : Text} (hcontent : parameter.Terminated content)
    (elements : List LoopElement) (separate : Bool) {s t : RenderState} {u : Unit}
    {chunks : List Text}
    (h : (spec.passes (rebinding name source content).render separate elements).Gives
      s u chunks t) :
    let values := spec.reboundValues name source elements s
    values.length = elements.length ∧
      t.bindings.bound? name = values.getLast?.or (s.bindings.bound? name) ∧
      ∃ bodies, ClosedAll chunks bodies ∧
        List.Forall₂ (fun occurrence body => occurrence.1 = name.toList → body = name.toList)
          (reboundOccurrences content values) bodies := by
  dsimp only
  induction elements generalizing separate s u chunks with
  | nil =>
    obtain ⟨rfl, rfl⟩ := Loop.gives_passes_nil.mp h
    exact ⟨rfl, rfl, [], .nil, .nil⟩
  | cons element rest ih =>
    obtain ⟨written, c, v, d, hpass, hpasses, rfl⟩ := Loop.gives_passes_cons.mp h
    obtain ⟨b, inside, last, hbody, hfeed, -⟩ := Loop.gives_pass.mp hpass
    obtain ⟨value, w, hvalue, rfl, rfl⟩ := gives_rebinding hbody
    obtain ⟨hlength, hbound, bodies, hclosed, hplain⟩ := ih (separate || written) hpasses
    have hseparator : Text.breakOn parameter.opening (if separate then spec.separator else []) =
        none := by
      cases separate with
      | true => exact hspec.separator
      | false => rfl
    have hscope : (spec.scope s.nextId).Named := ⟨hspec.item, hspec.index⟩
    have hpassed := closedAll_feedAll hscope hseparator (.single hcontent.closed) hfeed
    rw [Loop.reboundValues_cons hvalue]
    refine ⟨congrArg (· + 1) hlength, ?_, _, hpassed.append hclosed, ?_⟩
    · -- the value of this pass stays if no other pass follows
      rw [hbound, Bindings.bound?_insert, if_pos rfl, List.getLast?_cons]
      cases (Loop.reboundValues spec name source rest _).getLast? with
      | none => rfl
      | some value => rfl
    · rw [reboundOccurrences, List.flatMap_cons]
      refine List.rel_append ?_ hplain
      rw [List.forall₂_map_left_iff, List.forall₂_map_right_iff, List.forall₂_same]
      rintro body - rfl
      exact hscope.rename_of_other hname hitem hindex

/-- So it is for the loop, whose variables are gone afterwards. -/
theorem loop_rebinding {spec : Loop} (hspec : spec.Capturing) {name : String}
    (hname : IsName name) (hitem : spec.item ≠ some name) (hindex : spec.index ≠ some name)
    {source content : Text} (hcontent : parameter.Terminated content) {s t : RenderState}
    {contributed : Bool} {chunks : List Text}
    (h : (render (.loop spec (rebinding name source content))).Gives s contributed chunks t) :
    ∃ elements u, (evaluateLoop spec.collection spec.nullable).Gives s elements [] u ∧
      let values := spec.reboundValues name source elements u
      values.length = elements.length ∧
        (∀ value, values.getLast? = some value → t.bindings.bound? name = some value) ∧
        ∃ bodies, ClosedAll chunks bodies ∧
          List.Forall₂ (fun occurrence body => occurrence.1 = name.toList → body = name.toList)
            (reboundOccurrences content values) bodies := by
  obtain ⟨-, hrun⟩ := gives_loop h
  obtain ⟨elements, v, hevaluate, hcase⟩ := Loop.gives_run hrun
  refine ⟨elements, v, hevaluate, ?_⟩
  rcases hcase with ⟨rfl, rfl, rfl⟩ | ⟨-, inside, w, hpasses, rfl, rfl⟩
  · exact ⟨rfl, (fun _ hvalue => nomatch hvalue), [], .nil, .nil⟩
  · obtain ⟨hlength, hbound, bodies, hclosed, hplain⟩ :=
      passes_rebinding hspec hname hitem hindex hcontent elements false hpasses
    refine ⟨hlength, fun value hvalue => ?_, bodies, ?_, hplain⟩
    · rw [Loop.exit, Bindings.bound?_removeVariable_of_ne hindex,
        Bindings.bound?_removeVariable_of_ne hitem, hbound, hvalue, Option.some_or]
    · have hopened := (closedAll_toList hspec.opening).append hclosed
      have haround := hopened.append (closedAll_toList hspec.closing)
      rw [List.nil_append, List.append_nil] at haround
      exact haround

end Node

/-- A body that consists of a word is read as an input with that property. -/
theorem Mapping.ofBody_of_isWord {known : Surroundings} {word : Text} {m : Mapping}
    (hword : IsWord word) (h : ofBody known word = .ok m) :
    m.property = word ∧ m.mode = .input := by
  obtain ⟨p, valueType, draft, handler, hp, -, hdraft, -, -, rfl⟩ := ofBody_eq_ok.mp h
  obtain rfl := Except.ok.inj (hp.symm.trans hword.parse_eq)
  obtain rfl := Except.ok.inj hdraft
  exact ⟨rfl, rfl⟩

/-- The marker of a placeholder that consists of a name has the additional value under it. -/
theorem Bound.value_of_name {bound : Bound} {known : Surroundings} {name : String}
    (hname : IsName name) {m : Mapping} {value found : Value}
    (hm : Mapping.ofBody known (Delimiters.parameter.unescape name.toList) = .ok m)
    (hvalue : bound.value m = .ok value) (hfound : bound.additional.get? name = some found) :
    value = found := by
  have hplain : Delimiters.parameter.unescape name.toList = name.toList := by
    have happend := unescape_append (hname.isWord.not_mem (by decide)) []
    rwa [unescape_nil, List.append_nil] at happend
  have hroot : Path.splitRoot name.toList = (name.toList, none) := by
    have happend := hname.isWord.splitRoot_append []
    have hnone : Text.trimEnd [] = [] := rfl
    rwa [List.append_nil, hnone, List.takeWhile_nil, hnone, List.append_nil] at happend
  rw [hplain] at hm
  obtain ⟨hproperty, hmode⟩ := Mapping.ofBody_of_isWord hname.isWord hm
  have hinput : m.mode.isInput = true := by rw [hmode]; rfl
  have hentry : bound.additional.get? (String.ofList (Path.splitRoot m.property).1) =
      some found := by
    rwa [hproperty, hroot, String.ofList_toList]
  rw [Bound.value, if_pos hinput, find?_of_additional hentry, hproperty, hroot] at hvalue
  exact (Except.ok.inj hvalue).symm

namespace Engine

/-- The values that a name is bound to in the passes of a loop, one for each pass. -/
def reboundValues (engine : Engine) (spec : Loop) (name : String) (source : Text)
    (parameter : Value) (memory : Memory) : List Value :=
  let o := evaluateLoop spec.collection spec.nullable (engine.start parameter memory)
  match o.result with
  | .error _ => []
  | .ok elements => spec.reboundValues name source elements o.state

/-- The placeholders of a rendering whose chunks have them closed, without their escapes. -/
theorem placeholders_of_closed {engine : Engine} {root : Node} {parameter : Value}
    {memory : Memory} {contributed : Bool} {chunks bodies : List Text} {state : RenderState}
    (hrender : root.render.Gives (engine.start parameter memory) contributed chunks state)
    (hchunks : ClosedAll chunks bodies) :
    engine.placeholders root parameter memory =
      bodies.map Delimiters.parameter.unescape := by
  have htext : Closed (engine.renderedText root parameter memory) bodies := by
    rw [renderedText, hrender]
    exact (closed_joinChunks .nil hchunks).trim
  rw [placeholders, contents, (closed_scanned htext).bodies_eq]

/-- A placeholder in the passes of a loop that consists of a name bound there has the value from the
last pass. So it has the value from its own pass exactly if the two are the same. -/
theorem rebound_name_last {engine : Engine} {spec : Loop} (hspec : spec.Capturing)
    {name : String} (hname : IsName name) (hitem : spec.item ≠ some name)
    (hindex : spec.index ≠ some name) {source content : Text}
    (hcontent : Delimiters.parameter.Terminated content) {statement : Option String}
    {parameter : Value} {memory : Memory} {bound : Bound} {values : List Value}
    (hbound : (engine.renderNode (.loop spec (rebinding name source content)) statement parameter
      memory).1 = .ok bound)
    (hvalues : bound.values = .ok values) :
    let rebound := engine.reboundValues spec name source parameter memory
    List.Forall₂ (fun occurrence marker => occurrence.1 = name.toList →
        rebound.getLast? = some marker.2 ∧
          (marker.2 = occurrence.2 ↔ rebound.getLast? = some occurrence.2))
      (reboundOccurrences content rebound) (bound.mappings.zip values) := by
  intro rebound
  obtain ⟨-, -, -, hmappings⟩ := mappings_of_renderNode hbound
  obtain ⟨_, chunks, state, prepared, hrender, -, hsame⟩ := renderNode_eq_ok.mp hbound
  have hadditional : bound.additional = state.bindings.entries := by rw [hsame]
  obtain ⟨elements, u, helements, -, hlast, bodies, hchunks, hplain⟩ :=
    Node.loop_rebinding hspec hname hitem hindex hcontent hrender
  have hrebound : rebound = spec.reboundValues name source elements u := by
    simp only [rebound, reboundValues]
    rw [helements]
  rw [placeholders_of_closed hrender hchunks, List.forall₂_map_left_iff] at hmappings
  have hmarkers := forall₂_zip_right hmappings (mapM_eq_ok.mp hvalues)
  rw [hrebound]
  cases hvalue : (spec.reboundValues name source elements u).getLast? with
  | none =>
    rw [List.getLast?_eq_none_iff.mp hvalue] at hplain ⊢
    obtain rfl := List.forall₂_nil_left_iff.mp hplain
    rw [List.forall₂_nil_left_iff.mp hmarkers]
    exact .nil
  | some last =>
    refine forall₂_of_common hplain.flip hmarkers fun body occurrence marker hcome hmarker hown =>
      ?_
    obtain rfl := hcome hown
    have hfound : bound.additional.get? name = some last := by
      rw [hadditional]
      exact hlast last hvalue
    rw [Bound.value_of_name hname hmarker.1 hmarker.2 hfound]
    exact ⟨rfl, Option.some_inj.symm⟩

/-- Three passes with different values: all placeholders come to the value of the last one. -/
theorem rebound_name_last_of_three_passes :
    let engine : Engine := {}
    let spec : Loop := { collection := "xs".toList, item := some "x", separator := [','] }
    let source := "x * 10".toList
    let content := "(#\x7bx\x7d, #\x7bp\x7d)".toList
    let parameter : Value := .obj [("xs", .arr [.ofNat 1, .ofNat 2, .ofNat 3])]
    let rebound := engine.reboundValues spec "p" source parameter engine.memory
    ∃ bound values, spec.Capturing ∧
      (engine.renderNode (.loop spec (rebinding "p" source content)) none parameter
        engine.memory).1 = .ok bound ∧
      bound.values = .ok values ∧
      rebound.map Value.toSql = ["10", "20", "30"].map String.toList ∧
      values.map Value.toSql = ["1", "30", "2", "30", "3", "30"].map String.toList ∧
      List.Forall₂ (fun occurrence marker => occurrence.1 = "p".toList →
          rebound.getLast? = some marker.2 ∧
            (marker.2 = occurrence.2 ↔ rebound.getLast? = some occurrence.2))
        (reboundOccurrences content rebound) (bound.mappings.zip values) := by
  intro engine spec source content parameter rebound
  have hx : IsName "x" := by decide +kernel
  have hspec : spec.Capturing := by
    refine ⟨?_, ?_, ?_, ?_, by decide⟩
    · simpa [spec] using hx
    · simp [spec]
    · simp [spec]
    · simp [spec]
  have hok : ((engine.renderNode (.loop spec (rebinding "p" source content)) none parameter
      engine.memory).1 >>= Bound.values).isOk = true := by
    decide +kernel
  obtain ⟨values, hchain⟩ := exists_of_isOk hok
  have htexts : ((engine.renderNode (.loop spec (rebinding "p" source content)) none parameter
      engine.memory).1 >>= Bound.values).toOption.map (·.map Value.toSql) =
        some (["1", "30", "2", "30", "3", "30"].map String.toList) := by
    decide +kernel
  rw [hchain] at htexts
  obtain ⟨bound, hbound, hvalues⟩ := bind_eq_ok.mp hchain
  exact ⟨bound, values, hspec, hbound, hvalues, by decide +kernel, Option.some.inj htexts,
    rebound_name_last hspec (by decide +kernel) (by decide) (by decide) (by decide +kernel) hbound
      hvalues⟩

/-- The value from its own pass is not what each placeholder has: here the first of two has the
value from the second pass. -/
theorem not_rebound_name_of_pass :
    let engine : Engine := {}
    let spec : Loop := { collection := "xs".toList, item := some "x" }
    let source := "x".toList
    let content := "#\x7bp\x7d".toList
    let parameter : Value := .obj [("xs", .arr [.ofNat 1, .ofNat 2])]
    ∃ bound values,
      (engine.renderNode (.loop spec (rebinding "p" source content)) none parameter
        engine.memory).1 = .ok bound ∧
      bound.values = .ok values ∧
      ¬ List.Forall₂ (fun occurrence marker => occurrence.1 = "p".toList →
          marker.2 = occurrence.2)
        (reboundOccurrences content
          (engine.reboundValues spec "p" source parameter engine.memory))
        (bound.mappings.zip values) := by
  intro engine spec source content parameter
  have hok : ((engine.renderNode (.loop spec (rebinding "p" source content)) none parameter
      engine.memory).1 >>= fun bound => bound.values.map (bound.mappings.zip ·)).isOk = true := by
    decide +kernel
  obtain ⟨markers, hchain⟩ := exists_of_isOk hok
  have htexts : ((engine.renderNode (.loop spec (rebinding "p" source content)) none parameter
      engine.memory).1 >>= fun bound => bound.values.map (bound.mappings.zip ·)).toOption.map
        (·.map (·.2.toSql)) = some (["2", "2"].map String.toList) := by
    decide +kernel
  rw [hchain] at htexts
  obtain ⟨bound, hbound, hmarkers⟩ := bind_eq_ok.mp hchain
  obtain ⟨values, hvalues, rfl⟩ := map_eq_ok.mp hmarkers
  refine ⟨bound, values, hbound, hvalues, fun hall => ?_⟩
  have hown : ∀ occurrence ∈ reboundOccurrences content
      (engine.reboundValues spec "p" source parameter engine.memory),
        occurrence.1 = "p".toList := by
    decide +kernel
  have hoccurrences : (reboundOccurrences content
      (engine.reboundValues spec "p" source parameter engine.memory)).map (·.2.toSql) =
        ["1", "2"].map String.toList := by
    decide +kernel
  have hsame : (reboundOccurrences content
      (engine.reboundValues spec "p" source parameter engine.memory)).map (·.2.toSql) =
        (bound.mappings.zip values).map (·.2.toSql) := by
    rw [← List.forall₂_eq_eq_eq, List.forall₂_map_left_iff, List.forall₂_map_right_iff]
    refine ((List.forall₂_and_left _ _).mpr ⟨hown, hall⟩).imp fun occurrence marker h => ?_
    rw [h.2 h.1]
  have hlast : (bound.mappings.zip values).map (·.2.toSql) = ["2", "2"].map String.toList :=
    Option.some.inj htexts
  rw [hoccurrences, hlast] at hsame
  exact absurd hsame (by decide)

end Engine

end SqlTemplate
