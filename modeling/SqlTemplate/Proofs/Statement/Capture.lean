import SqlTemplate.Proofs.Mapping.Names
import SqlTemplate.Proofs.Node.Capture
import SqlTemplate.Proofs.Statement.Lookup

/-!
# Values of loop variables

A statement is bound when all its loops are over. Still the marker of a placeholder within a loop
has the value that the variable had in its pass, since the placeholder has the name for that pass
and the bindings that are left have the value under it.
-/

namespace SqlTemplate

open Delimiters LoopScope Placeholder Results

namespace Emitted

variable {t : RenderState} {around : Fields} {body emitted : Text}

/-- A placeholder stays as it is behind padding that is not blank. -/
theorem eq_of_padding (h : Emitted t around body emitted)
    (hnames : ∀ entry ∈ around, IsName entry.1)
    (hpadding : ¬(padding (parameter.unescape body)).blank = true) : emitted = body := by
  cases h with
  | plain => rfl
  | @renamed before after name value id _ rest hbefore hrest hid hvalue =>
    have hname : IsName name := hnames (name, value) (by simp)
    exact absurd (hname.blank_padding hrest) hpadding

/-- A placeholder of a loop variable has the name for the pass that the variable is in, and the
value is found under it. -/
theorem exists_passName (h : Emitted t around body emitted)
    (hnames : ∀ entry ∈ around, IsName entry.1)
    (hpadding : (padding (parameter.unescape body)).blank = true) {name : String}
    (hroot : (Path.splitRoot (written (parameter.unescape body))).1 = name.toList) {value : Value}
    (hvalue : around.get? name = some value) :
    IsName name ∧ ∃ id rest, afterName? name body = some rest ∧
      emitted = (passName name id).toList ++ rest ∧
      t.bindings.bound? (passName name id) = some value := by
  obtain ⟨first, last, hsplit, -⟩ := List.lookup_eq_some_iff.mp hvalue
  have hmem : (name, value) ∈ around := by
    rw [hsplit]
    simp
  have hname : IsName name := hnames _ hmem
  obtain ⟨rest, hrest⟩ := hname.exists_afterName? hpadding hroot
  refine ⟨hname, ?_⟩
  cases h with
  | plain hnone =>
    rw [hnone _ hmem] at hrest
    cases hrest
  | @renamed before after other found id _ more hbefore hmore hid hfound =>
    have hother : IsName other := hnames (other, found) (by simp)
    obtain rfl := name_eq_of_afterName? hname hother hrest hmore
    -- No variable further in has the name, so the one found is the innermost.
    have hskip : List.lookup name before = none := by
      rw [List.lookup_eq_none_iff]
      intro entry hentry
      rw [bne_iff_ne]
      rintro rfl
      rw [hbefore entry hentry] at hrest
      cases hrest
    rw [Fields.get?, List.lookup_append, hskip, Option.none_or, List.lookup_cons_self] at hvalue
    obtain rfl := Option.some.inj hvalue
    exact ⟨id, more, hmore, rfl, hfound⟩

end Emitted

/-- The property of a mapping is the one that is written, unless an attribute says something
else. -/
theorem Mapping.property_of_ofBody {known : Surroundings} {body : Text} {m : Mapping}
    (h : ofBody known body = .ok m) (hgiven : ∀ entry ∈ given body, entry.1 ≠ "property".toList) :
    m.property = written body := by
  obtain ⟨p, _, hp, hproperty, -⟩ := valueType_of_ofBody h
  rw [hproperty, property_of_parse hp hgiven]

/-- What a marker has to do with the placeholder that it stands for, and the variables of the loops
around that. If the property starts with the name of one of them, then the value of an input is
what the accessor finds from the innermost variable with that name, `null` if nothing is there.
Behind padding that is not blank the loops do not count: the property stays as it is written. -/
def Captured (accessor : Accessor) (occurrence : Text × Fields) (marker : Mapping × Value) : Prop :=
  let body := parameter.unescape occurrence.1
  let path := Path.splitRoot (written body)
  ∀ element, occurrence.2.get? (String.ofList path.1) = some element →
    (∀ entry ∈ given body, entry.1 ≠ "property".toList) → marker.1.mode.isInput = true →
    if (padding body).blank then
      ∃ found, accessor.follow? element path.2 = .ok found ∧ marker.2 = found.getD .null
    else marker.1.property = written body

/-- The marker for a placeholder that has come out of all loops has the value of its variable. -/
theorem captured_of_emitted {bound : Bound} {known : Surroundings} {t : RenderState}
    {occurrence : Text × Fields} {emitted : Text} {m : Mapping} {value : Value}
    (hadditional : bound.additional = t.bindings.entries)
    (hemitted : EmittedWithin [] t occurrence emitted)
    (hm : Mapping.ofBody known (parameter.unescape emitted) = .ok m)
    (hvalue : bound.value m = .ok value) : Captured bound.accessor occurrence (m, value) := by
  obtain ⟨body, around⟩ := occurrence
  obtain ⟨inner, hinner, hnames, hcome⟩ := hemitted
  obtain rfl : around = inner := by simpa using hinner
  intro element helement hgiven hinput
  have hroot : (Path.splitRoot (written (parameter.unescape body))).1 =
      (String.ofList (Path.splitRoot (written (parameter.unescape body))).1).toList :=
    String.toList_ofList.symm
  split
  · rename_i hpadding
    obtain ⟨hname, id, rest, hrest, hrenamed, hfound⟩ :=
      hcome.exists_passName hnames hpadding hroot helement
    obtain ⟨hattributes, hsplit⟩ := hname.read_renamed hrest hroot hrenamed
    have hproperty := Mapping.property_of_ofBody hm fun entry hentry =>
      hgiven entry (by rw [← hattributes]; exact hentry)
    rw [← hproperty] at hsplit
    have hentry : bound.additional.get? (String.ofList (Path.splitRoot m.property).1) =
        some element := by
      rw [hsplit, String.ofList_toList, hadditional]
      exact hfound
    rw [Bound.value, if_pos hinput, Bound.find?_of_additional hentry, hsplit] at hvalue
    obtain ⟨found, hfollow, hsame⟩ := map_eq_ok.mp hvalue
    exact ⟨found, hfollow, hsame.symm⟩
  · rename_i hpadding
    obtain rfl := hcome.eq_of_padding hnames hpadding
    exact Mapping.property_of_ofBody hm hgiven

namespace Engine

/-- The placeholders that rendering a node for a parameter comes to, with their escapes, each with
the variables of the loops around it. -/
def occurrences (engine : Engine) (root : Node) (parameter : Value) (memory : Memory) :
    List (Text × Fields) :=
  Visit.occurrences (root.visits [] (engine.start parameter memory))

/-- What is scanned for placeholders has those of the text. -/
theorem closed_scanned {config : Config} {text : Text} {bodies : List Text}
    (h : Closed text bodies) : Closed (Prepared.scanned config text) bodies := by
  unfold Prepared.scanned
  split
  · exact Prepared.closed_shrink h
  · exact h

/-- Loop variables are captured pass by pass, at any depth and under any other variables: each
marker has the value of the variable that its placeholder names, in the pass that it comes from.
Behind padding that is not blank a placeholder names no loop variable. -/
theorem loop_variables_captured {engine : Engine} {root : Node} (hroot : root.Capturing)
    {name : Option String} {parameter : Value} {memory : Memory} {bound : Bound}
    {values : List Value} (hbound : (engine.renderNode root name parameter memory).1 = .ok bound)
    (hvalues : bound.values = .ok values) :
    List.Forall₂ (Captured engine.accessor) (engine.occurrences root parameter memory)
      (bound.mappings.zip values) := by
  obtain ⟨haccessor, -, -, hmappings⟩ := mappings_of_renderNode hbound
  obtain ⟨_, chunks, state, statement, hrender, -, hsame⟩ := renderNode_eq_ok.mp hbound
  have hadditional : bound.additional = state.bindings.entries := by rw [hsame]
  obtain ⟨-, bodies, hchunks, hemitted⟩ := hroot.captures [] hrender
  have htext : Closed (engine.renderedText root parameter memory) bodies := by
    rw [renderedText, hrender]
    exact (closed_joinChunks .nil hchunks).trim
  have hplaceholders : engine.placeholders root parameter memory =
      bodies.map Delimiters.parameter.unescape := by
    rw [placeholders, contents, (closed_scanned htext).bodies_eq]
  rw [hplaceholders, List.forall₂_map_left_iff] at hmappings
  have hmarkers := forall₂_zip_right hmappings (mapM_eq_ok.mp hvalues)
  refine forall₂_of_common hemitted.flip hmarkers fun body occurrence marker hcome hmarker => ?_
  rw [← haccessor]
  exact captured_of_emitted hadditional hcome hmarker.1 hmarker.2

/-- A loop within a loop whose item has the same name, in a clause and with conditions: every marker
has the value of its pass. -/
theorem loop_variables_captured_of_shadowed_item :
    let engine : Engine := {}
    let inner : Loop := { collection := "x.ys".toList, item := some "x", separator := [','] }
    let outer : Loop :=
      { collection := "xs".toList, item := some "x", index := some "i", opening := some ['('],
        closing := some [')'], separator := " or ".toList }
    let root : Node := .mixed [.text "select * from t".toList, .trim .whereClause (.loop outer
      (.mixed [.choose [("x.on".toList, .text "k = #{i} and".toList)] none,
        .text "n in (".toList, .loop inner (.text "#{x} + #{i}".toList),
        .cond "i != null".toList (.text ") and id = #{ x.id, jdbcType=INTEGER}".toList)]))]
    let parameter : Value := .obj [("xs", .arr [
      .obj [("id", .ofNat 1), ("on", .bool true), ("ys", .arr [.ofNat 10, .ofNat 20])],
      .obj [("id", .ofNat 2), ("ys", .arr [.ofNat 30])]])]
    ∃ bound values, root.Capturing ∧
      (engine.renderNode root none parameter engine.memory).1 = .ok bound ∧
      bound.values = .ok values ∧
      values.map Value.toSql = ["0", "10", "0", "20", "0", "1", "30", "1", "2"].map String.toList ∧
      List.Forall₂ (Captured engine.accessor)
        (engine.occurrences root parameter engine.memory) (bound.mappings.zip values) := by
  intro engine inner outer root parameter
  have hx : IsName "x" := by decide +kernel
  have hi : IsName "i" := by decide +kernel
  have hinner : inner.Capturing := by
    refine ⟨?_, ?_, ?_, ?_, by decide⟩
    · simpa [inner] using hx
    · simp [inner]
    · simp [inner]
    · simp [inner]
  have houter : outer.Capturing := by
    have hopening : Text.breakOn Delimiters.parameter.opening ['('] = none := by decide
    have hclosing : Text.breakOn Delimiters.parameter.opening [')'] = none := by decide
    refine ⟨?_, ?_, ?_, ?_, by decide +kernel⟩
    · simpa [outer] using hx
    · simpa [outer] using hi
    · simpa [outer] using hopening
    · simpa [outer] using hclosing
  have hroot : root.Capturing := by
    refine .mixed ?_
    simp only [List.forall_mem_cons, List.not_mem_nil, false_imp_iff, implies_true, and_true]
    refine ⟨.text (by decide +kernel), .trim TrimRule.whereClause_harmless (.loop houter
      (.mixed ?_))⟩
    simp only [List.forall_mem_cons, List.not_mem_nil, false_imp_iff, implies_true, and_true]
    refine ⟨.choose ?_ ?_, .text (by decide +kernel),
      .loop hinner (.text (by decide +kernel)), .cond (.text (by decide +kernel))⟩
    · simp only [List.forall_mem_cons, List.not_mem_nil, false_imp_iff, implies_true, and_true]
      exact .text (by decide +kernel)
    · rintro node hnode
      cases hnode
  have hok : ((engine.renderNode root none parameter engine.memory).1 >>= Bound.values).isOk =
      true := by
    decide +kernel
  obtain ⟨values, hchain⟩ := exists_of_isOk hok
  have htexts : ((engine.renderNode root none parameter engine.memory).1 >>=
      Bound.values).toOption.map (·.map Value.toSql) =
        some (["0", "10", "0", "20", "0", "1", "30", "1", "2"].map String.toList) := by
    decide +kernel
  rw [hchain] at htexts
  obtain ⟨bound, hbound, hvalues⟩ := bind_eq_ok.mp hchain
  exact ⟨bound, values, hroot, hbound, hvalues, Option.some.inj htexts,
    loop_variables_captured hroot hbound hvalues⟩

/-- Behind a control character that is no blank a placeholder names no loop variable, although it is
read as one that does: its value is that of a field outside the loop. -/
theorem not_loop_variables_captured :
    let engine : Engine := {}
    let spec : Loop := { collection := "xs".toList, item := some "x" }
    let root : Node := .loop spec (.text "#\x7b\u0001x\x7d".toList)
    let object : Value := .obj [("x", .ofNat 2), ("xs", .arr [.ofNat 1])]
    let occurrences := engine.occurrences root object engine.memory
    ∃ bound values, root.Capturing ∧
      (engine.renderNode root none object engine.memory).1 = .ok bound ∧
      bound.values = .ok values ∧
      occurrences.map (fun occurrence => (occurrence.2.get? "x").map Value.toSql) =
        [some ['1']] ∧
      values.map Value.toSql = [['2']] ∧
      ¬List.Forall₂ (fun occurrence marker =>
          let body := parameter.unescape occurrence.1
          let path := Path.splitRoot (written body)
          ∀ element, occurrence.2.get? (String.ofList path.1) = some element →
            (∀ entry ∈ given body, entry.1 ≠ "property".toList) → marker.1.mode.isInput = true →
              ∃ found, engine.accessor.follow? element path.2 = .ok found ∧
                marker.2 = found.getD .null)
        occurrences (bound.mappings.zip values) := by
  intro engine spec root object occurrences
  have hx : IsName "x" := by decide +kernel
  have hspec : spec.Capturing := by
    refine ⟨?_, ?_, ?_, ?_, by decide⟩
    · simpa [spec] using hx
    · simp [spec]
    · simp [spec]
    · simp [spec]
  have hread : occurrences.map (fun occurrence =>
      (Path.splitRoot (written (parameter.unescape occurrence.1)),
        given (parameter.unescape occurrence.1), (occurrence.2.get? "x").map Value.toSql)) =
          [((['x'], none), [], some ['1'])] := by
    decide +kernel
  have htexts : ((engine.renderNode root none object engine.memory).1 >>=
      Bound.values).toOption.map (·.map Value.toSql) = some [['2']] := by
    decide +kernel
  have hinputs : (engine.renderNode root none object engine.memory).1.toOption.map
      (·.mappings.map (·.mode.isInput)) = some [true] := by
    decide +kernel
  obtain ⟨values, hchain, hvalue⟩ := Option.map_eq_some_iff.mp htexts
  obtain ⟨bound, hbound, hvalues⟩ := bind_eq_ok.mp (toOption_inj hchain rfl)
  rw [hbound] at hinputs
  obtain ⟨occurrence, hoccurrence, hplace⟩ := List.map_eq_singleton_iff.mp hread
  obtain ⟨hpath, hrest⟩ := Prod.mk.inj hplace
  obtain ⟨hgiven, hitem⟩ := Prod.mk.inj hrest
  refine ⟨bound, values, .loop hspec (.text (by decide +kernel)), hbound, hvalues, ?_, hvalue,
    fun hall => ?_⟩
  · rw [hoccurrence, List.map_singleton, hitem]
  obtain ⟨m, hm, hinput⟩ := List.map_eq_singleton_iff.mp (Option.some.inj hinputs)
  obtain ⟨value, rfl, htext⟩ := List.map_eq_singleton_iff.mp hvalue
  obtain ⟨element, helement, htextElement⟩ := Option.map_eq_some_iff.mp hitem
  rw [hoccurrence, hm, List.zip_cons_cons, List.forall₂_cons] at hall
  have hown := hall.1
  dsimp only at hown
  rw [hpath, hgiven] at hown
  obtain ⟨found, hfound, hsame⟩ := hown element helement nofun hinput
  -- the path has no more steps, so the value would be the element itself
  obtain rfl := Except.ok.inj hfound
  have hvalueElement : value = element := hsame
  rw [hvalueElement, htextElement] at htext
  exact absurd htext (by decide)

end Engine

end SqlTemplate
