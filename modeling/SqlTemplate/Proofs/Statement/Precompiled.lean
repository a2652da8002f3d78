import SqlTemplate.Proofs.Node.Induction
import SqlTemplate.Proofs.Node.Steps
import SqlTemplate.Proofs.Statement.Types

/-!
# Statements prepared ahead of any parameter

A node of plain text can be prepared once. Types are then resolved without a parameter, but the
values that such a statement is bound to, and the form in which they are sent, are those of a
statement that is rendered for the parameter.
-/

namespace SqlTemplate

open Render Results

/-- The names that bindings start with. -/
def Bindings.seeded : List String := [parameterName, databaseName, scalarName]

/-- Bindings start with no other names. -/
theorem Bindings.get?_seed {name : String} (h : name ∉ seeded) (parameter : Value)
    (database : Option String) : (seed parameter database).entries.get? name = none := by
  simp only [seeded, List.mem_cons, List.not_mem_nil, or_false, not_or] at h
  obtain ⟨hparameter, hdatabase, hscalar⟩ := h
  cases parameter <;> simp [seed, insert, ofParameter, Fields.get?_insert, hparameter, hdatabase,
    hscalar]

/-- Plain text is rendered to the same chunks from every state, which it leaves. -/
theorem Node.gives_of_isDynamic_eq_false {node : Node} (h : node.isDynamic = false) :
    ∃ chunks, ∀ s, (render node).Gives s true chunks s := by
  induction node using Node.inductionOn with
  | mixed children ih =>
    have hall : ∃ chunks, ∀ s, (renderAll children).Gives s () chunks s := by
      rw [isDynamic] at h
      induction children with
      | nil => exact ⟨[], fun s => gives_renderAll_nil.mpr ⟨rfl, rfl⟩⟩
      | cons node rest ihrest =>
        rw [anyDynamic, Bool.or_eq_false_iff] at h
        obtain ⟨first, hfirst⟩ := ih node List.mem_cons_self h.1
        obtain ⟨others, hothers⟩ := ihrest (fun n hn => ih n (List.mem_cons_of_mem _ hn)) h.2
        exact ⟨first ++ others, fun s => gives_renderAll_cons.mpr
          ⟨true, first, s, others, hfirst s, hothers s, rfl⟩⟩
    obtain ⟨chunks, hchunks⟩ := hall
    refine ⟨chunks, fun s => ?_⟩
    rw [render, gives_bind]
    exact ⟨(), chunks, s, [], hchunks s, gives_pure.mpr ⟨rfl, rfl, rfl⟩, by simp⟩
  | text content => exact ⟨[content], fun s => gives_text.mpr ⟨rfl, rfl, rfl⟩⟩
  | spliced | cond | choose | trim | loop | bind => cases h

namespace Mapping

/-- Without a parameter a property has no type but `any`, or that of a cursor. Its path is one that
can be read unless it is that of a cursor. -/
theorem resolveType_of_null {handlers : Handlers} {p : Placeholder} {valueType : ValueType}
    (h : resolveType ⟨.byPath, handlers, .any, .null, []⟩ p = .ok valueType) :
    p.get? "jdbcType".toList = some SqlType.cursor.name.toList ∧ valueType = .cursor ∨
      p.get? "jdbcType".toList ≠ some SqlType.cursor.name.toList ∧ valueType = .any ∧
        ∃ steps, Path.parse p.property = .ok steps := by
  simp only [resolveType, Fields.get?_nil] at h
  rw [if_neg (by decide)] at h
  split at h
  · rename_i hcursor
    exact .inl ⟨hcursor, (Except.ok.inj h).symm⟩
  · rename_i hcursor
    obtain ⟨type?, hget, rfl⟩ := map_eq_ok.mp h
    obtain ⟨found, hfound, rfl⟩ := map_eq_ok.mp hget
    obtain ⟨steps, hsteps, -⟩ := map_eq_ok.mp hfound
    refine .inr ⟨hcursor, ?_, steps, hsteps⟩
    cases found with
    | none => rfl
    | some value =>
      rw [Accessor.byPath_nullIsEmpty _ _ hfound]
      rfl

/-- A property that has a type without a parameter has one for every parameter, if no additional
value is in its way. It is that of a cursor only if it was before. -/
theorem exists_resolveType {handlers : Handlers} {p : Placeholder} {own : ValueType}
    (h : resolveType ⟨.byPath, handlers, .any, .null, []⟩ p = .ok own) (parameter : Value)
    {additional : Fields}
    (hadditional : additional.get? (String.ofList (Path.splitRoot p.property).1) = none) :
    ∃ valueType, resolveType ⟨.byPath, handlers, .of parameter, parameter, additional⟩ p =
      .ok valueType ∧ (valueType = .cursor → own = .cursor) := by
  simp only [resolveType, hadditional]
  by_cases hscalar : (ValueType.of parameter).isScalar = true
  · rw [if_pos hscalar]
    refine ⟨_, rfl, fun hcursor => ?_⟩
    rw [hcursor] at hscalar
    cases hscalar
  · rw [if_neg hscalar]
    rcases resolveType_of_null h with ⟨hjdbc, hown⟩ | ⟨hjdbc, -, steps, hsteps⟩
    · exact ⟨.cursor, if_pos hjdbc, fun _ => hown⟩
    · have hget : Accessor.byPath.get? parameter p.property =
          .ok (Value.walk? steps parameter) := by
        change (Path.parse p.property).map (Value.walk? · parameter) = _
        rw [hsteps]
        rfl
      rw [if_neg hjdbc, Accessor.byPath_typesDerived, hget]
      refine ⟨_, rfl, fun hcursor => ?_⟩
      exact absurd ((ValueType.getD_map_of _).symm.trans hcursor) (ValueType.of_ne_cursor _)

/-- A mapping that a body has without a parameter differs at most in its type from one that the
body has for a parameter. If the type is another one, it was not that of a scalar before, and is the
one that is resolved for the parameter now. -/
theorem exists_ofBody_of_null {handlers : Handlers} {body : Text} {m : Mapping}
    (h : ofBody ⟨.byPath, handlers, .any, .null, []⟩ body = .ok m) (parameter : Value)
    {additional : Fields}
    (hadditional : additional.get? (String.ofList (Path.splitRoot m.property).1) = none) :
    ∃ n, ofBody ⟨.byPath, handlers, .of parameter, parameter, additional⟩ body = .ok n ∧
      AgreeUpToType handlers m n ∧
      (m.valueType = n.valueType ∨ m.valueType.isScalar = false ∧
        ∃ p : Placeholder, n.property = p.property ∧
          resolveType ⟨.byPath, handlers, .of parameter, parameter, additional⟩ p =
            .ok n.valueType) := by
  obtain ⟨p, own, hp, hproperty, hown, -⟩ := valueType_of_ofBody h
  rw [hproperty] at hadditional
  obtain ⟨valueType, htype, hcursor⟩ := exists_resolveType hown parameter hadditional
  let known : Surroundings := ⟨.byPath, handlers, .any, .null, []⟩
  let other : Surroundings := ⟨.byPath, handlers, .of parameter, parameter, additional⟩
  have hhandlers : other.handlers = known.handlers := rfl
  obtain ⟨n, hn, hagree, hsame⟩ := exists_ofBody hhandlers h hp htype
    fun hvalue => hcursor hvalue ▸ hown
  refine ⟨n, hn, hagree, ?_⟩
  rcases hsame with hsame | ⟨hraw, rfl⟩
  · exact .inl hsame
  · refine .inr ⟨?_, p, hagree.property.symm.trans hproperty, htype⟩
    rcases resolveType_of_null hraw with ⟨-, hany⟩ | ⟨-, hany, -⟩
    · rw [hany]
      rfl
    · rw [hany]
      rfl

end Mapping

/-- Two mappings that agree send a value in the same way if their types are the same, or suit it. -/
theorem WireValue.ofValue_of_agree {handlers : Handlers} {m n : Mapping} {value : Value}
    (hagree : Mapping.AgreeUpToType handlers m n)
    (h : m.valueType = n.valueType ∨ m.valueType.Suits value ∧ n.valueType.Suits value) :
    ofValue m value = ofValue n value := by
  rcases h with hsame | ⟨hm, hn⟩
  · unfold ofValue
    rw [hsame, hagree.property, hagree.sqlType]
  · rw [ofValue_of_suits hm, ofValue_of_suits hn, hagree.property, hagree.sqlType]

/-- Two mappings that agree find the same value in two statements for one parameter, of which the
first has no additional values and the second none in their way. -/
theorem Bound.value_of_agree {fixed bound : Bound} {handlers : Handlers} {m n : Mapping}
    (hagree : Mapping.AgreeUpToType handlers m n) (hparameter : fixed.parameter = bound.parameter)
    (haccessor : fixed.accessor = bound.accessor) (hadditional : fixed.additional = [])
    (hentry : bound.additional.get? (String.ofList (Path.splitRoot m.property).1) = none) :
    fixed.value m = bound.value n := by
  have hnone : fixed.additional.get? (String.ofList (Path.splitRoot m.property).1) = none := by
    rw [hadditional]
    rfl
  have hfind : fixed.find? m = bound.find? n := by
    rw [find?_of_parameter hnone, find?_of_parameter (hagree.property ▸ hentry), hparameter,
      haccessor, hagree.property]
  rw [value, value, hfind, hagree.mode]

namespace Engine

/-- How a statement that is bound to its parameter at once stands to one that is rendered for it:
same text, same values and same wire values, with mappings that differ in their types at most. -/
structure Precompiles (engine : Engine) (fixed bound : Bound) : Prop where
  sql : fixed.sql = bound.sql
  mappings : List.Forall₂ (Mapping.AgreeUpToType engine.handlers) fixed.mappings bound.mappings
  values : fixed.values = bound.values
  wireValues : fixed.wireValues = bound.wireValues

/-- A node of plain text is prepared from its chunks, which are the same for every parameter. -/
theorem prepareNode_eq (engine : Engine) {root : Node} {chunks : List Text}
    (hchunks : ∀ s, root.render.Gives s true chunks s) (parameterType : ValueType) :
    engine.prepareNode root parameterType =
      Prepared.ofText engine.config (engine.surroundings parameterType .null [])
        (joinChunks [] chunks).trim := by
  have happly : root.apply (Context.start .null none engine.evaluator engine.memory) =
      (.ok true, { buffer := joinChunks [] chunks
                   state := (Context.start .null none engine.evaluator engine.memory).state }) := by
    rw [root.apply_eq_perform, Context.perform, hchunks]
    rfl
  rw [prepareNode, happly]
  rfl

/-- A statement of plain text that can be prepared without a parameter can be rendered for every
parameter, unless a placeholder starts with a name that bindings start with. Both ways lead to the
same text, the same values and the same wire values, or to the same errors for them. -/
theorem prepared_agrees_with_rendered {engine : Engine} {root : Node} {statement : Prepared}
    (haccessor : engine.accessor = .byPath) (hstatic : root.isDynamic = false)
    (hprepared : engine.prepareNode root .any = .ok statement)
    (hnames : ∀ m ∈ statement.mappings,
      String.ofList (Path.splitRoot m.property).1 ∉ Bindings.seeded)
    (name : Option String) (parameter : Value) (memory : Memory) :
    ∃ fixed bound after,
      engine.bind (.prepared statement) parameter memory = (.ok fixed, memory) ∧
      engine.bind (.dynamic root name) parameter memory = (.ok bound, after) ∧
      engine.Precompiles fixed bound := by
  obtain ⟨chunks, hchunks⟩ := Node.gives_of_isDynamic_eq_false hstatic
  have htext := (engine.prepareNode_eq hchunks .any).symm.trans hprepared
  obtain ⟨hsql, hmappings⟩ := Prepared.ofText_eq_ok.mp htext
  have hseed (m : Mapping) (hm : m ∈ statement.mappings) :=
    Bindings.get?_seed (hnames m hm) parameter engine.config.database
  -- The mappings for the parameter, found body by body.
  obtain ⟨mappings, hothers, hpairs⟩ := exists_common_partners hmappings fun body m hm hbody => by
    rw [surroundings, haccessor] at hbody
    exact Mapping.exists_ofBody_of_null hbody parameter (hseed m hm)
  let fixed : Bound :=
    { statement with parameter, additional := [], accessor := engine.accessor }
  let bound : Bound :=
    { sql := statement.sql, mappings, parameter
      additional := (Bindings.seed parameter engine.config.database).entries
      accessor := engine.accessor }
  have hrendered : (engine.renderNode root name parameter memory).1 = .ok bound := by
    refine renderNode_eq_ok.mpr ⟨true, chunks, engine.start parameter memory,
      ⟨statement.sql, mappings⟩, hchunks _, Prepared.ofText_eq_ok.mpr ⟨hsql, ?_⟩, rfl⟩
    rw [surroundings, haccessor]
    exact hothers
  have hall := (List.forall₂_and_left statement.mappings mappings).mpr ⟨hseed, hpairs⟩
  have hvalue : List.Forall₂ (fun m n => fixed.value m = bound.value n)
      fixed.mappings bound.mappings := by
    refine hall.imp fun m n hpair => ?_
    obtain ⟨hentry, hagree, -⟩ := hpair
    exact Bound.value_of_agree hagree rfl rfl rfl hentry
  have hvalues : fixed.values = bound.values := mapM_eq_mapM hvalue
  refine ⟨fixed, bound, (engine.renderNode root name parameter memory).2, rfl,
    Prod.ext hrendered rfl, rfl, hpairs.imp fun _ _ h => h.1, hvalues, ?_⟩
  unfold Bound.wireValues
  rw [hvalues]
  cases hfound : bound.values with
  | error e => rfl
  | ok values =>
    refine mapM_eq_mapM (forall₂_zip_zip hpairs (mapM_eq_ok.mp hfound) ?_)
    rintro m n value ⟨hagree, hsame | ⟨hscalar, p, hproperty, htype⟩⟩ hlookup
    · exact WireValue.ofValue_of_agree hagree (.inl hsame)
    · refine WireValue.ofValue_of_agree hagree (.inr ⟨fun h => ?_, ?_⟩)
      · rw [hscalar] at h
        cases h
      · have htypes : engine.accessor.TypesDerived := haccessor ▸ Accessor.byPath_typesDerived
        rw [← haccessor] at htype
        exact Bound.suits_of_resolveType htypes hproperty htype hlookup

/-- A statement with a list item, a declared type and a cursor, for a parameter whose item is a
number that its type cannot hold: both ways refuse it in the same words. -/
theorem prepared_agrees_on_refusal :
    let engine : Engine := {}
    let root : Node := .mixed [.text "a = #{ids[0]:SMALLINT} and b = #{b, javaType=string}".toList,
      .text "and c = #{c, mode=OUT, jdbcType=CURSOR, resultMap=rows}".toList]
    let parameter : Value := .obj [("b", .str "x"), ("ids", .arr [.ofNat 40000])]
    let refusal : Error := .evaluation "ids[0]".toList (.outOfRange "SMALLINT")
    ∃ statement, engine.accessor = .byPath ∧ root.isDynamic = false ∧
      engine.prepareNode root .any = .ok statement ∧
      (∀ m ∈ statement.mappings,
        String.ofList (Path.splitRoot m.property).1 ∉ Bindings.seeded) ∧
      ∃ fixed bound after,
        engine.bind (.prepared statement) parameter engine.memory = (.ok fixed, engine.memory) ∧
        engine.bind (.dynamic root none) parameter engine.memory = (.ok bound, after) ∧
        engine.Precompiles fixed bound ∧
        fixed.wireValues = .error refusal ∧ bound.wireValues = .error refusal := by
  intro engine root parameter refusal
  have hroots : (engine.prepareNode root .any).toOption.map (·.mappings.all fun m =>
      decide (String.ofList (Path.splitRoot m.property).1 ∉ Bindings.seeded)) = some true := by
    decide +kernel
  have hrefusal : (engine.renderNode root none parameter engine.memory).1.toOption.map
      (WireValue.refusal? ·.wireValues) = some (some (.outOfRange "ids[0]".toList "SMALLINT")) := by
    decide +kernel
  obtain ⟨statement, hprepared, hall⟩ := Option.map_eq_some_iff.mp hroots
  have hstatement := toOption_inj hprepared rfl
  have hnames (m : Mapping) (hm : m ∈ statement.mappings) :
      String.ofList (Path.splitRoot m.property).1 ∉ Bindings.seeded :=
    of_decide_eq_true (List.all_eq_true.mp hall m hm)
  obtain ⟨fixed, bound, after, hfixed, hbound, hsame⟩ :=
    prepared_agrees_with_rendered rfl rfl hstatement hnames none parameter engine.memory
  have hrendered : (engine.renderNode root none parameter engine.memory).1 = .ok bound :=
    congrArg Prod.fst hbound
  rw [hrendered] at hrefusal
  have hrefused : bound.wireValues = .error refusal :=
    WireValue.eq_error_of_refusal? (Option.some.inj hrefusal)
  exact ⟨statement, rfl, rfl, hstatement, hnames, fixed, bound, after, hfixed, hbound, hsame,
    hsame.wireValues.trans hrefused, hrefused⟩

end Engine

end SqlTemplate
