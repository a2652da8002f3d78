import SqlTemplate.Proofs.Node.Filtering
import SqlTemplate.Proofs.Node.Splicing
import SqlTemplate.Proofs.Render.Guarding
import SqlTemplate.Proofs.Statement.Rendering

/-!
# Statements under a filter

Every text that values are spliced into gets the filter of the configuration when it is compiled,
however deep it stands. So a filter refuses the texts that it does not accept, and leaves everything
else as it is without a filter.
-/

namespace SqlTemplate

/-- The configuration with another filter, or with none. -/
def Config.withFilter (config : Config) (filter : Option Filter) : Config := { config with filter }

namespace Template

/-- A text gets the filter of the configuration if values are spliced into it. -/
theorem compileText_filtered (config other : Config) (content : Text) :
    compileText other content = (compileText config content).filtered other.filter := by
  unfold compileText
  cases Delimiters.substitution.hasToken content with
  | true => rfl
  | false => rfl

variable {config other : Config}

mutual

/-- Only the filter and what loops make of `null` count when a template is compiled. The filter
goes to the texts of the node and changes nothing else. -/
theorem compileNode_filtered (hloops : other.nullableLoops = config.nullableLoops)
    (template : Template) :
    compileNode other template =
      (compileNode config template).map (Node.filtered other.filter) := by
  cases template with
  | text content =>
    rw [compileNode, compileNode, compileText_filtered config other]
    rfl
  | element name attributes children =>
    have hall := compileAll_filtered hloops children
    have hbranches := compileBranches_filtered hloops false children
    rw [compileNode.eq_def, compileNode.eq_def]
    dsimp only
    split
    case h_1 | h_2 | h_3 | h_8 =>
      rw [hall]
      cases compileAll config children <;> rfl
    case h_4 =>
      have hloop : loop other attributes = loop config attributes := by
        rw [loop, loop, nullable, nullable, hloops]
      rw [hall, hloop]
      cases compileAll config children with
      | error e => rfl
      | ok nodes => cases loop config attributes <;> rfl
    case h_5 | h_6 =>
      rw [hall]
      cases required _ attributes "test" with
      | error e => rfl
      | ok test => cases compileAll config children <;> rfl
    case h_7 =>
      rw [hbranches]
      cases compileBranches config false children <;> rfl
    case h_9 =>
      cases required _ attributes "name" with
      | error e => rfl
      | ok name => cases required _ attributes "value" <;> rfl
    case h_10 => rfl

/-- Several templates are compiled to the same nodes, but for the filter. -/
theorem compileAll_filtered (hloops : other.nullableLoops = config.nullableLoops)
    (templates : List Template) :
    compileAll other templates =
      (compileAll config templates).map (Node.filteredAll other.filter) := by
  cases templates with
  | nil => rfl
  | cons first rest =>
    rw [compileAll, compileAll, compileNode_filtered hloops first, compileAll_filtered hloops rest]
    cases compileNode config first with
    | error e => rfl
    | ok node => cases compileAll config rest <;> rfl

/-- The branches of a choice are compiled to the same nodes, but for the filter. -/
theorem compileBranches_filtered (hloops : other.nullableLoops = config.nullableLoops)
    (given : Bool) (templates : List Template) :
    compileBranches other given templates =
      (compileBranches config given templates).map
        (Prod.map (Node.filteredBranches other.filter) (Node.filteredLast other.filter)) := by
  cases templates with
  | nil => rfl
  | cons first rest =>
    cases first with
    | text content =>
      rw [compileBranches, compileBranches]
      split
      · exact compileBranches_filtered hloops given rest
      · rfl
    | element name attributes children =>
      have hall := compileAll_filtered hloops children
      rw [compileBranches.eq_def, compileBranches.eq_def]
      dsimp only
      split
      · rw [hall, compileBranches_filtered hloops given rest]
        cases required _ attributes "test" with
        | error e => rfl
        | ok test =>
          cases compileAll config children with
          | error e => rfl
          | ok nodes => cases compileBranches config given rest <;> rfl
      · split
        · rfl
        · rw [hall, compileBranches_filtered hloops true rest]
          cases compileAll config children with
          | error e => rfl
          | ok nodes => cases compileBranches config true rest <;> rfl
      · rfl

end

/-- Only the filter and what loops make of `null` count when a statement is compiled. -/
theorem compile_filtered (hloops : other.nullableLoops = config.nullableLoops)
    (template : Template) :
    template.compile other = (template.compile config).map (Node.filtered other.filter) := by
  cases template with
  | text content =>
    rw [compile, compile, compileText_filtered config other]
    rfl
  | element name attributes children =>
    rw [compile, compile, compileAll_filtered hloops]
    cases compileAll config children <;> rfl

end Template

/-- The source with one filter for all the texts in it that values are spliced into. -/
def Source.filtered (filter : Option Filter) : Source → Source
  | .dynamic root name => .dynamic (root.filtered filter) name
  | source => source

namespace Engine

/-- The engine with another filter, or with none. -/
def withFilter (engine : Engine) (filter : Option Filter) : Engine :=
  { engine with config := engine.config.withFilter filter }

/-- Compiles a template, for a type of parameter and under the name of the statement, and binds it
to a parameter. -/
def bindTemplate (engine : Engine) (template : Template) (parameterType : ValueType)
    (name : Option String) (parameter : Value) (memory : Memory) : Except Error Bound × Memory :=
  match engine.compile template parameterType name with
  | .error e => (.error e, memory)
  | .ok source => engine.bind source parameter memory

/-- To render a template is to bind it for any type of parameter and without a name. -/
theorem render_eq_bindTemplate (engine : Engine) (template : Template) (parameter : Value)
    (memory : Memory) :
    engine.render template parameter memory =
      engine.bindTemplate template .any none parameter memory := rfl

/-- A template is compiled to the same source under every filter, but for the filter itself. -/
theorem compile_withFilter (engine : Engine) (filter : Option Filter) (template : Template)
    (parameterType : ValueType) (name : Option String) :
    (engine.withFilter filter).compile template parameterType name =
      (engine.compile template parameterType name).map (Source.filtered filter) := by
  have hconfig : (engine.withFilter filter).config = engine.config.withFilter filter := rfl
  unfold compile
  have hloops : (engine.config.withFilter filter).nullableLoops = engine.config.nullableLoops := rfl
  rw [hconfig, Template.compile_filtered hloops]
  cases template.compile engine.config with
  | error e => rfl
  | ok root =>
    change (if (root.filtered filter).isDynamic then _ else _) = Except.map _ (if _ then _ else _)
    rw [Node.isDynamic_filtered]
    cases hdynamic : root.isDynamic with
    | true => rfl
    | false =>
      have hprepare : (engine.withFilter filter).prepareNode root parameterType =
          engine.prepareNode root parameterType := rfl
      rw [Node.filtered_of_isDynamic_eq_false hdynamic, hprepare]
      cases engine.prepareNode root parameterType <;> rfl

/-- A memory starts with a faithful cache. -/
theorem faithful_memory (engine : Engine) : engine.memory.cache.Faithful :=
  Expr.Cache.faithful_empty _

/-- The cache of a bound statement is that after its rendering. What happens later splices nothing
in. -/
theorem splices_renderNode (engine : Engine) (root : Node) (name : Option String)
    (parameter : Value) (memory : Memory) :
    let rendered := (root.render (engine.start parameter memory)).state.memory
    let later := (engine.renderNode root name parameter memory).2
    later.cache = rendered.cache ∧ rendered.Splices [] later := by
  dsimp only
  simp only [renderNode, apply_start]
  cases (root.render (engine.start parameter memory)).result with
  | error e => exact ⟨rfl, .of_events_eq rfl⟩
  | ok contributed =>
    dsimp only [Context.sql]
    cases Prepared.ofText engine.config _ _ with
    | error e => exact ⟨rfl, .of_events_eq rfl⟩
    | ok statement => exact ⟨rfl, ⟨_, rfl, rfl⟩⟩

/-- Rendering starts alike from memories whose caches serve the evaluator alike. -/
theorem alike_start (engine : Engine) (parameter : Value) {memory₁ memory₂ : Memory}
    (h : engine.evaluator.Agree memory₁.cache memory₂.cache) :
    (engine.start parameter memory₁).Alike engine.evaluator (engine.start parameter memory₂) :=
  ⟨rfl, rfl, rfl, rfl, h⟩

/-- A filter makes of a bound statement what it makes of the rendering. -/
theorem finish_of_guarded (engine : Engine) (parameter : Value) {filter : Filter}
    {evaluator : Evaluator} {earlier : Memory} {texts : List Text} {o p : Outcome Bool}
    (h : Outcome.Guarded filter evaluator earlier texts o p) :
    engine.finish parameter p = filter.check texts (engine.finish parameter o) := by
  rcases filter.accepts_or_find? texts with haccepts | ⟨text, -, -, hfind⟩
  · rw [filter.check_of_accepts haccepts, finish, finish, h.result, h.chunks haccepts,
      (h.state haccepts).bindings, filter.check_of_accepts haccepts]
  · rw [filter.check_of_find? hfind, finish, h.result, filter.check_of_find? hfind]
    rfl

/-- The second statement is what a filter makes of the first one, given the texts that are spliced
into it since `earlier`. -/
def Guards (filter : Filter) (earlier : Memory) (plain guarded : Except Error Bound × Memory) :
    Prop :=
  guarded.1 = filter.check (earlier.splicedSince plain.2) plain.1

/-- What nothing is spliced into needs no guard. -/
theorem guards_same (filter : Filter) (memory₁ memory₂ : Memory) (result : Except Error Bound) :
    Guards filter memory₁ (result, memory₁) (result, memory₂) := by
  have hsplices : memory₁.Splices [] memory₁ := .of_events_eq rfl
  rw [Guards, hsplices.splicedSince_eq]
  exact (filter.check_of_accepts (by simp) result).symm

section Guarding

variable (engine : Engine) (filter : Filter) {memory₁ memory₂ : Memory}
  (hcaches : engine.evaluator.Agree memory₁.cache memory₂.cache)
include hcaches

/-- A node is bound under the guard of its filter. -/
theorem guards_renderNode (root : Node) (name : Option String) (parameter : Value) :
    Guards filter memory₁
      ((engine.withFilter none).renderNode (root.filtered none) name parameter memory₁)
      ((engine.withFilter (some filter)).renderNode (root.filtered (some filter)) name parameter
        memory₂) := by
  obtain ⟨texts, hrendered⟩ := Node.render_filtered (Render.compatible_guardedBy filter)
    (Render.guardedBy_splice filter) root (engine.alike_start parameter hcaches)
  obtain ⟨-, hevents⟩ :=
    splices_renderNode (engine.withFilter none) (root.filtered none) name parameter memory₁
  have htexts := (hrendered.splices.trans hevents).splicedSince_eq
  rw [List.append_nil] at htexts
  rw [Guards, renderNode_eq_finish, renderNode_eq_finish]
  exact (engine.finish_of_guarded parameter hrendered).trans (by rw [← htexts]; rfl)

/-- A source is bound under the guard of its filter. -/
theorem guards_bind (source : Source) (parameter : Value) :
    Guards filter memory₁
      ((engine.withFilter none).bind (source.filtered none) parameter memory₁)
      ((engine.withFilter (some filter)).bind (source.filtered (some filter)) parameter
        memory₂) := by
  cases source with
  | dynamic root name => exact engine.guards_renderNode filter hcaches root name parameter
  | prepared statement => exact guards_same filter _ _ _
  | supplied statement => exact guards_same filter _ _ _

/-- A template is bound under the guard of the filter that it is compiled with. -/
theorem guards_bindTemplate (template : Template) (parameterType : ValueType)
    (name : Option String) (parameter : Value) :
    Guards filter memory₁
      ((engine.withFilter none).bindTemplate template parameterType name parameter memory₁)
      ((engine.withFilter (some filter)).bindTemplate template parameterType name parameter
        memory₂) := by
  rw [bindTemplate, bindTemplate, compile_withFilter, compile_withFilter]
  cases engine.compile template parameterType name with
  | error e => exact guards_same filter _ _ _
  | ok source => exact engine.guards_bind filter hcaches source parameter

end Guarding

section Alike

variable {engine : Engine} {memory₁ memory₂ : Memory}
  (hcaches : engine.evaluator.Agree memory₁.cache memory₂.cache)
include hcaches

/-- What a source is bound to depends on the memory only as far as the evaluator does, and the
caches serve it alike afterwards. -/
theorem bind_congr {source : Source} (hsource : source.filtered engine.config.filter = source)
    (parameter : Value) :
    (engine.bind source parameter memory₁).1 = (engine.bind source parameter memory₂).1 ∧
      engine.evaluator.Agree (engine.bind source parameter memory₁).2.cache
        (engine.bind source parameter memory₂).2.cache := by
  cases source with
  | dynamic root name =>
    have hroot : root.filtered engine.config.filter = root := (Source.dynamic.inj hsource).1
    have hrender := Node.render_filtered Render.compatible_alike
      (Render.alike_splice engine.config.filter) root
    rw [hroot] at hrender
    obtain ⟨hresult, hchunks, hstate⟩ := hrender (engine.alike_start parameter hcaches)
    change (engine.renderNode root name parameter memory₁).1 =
        (engine.renderNode root name parameter memory₂).1 ∧
      engine.evaluator.Agree (engine.renderNode root name parameter memory₁).2.cache
        (engine.renderNode root name parameter memory₂).2.cache
    rw [renderNode_eq_finish, renderNode_eq_finish, finish, finish, hresult, hchunks,
      hstate.bindings, (splices_renderNode engine root name parameter memory₁).1,
      (splices_renderNode engine root name parameter memory₂).1]
    exact ⟨rfl, hstate.caches⟩
  | prepared statement => exact ⟨rfl, hcaches⟩
  | supplied statement => exact ⟨rfl, hcaches⟩

end Alike

/-- The filter of a compiled source is that of its engine. -/
theorem filtered_of_compile {engine : Engine} {template : Template} {parameterType : ValueType}
    {name : Option String} {source : Source}
    (h : engine.compile template parameterType name = .ok source) :
    source.filtered engine.config.filter = source := by
  have hsame : engine.withFilter engine.config.filter = engine := rfl
  have hfiltered := engine.compile_withFilter engine.config.filter template parameterType name
  rw [hsame, h] at hfiltered
  exact (Except.ok.inj hfiltered).symm

/-- A cache that serves the evaluator does so after a template has been bound. -/
theorem agree_bindTemplate (engine : Engine) (template : Template) (parameterType : ValueType)
    (name : Option String) (parameter : Value) {memory : Memory}
    (h : engine.evaluator.Agree memory.cache memory.cache) :
    let after := (engine.bindTemplate template parameterType name parameter memory).2
    engine.evaluator.Agree after.cache after.cache := by
  dsimp only
  unfold bindTemplate
  cases hcompile : engine.compile template parameterType name with
  | error e => exact h
  | ok source => exact (bind_congr h (filtered_of_compile hcompile) parameter).2

/-- A filter guards all the texts that are spliced into a statement, and changes nothing else. There
is a statement exactly when there is one without the filter and the filter accepts all texts spliced
into it, and it is the same statement then. The first text that is not accepted is an error. The
texts spliced in are those that stand for the tokens: a text with tokens is rendered to one chunk, in
which each token is replaced by its own of them. -/
theorem filter_guards_splices (engine : Engine) (filter : Filter) (template : Template)
    (parameterType : ValueType) (name : Option String) (parameter : Value)
    {memory₁ memory₂ : Memory} (hcaches : engine.evaluator.Agree memory₁.cache memory₂.cache) :
    let plain :=
      (engine.withFilter none).bindTemplate template parameterType name parameter memory₁
    let guarded :=
      (engine.withFilter (some filter)).bindTemplate template parameterType name parameter memory₂
    let texts := memory₁.splicedSince plain.2
    (∀ bound, guarded.1 = .ok bound ↔
        plain.1 = .ok bound ∧ ∀ text ∈ texts, filter.accepts text = true) ∧
      (∀ text, texts.find? (fun text => !filter.accepts text) = some text →
        guarded.1 = .error (.rejected text filter.pattern)) ∧
      ((∀ text ∈ texts, filter.accepts text = true) → guarded.1 = plain.1) ∧
      ∀ content own s contributed chunks t,
        (Node.spliced content own).render.Gives s contributed chunks t →
          let spliced := s.memory.splicedSince t.memory
          spliced.length = (Delimiters.substitution.bodies content).length ∧
            chunks = [fillAll (fun i => spliced[i]?.getD []) (Outline.ofContent content)] := by
  intro plain guarded texts
  have hresult : guarded.1 = filter.check texts plain.1 :=
    engine.guards_bindTemplate filter hcaches template parameterType name parameter
  rw [hresult]
  refine ⟨fun _ => filter.check_eq_ok, fun _ hfind => filter.check_of_find? hfind _,
    fun haccepts => filter.check_of_accepts haccepts _,
    fun content own s contributed chunks t h => ?_⟩
  obtain ⟨hlength, hchunks⟩ := Node.gives_spliced h
  exact ⟨hlength, hchunks _ fun i text htext => by rw [htext, Option.getD_some]⟩

/-- A column in a choice within a trimmed loop, and a suffix behind it that a filter for words does
not accept. The filter sees the texts in the order in which they are spliced in. -/
theorem filter_guards_nested_splices :
    let engine : Engine := {}
    let filter : Filter := ⟨"[a-z]+", fun text => text.all fun c => 'a' ≤ c && c ≤ 'z'⟩
    let template : Template := .element "select" [] [.text "select * from ${table}",
      .element "where" [] [.element "foreach" [("collection", "xs"), ("item", "x")] [
        .element "choose" [] [.element "when" [("test", "x == null")] [.text "and true"],
          .element "otherwise" [] [.text "and ${x} = #{x}"]]]],
      .element "if" [("test", "suffix != null")] [.text "${suffix}"]]
    let parameter (suffix : Value) : Value :=
      .obj [("suffix", suffix), ("table", .str "t"), ("xs", .arr [.str "a", .null, .str "b"])]
    let texts := ["t".toList, "a".toList, "b".toList]
    let render (filter : Option Filter) (suffix : Value) (memory : Memory) :=
      (engine.withFilter filter).bindTemplate template .any none (parameter suffix) memory
    let plain := render none (.str "; --") engine.memory
    (plain.1.map (·.sql)).toOption =
        some "select * from t WHERE a = ? and true and b = ?; --".toList ∧
      engine.memory.splicedSince plain.2 = texts ++ ["; --".toList] ∧
      (render (some filter) (.str "; --") plain.2).1 =
        .error (.rejected "; --".toList filter.pattern) ∧
      engine.memory.splicedSince (render none .null engine.memory).2 = texts ∧
      (render (some filter) .null plain.2).1 = (render none .null engine.memory).1 := by
  intro engine filter template parameter texts render plain
  have hstart : engine.memory.cache.Faithful := engine.faithful_memory
  have hplainCache : plain.2.cache.Faithful :=
    ((agree_bindTemplate _ _ _ _ _ (.of_faithful hstart hstart)).faithful rfl).1
  have hplain : engine.memory.splicedSince plain.2 = texts ++ ["; --".toList] := by
    decide +kernel
  have hnull : engine.memory.splicedSince (render none .null engine.memory).2 = texts := by
    decide +kernel
  obtain ⟨-, hrejected, -⟩ :=
    filter_guards_splices engine filter template .any none (parameter (.str "; --"))
      (.of_faithful hstart hplainCache)
  obtain ⟨-, -, hsame, -⟩ :=
    filter_guards_splices engine filter template .any none (parameter .null)
      (.of_faithful hstart hplainCache)
  refine ⟨by decide +kernel, hplain, hrejected _ ?_, hnull, hsame ?_⟩
  · change (engine.memory.splicedSince plain.2).find? _ = _
    rw [hplain]
    decide +kernel
  · change ∀ text ∈ engine.memory.splicedSince (render none .null engine.memory).2, _
    rw [hnull]
    decide +kernel

end Engine

end SqlTemplate
