import SqlTemplate.Proofs.Render.Recency
import SqlTemplate.Proofs.Statement.Filtering
import SqlTemplate.Proofs.Statement.Precompiled

/-!
# Sessions

An engine keeps parsed expressions from one operation to the next. What an operation answers does
not depend on how many are kept, nor on what has gone before.
-/

namespace SqlTemplate

/-- What an engine is asked to do. -/
inductive Operation
  /-- Compile a template and keep its source. -/
  | compile (template : Template) (parameterType : ValueType) (name : Option String)
  /-- Bind a source that has been kept, counted from the first one. -/
  | bind (source : ℕ) (parameter : Value)
  /-- Compile a template and bind it at once. -/
  | render (template : Template) (parameter : Value)

/-- What comes of an operation. -/
inductive Answer
  | compiled (result : Except Error Source)
  | bound (result : Except Error Bound)
  /-- There is no source with the number. -/
  | unknown

/-- The sources that have been kept, and the memory. -/
structure Session where
  sources : List Source := []
  memory : Memory

namespace Engine

/-- The engine with room for another number of parsed expressions. -/
def withCapacity (engine : Engine) (capacity : ℕ) : Engine :=
  { engine with config := { engine.config with cacheCapacity := capacity } }

/-- The session that an engine starts with. -/
def session (engine : Engine) : Session where
  memory := engine.memory

/-- The answer to an operation, and the session after it. -/
def perform (engine : Engine) (session : Session) : Operation → Answer × Session
  | .compile template parameterType name =>
    let result := engine.compile template parameterType name
    (.compiled result, { session with sources := session.sources ++ result.toOption.toList })
  | .bind source parameter =>
    match session.sources[source]? with
    | none => (.unknown, session)
    | some source =>
      let (result, memory) := engine.bind source parameter session.memory
      (.bound result, { session with memory })
  | .render template parameter =>
    let (result, memory) := engine.render template parameter session.memory
    (.bound result, { session with memory })

/-- The answers to some operations, one after the other, and the session after them. -/
def performAll (engine : Engine) (session : Session) : List Operation → List Answer × Session
  | [] => ([], session)
  | operation :: rest =>
    let (answer, next) := engine.perform session operation
    let (answers, last) := engine.performAll next rest
    (answer :: answers, last)

/-- A template is compiled to the same source whatever the room for parsed expressions is. -/
theorem compile_withCapacity (engine : Engine) (capacity : ℕ) (template : Template)
    (parameterType : ValueType) (name : Option String) :
    (engine.withCapacity capacity).compile template parameterType name =
      engine.compile template parameterType name := by
  have hcompile : template.compile (engine.withCapacity capacity).config =
      template.compile engine.config := by
    have hother : (engine.withCapacity capacity).config.nullableLoops =
        engine.config.nullableLoops := rfl
    rw [Template.compile_filtered hother]
    exact (Template.compile_filtered rfl template).symm
  unfold compile
  rw [hcompile]
  cases template.compile engine.config with
  | error e => rfl
  | ok root =>
    change (if root.isDynamic then _ else _) = if root.isDynamic then _ else _
    cases hdynamic : root.isDynamic with
    | true => rfl
    | false =>
      obtain ⟨chunks, hchunks⟩ := Node.gives_of_isDynamic_eq_false hdynamic
      have hprepare : (engine.withCapacity capacity).prepareNode root parameterType =
          engine.prepareNode root parameterType := by
        rw [prepareNode_eq _ hchunks, prepareNode_eq _ hchunks]
        rfl
      rw [hprepare]

/-- An operation is performed in the same way whatever the room for parsed expressions is. -/
theorem perform_withCapacity (engine : Engine) (capacity : ℕ) (session : Session)
    (operation : Operation) :
    (engine.withCapacity capacity).perform session operation =
      engine.perform session operation := by
  cases operation with
  | compile template parameterType name => rw [perform, compile_withCapacity, ← perform]
  | bind source parameter => rfl
  | render template parameter =>
    rw [perform, render, compile_withCapacity]
    rfl

/-- So are operations one after the other. -/
theorem performAll_withCapacity (engine : Engine) (capacity : ℕ) (session : Session)
    (operations : List Operation) :
    (engine.withCapacity capacity).performAll session operations =
      engine.performAll session operations := by
  induction operations generalizing session with
  | nil => rfl
  | cons operation rest ih => simp only [performAll, perform_withCapacity, ih]

variable {engine : Engine}

/-- Two sessions have the same sources, under the filter of the engine, and caches that serve its
evaluator alike. -/
structure Agree (engine : Engine) (first second : Session) : Prop where
  sources : first.sources = second.sources
  filtered : ∀ source ∈ first.sources, source.filtered engine.config.filter = source
  caches : engine.evaluator.Agree first.memory.cache second.memory.cache

/-- An operation has the same answer in sessions that agree, and they agree after it. -/
theorem Agree.perform {first second : Session} (h : engine.Agree first second)
    (operation : Operation) :
    (engine.perform first operation).1 = (engine.perform second operation).1 ∧
      engine.Agree (engine.perform first operation).2 (engine.perform second operation).2 := by
  cases operation with
  | compile template parameterType name =>
    refine ⟨rfl, ?_, fun source hsource => ?_, h.caches⟩
    · exact congrArg (· ++ _) h.sources
    · rcases List.mem_append.mp hsource with hold | hnew
      · exact h.filtered source hold
      · cases hcompile : engine.compile template parameterType name with
        | error e =>
          rw [hcompile] at hnew
          cases hnew
        | ok compiled =>
          rw [hcompile] at hnew
          obtain rfl := List.mem_singleton.mp hnew
          exact filtered_of_compile hcompile
  | bind index parameter =>
    simp only [Engine.perform, ← h.sources]
    cases hfound : first.sources[index]? with
    | none => exact ⟨rfl, h⟩
    | some source =>
      have hfiltered := h.filtered source (List.mem_of_getElem? hfound)
      obtain ⟨hsame, hcaches⟩ := bind_congr h.caches hfiltered parameter
      exact ⟨congrArg Answer.bound hsame, rfl, h.filtered, hcaches⟩
  | render template parameter =>
    simp only [Engine.perform, render]
    cases hcompile : engine.compile template .any none with
    | error e => exact ⟨rfl, h⟩
    | ok source =>
      obtain ⟨hsame, hcaches⟩ := bind_congr h.caches (filtered_of_compile hcompile) parameter
      exact ⟨congrArg Answer.bound hsame, h.sources, h.filtered, hcaches⟩

/-- Operations have the same answers in sessions that agree, and they agree after them. -/
theorem Agree.performAll {first second : Session} (h : engine.Agree first second)
    (operations : List Operation) :
    (engine.performAll first operations).1 = (engine.performAll second operations).1 ∧
      engine.Agree (engine.performAll first operations).2
        (engine.performAll second operations).2 := by
  induction operations generalizing first second with
  | nil => exact ⟨rfl, h⟩
  | cons operation rest ih =>
    obtain ⟨hanswer, hnext⟩ := h.perform operation
    obtain ⟨hanswers, hlast⟩ := ih hnext
    exact ⟨congrArg₂ List.cons hanswer hanswers, hlast⟩

/-- Sessions of the standard evaluator that have just started agree, whatever the room for parsed
expressions is. -/
theorem agree_session (hevaluator : engine.evaluator = .standard) (capacity other : ℕ) :
    engine.Agree (engine.withCapacity capacity).session (engine.withCapacity other).session where
  sources := rfl
  filtered _ h := nomatch h
  caches := hevaluator ▸ .of_faithful (faithful_memory _) (faithful_memory _)

/-- Under the standard evaluator any operations have the same answers whatever the room for parsed
expressions is, and a compiled source is bound in the same way before and after them. -/
theorem answers_of_any_capacity {engine : Engine} (hevaluator : engine.evaluator = .standard)
    (capacity other : ℕ) (operations : List Operation) :
    let answers (capacity : ℕ) :=
      let engine := engine.withCapacity capacity
      (engine.performAll engine.session operations).1
    let later := (engine.performAll engine.session operations).2.memory
    answers capacity = answers other ∧
      ∀ template parameterType name parameter,
        let bindIn (memory : Memory) :=
          (engine.compile template parameterType name).map fun source =>
            (engine.bind source parameter memory).1
        bindIn later = bindIn engine.memory := by
  intro answers later
  constructor
  · calc answers capacity
        = (engine.performAll (engine.withCapacity capacity).session operations).1 :=
          congrArg Prod.fst (performAll_withCapacity engine capacity _ operations)
      _ = (engine.performAll (engine.withCapacity other).session operations).1 :=
          ((agree_session hevaluator capacity other).performAll operations).1
      _ = answers other :=
          congrArg Prod.fst (performAll_withCapacity engine other _ operations).symm
  · have hsession := ((agree_session hevaluator engine.config.cacheCapacity
      engine.config.cacheCapacity).performAll operations).2
    have hlater : later.cache.Faithful := (hsession.caches.faithful hevaluator).1
    have hcaches : engine.evaluator.Agree later.cache engine.memory.cache :=
      hevaluator ▸ .of_faithful hlater engine.faithful_memory
    intro template parameterType name parameter bindIn
    cases hcompile : engine.compile template parameterType name with
    | error e =>
      simp only [bindIn, hcompile]
      rfl
    | ok source =>
      simp only [bindIn, hcompile]
      have hsame := (bind_congr hcaches (filtered_of_compile hcompile) parameter).1
      exact congrArg Except.ok hsame

/-- A statement with two conditions, bound before and after another one. Without room each
condition is parsed anew, and with room for one the first is lost before it is needed again. -/
theorem answers_without_capacity :
    let engine : Engine := {}
    let template : Template := .element "select" [] [
      .element "if" [("test", "a != null")] [.text "a = #{a}"],
      .element "if" [("test", "b != null")] [.text "b = #{b}"]]
    let operations : List Operation := [.compile template .any none,
      .bind 0 (.obj [("a", .ofNat 1)]), .render template (.obj []), .bind 0 (.obj [("b", .str "x")])]
    let run (capacity : ℕ) :=
      let engine := engine.withCapacity capacity
      engine.performAll engine.session operations
    let parsed (capacity : ℕ) := (parsings (run capacity).2.memory.events).length
    engine.evaluator = .standard ∧ (run 0).1 = (run 2).1 ∧ (run 1).1 = (run 2).1 ∧
      parsed 0 = 6 ∧ parsed 1 = 6 ∧ parsed 2 = 2 := by
  intro engine template operations run parsed
  have hstandard : engine.evaluator = .standard := rfl
  obtain ⟨hnone, -⟩ := answers_of_any_capacity hstandard 0 2 operations
  obtain ⟨hone, -⟩ := answers_of_any_capacity hstandard 1 2 operations
  exact ⟨hstandard, hnone, hone, by decide +kernel, by decide +kernel, by decide +kernel⟩

end Engine

end SqlTemplate
