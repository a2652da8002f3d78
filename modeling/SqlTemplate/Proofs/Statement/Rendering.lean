import SqlTemplate.Proofs.Node.Applying
import SqlTemplate.Proofs.Statement.Marked
import SqlTemplate.Source

/-!
# Binding a node to a parameter

A node is rendered from seeded bindings, its chunks are joined, and the placeholders in the joined
text are resolved against the bindings that are left.
-/

namespace SqlTemplate.Engine

/-- The state that rendering for a parameter starts from. -/
def start (engine : Engine) (parameter : Value) (memory : Memory) : RenderState where
  bindings := .seed parameter engine.config.database
  memory
  evaluator := engine.evaluator

/-- The text of a node rendered for a parameter, with its placeholders. -/
def renderedText (engine : Engine) (root : Node) (parameter : Value) (memory : Memory) : Text :=
  (joinChunks [] (root.render (engine.start parameter memory)).chunks).trim

/-- The bodies of the placeholders in the text of a node rendered for a parameter. -/
def placeholders (engine : Engine) (root : Node) (parameter : Value) (memory : Memory) :
    List Text :=
  Delimiters.parameter.contents
    (Prepared.scanned engine.config (engine.renderedText root parameter memory))

/-- Without layers all chunks reach the buffer. -/
theorem apply_start (engine : Engine) (root : Node) (parameter : Value) (memory : Memory) :
    root.apply (Context.start parameter engine.config.database engine.evaluator memory) =
      ((root.render (engine.start parameter memory)).result,
        { buffer := joinChunks [] (root.render (engine.start parameter memory)).chunks
          state := (root.render (engine.start parameter memory)).state }) :=
  (root.apply_eq_perform _).trans rfl

/-- The bound statement that the rendering of a node comes to, if all placeholders in its text can be
resolved. The bindings that are left become the additional values. -/
def finish (engine : Engine) (parameter : Value) (o : Outcome Bool) : Except Error Bound := do
  let _ ← o.result
  let additional := o.state.bindings.entries
  let known := engine.surroundings (.of parameter) parameter additional
  let statement ← Prepared.ofText engine.config known (joinChunks [] o.chunks).trim
  return { statement with parameter, additional, accessor := engine.accessor }

/-- A node is bound to a parameter by rendering it and finishing the statement. -/
theorem renderNode_eq_finish (engine : Engine) (root : Node) (name : Option String)
    (parameter : Value) (memory : Memory) :
    (engine.renderNode root name parameter memory).1 =
      engine.finish parameter (root.render (engine.start parameter memory)) := by
  simp only [renderNode, apply_start, finish]
  cases (root.render (engine.start parameter memory)).result with
  | error e => rfl
  | ok contributed =>
    dsimp only [Context.sql]
    cases Prepared.ofText engine.config _ _ with
    | error e => rfl
    | ok statement => rfl

/-- A node is bound to a parameter exactly when it can be rendered and all placeholders in its text
can be resolved. The bindings that are left become the additional values. -/
theorem renderNode_eq_ok {engine : Engine} {root : Node} {name : Option String}
    {parameter : Value} {memory : Memory} {bound : Bound} :
    (engine.renderNode root name parameter memory).1 = .ok bound ↔
      ∃ contributed chunks state statement,
        root.render (engine.start parameter memory) = ⟨.ok contributed, chunks, state⟩ ∧
        Prepared.ofText engine.config
          (engine.surroundings (.of parameter) parameter state.bindings.entries)
          (joinChunks [] chunks).trim = .ok statement ∧
        bound = { statement with
          parameter, additional := state.bindings.entries, accessor := engine.accessor } := by
  rw [renderNode_eq_finish]
  constructor
  · intro h
    obtain ⟨contributed, hresult, hfinish⟩ := Results.bind_eq_ok.mp h
    obtain ⟨statement, hstatement, hbound⟩ := Results.bind_eq_ok.mp hfinish
    refine ⟨contributed, _, _, statement, ?_, hstatement, (Except.ok.inj hbound).symm⟩
    rw [← hresult]
  · rintro ⟨contributed, chunks, state, statement, hrender, hstatement, rfl⟩
    rw [hrender]
    exact Results.bind_eq_ok.mpr ⟨contributed, rfl,
      Results.bind_eq_ok.mpr ⟨statement, hstatement, rfl⟩⟩

/-- What is known of a bound statement when its placeholders are resolved. -/
def known (engine : Engine) (bound : Bound) : Surroundings :=
  engine.surroundings (.of bound.parameter) bound.parameter bound.additional

/-- A bound statement is for its parameter and reads properties as its engine does. Its text is that
of the node with markers, and it has one mapping for each placeholder in that text. -/
theorem mappings_of_renderNode {engine : Engine} {root : Node} {name : Option String}
    {parameter : Value} {memory : Memory} {bound : Bound}
    (h : (engine.renderNode root name parameter memory).1 = .ok bound) :
    bound.accessor = engine.accessor ∧ bound.parameter = parameter ∧
      bound.sql = Prepared.marked engine.config.markers
        (Prepared.scanned engine.config (engine.renderedText root parameter memory)) ∧
      List.Forall₂ (fun body m => Mapping.ofBody (engine.known bound) body = .ok m)
        (engine.placeholders root parameter memory) bound.mappings := by
  obtain ⟨contributed, chunks, state, statement, hrender, hstatement, rfl⟩ := renderNode_eq_ok.mp h
  obtain ⟨hsql, hmappings⟩ := Prepared.ofText_eq_ok.mp hstatement
  have htext : engine.renderedText root parameter memory = (joinChunks [] chunks).trim := by
    rw [renderedText, hrender]
  refine ⟨rfl, rfl, ?_, ?_⟩
  · rw [htext]
    exact hsql
  · rw [placeholders, htext]
    exact hmappings

end SqlTemplate.Engine
