import SqlTemplate.Render.Basic

/-!
# Contexts

A context is what nodes are rendered into: the buffer, the layers in front of it and the state.
-/

namespace SqlTemplate

/-- A buffer behind layers, innermost first, and the state of the rendering. -/
structure Context where
  buffer : Text := []
  layers : List Layer := []
  state : RenderState

namespace Context

/-- The context that rendering for a parameter starts from. -/
def start (parameter : Value) (database : Option String) (evaluator : Evaluator)
    (memory : Memory) : Context where
  state := { bindings := .seed parameter database, memory, evaluator }

/-- The context with a chunk appended, which goes through all layers to the buffer. -/
def append (context : Context) (chunk : Text) : Context :=
  let (layers, chunks) := Layer.feedStack context.layers [chunk]
  { context with buffer := joinChunks context.buffer chunks, layers }

/-- The result of a rendering, and the context with its chunks passed through all layers. -/
def perform {α : Type} (context : Context) (rendering : Render α) : Except Error α × Context :=
  let o := rendering context.state
  let (layers, chunks) := Layer.feedStack context.layers o.chunks
  (o.result, ⟨joinChunks context.buffer chunks, layers, o.state⟩)

/-- The context with one more layer in front. -/
def enter (context : Context) (layer : Layer) : Context :=
  { context with layers := layer :: context.layers }

/-- The context without its front layer, and that layer. -/
def leave (context : Context) : Option Layer × Context :=
  (context.layers.head?, { context with layers := context.layers.tail })

/-- The statement so far. -/
def sql (context : Context) : Text := context.buffer.trim

end Context

end SqlTemplate
