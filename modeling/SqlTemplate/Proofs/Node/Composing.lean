import SqlTemplate.Proofs.Node.Applying

/-!
# Composing nodes

A node adds the same text to every buffer. Nodes in a row may be grouped in any way, and the chunks
of a node may be collected before they are added.
-/

namespace SqlTemplate

namespace Render

variable {α : Type}

/-- The chunks of a rendering that succeeds are joined and rewritten. -/
theorem flushed_of_ok (rewrite : Text → Text) {rendering : Render α} {s t : RenderState} {a : α}
    {chunks : List Text} (h : rendering s = ⟨.ok a, chunks, t⟩) :
    rendering.flushed rewrite s = ⟨.ok a, [rewrite (joinChunks [] chunks)], t⟩ := by
  have hwithin : within (.collected []) rendering s =
      ⟨.ok (a, .collected (joinChunks [] chunks)), [], t⟩ := by
    simp only [within, h, Layer.feedAll_collected]
    rfl
  exact bind_of_ok hwithin

/-- The chunks of a rendering that fails are lost. -/
theorem flushed_of_error (rewrite : Text → Text) {rendering : Render α} {s t : RenderState}
    {e : Error} {chunks : List Text} (h : rendering s = ⟨.error e, chunks, t⟩) :
    rendering.flushed rewrite s = ⟨.error e, [], t⟩ := by
  have hwithin : within (.collected []) rendering s = ⟨.error e, [], t⟩ := by
    simp only [within, h, Layer.feedAll_collected]
    rfl
  exact bind_of_error hwithin

end Render

namespace Context

variable {α : Type}

/-- A context with layers that collect, and no others. -/
def collecting (buffer : Text) (kept : List Text) (state : RenderState) : Context :=
  ⟨buffer, kept.map .collected, state⟩

/-- Chunks may be collected before they are added. Only where the rendering fails they are lost. -/
theorem perform_flushed (buffer : Text) (kept : List Text) (state : RenderState)
    (rendering : Render α) :
    let context := collecting buffer kept state
    let (result, after) := context.perform rendering
    context.perform (rendering.flushed id) =
      (result, if result.isOk then after else { context with state := after.state }) := by
  cases h : rendering state with
  | mk result chunks last =>
    cases result with
    | error e =>
      simp only [perform, collecting, h, Render.flushed_of_error id h, Layer.feedStack_nil]
      rfl
    | ok a =>
      have hjoined (buffer : Text) : joinChunks buffer [id (joinChunks [] chunks)] =
          joinChunks buffer chunks := (joinChunks_eq buffer chunks).symm
      simp only [perform, collecting, h, Render.flushed_of_ok id h]
      cases kept with
      | nil =>
        simp only [List.map_nil, Layer.feedStack, hjoined]
        rfl
      | cons first kept =>
        -- the chunks come to the innermost layer, and no further
        simp only [List.map_cons, Layer.feedStack, Layer.feedAll_collected, Layer.feedStack_nil,
          hjoined]
        rfl

end Context

namespace Node

/-- Nodes are rendered one list after the other. -/
theorem renderAll_append (first second : List Node) :
    renderAll (first ++ second) = (do renderAll first; renderAll second) := by
  induction first with
  | nil => rw [List.nil_append, renderAll]; rfl
  | cons node first ih => rw [List.cons_append, renderAll, renderAll, ih]; simp

/-- A group in a row of nodes may be dissolved. -/
theorem render_mixed_regroup (before inner after : List Node) :
    (Node.mixed (before ++ .mixed inner :: after)).render =
      (Node.mixed (before ++ (inner ++ after))).render := by
  rw [render, render, renderAll_append, renderAll_append, renderAll_append, renderAll, render]
  simp

end Node

/-- Applying a node is compositional in the buffer. Joining is associative, and the empty text
joins without a trace. A chunk is joined to the buffer where no layers stand in front of it, and
otherwise the front layer appends what it makes of it piece by piece. A node that appends its chunks
in this way adds the same text to every buffer behind the same layers, and comes to the same result
and state. A group in a row of nodes may be dissolved. And where only collecting layers stand in
front of the buffer, the chunks of a node may be collected and appended at once; if the node fails
nothing is appended then. -/
theorem rendering_compositional :
    (∀ text : Text, joinChunk [] text = text ∧ joinChunk text [] = text) ∧
      (∀ first second third : Text,
        joinChunk (joinChunk first second) third = joinChunk first (joinChunk second third)) ∧
      (∀ (buffer chunk : Text) (state : RenderState),
        (⟨buffer, [], state⟩ : Context).append chunk = ⟨joinChunk buffer chunk, [], state⟩) ∧
      (∀ (context : Context) (layer : Layer) (chunk : Text),
        (context.enter layer).append chunk =
          ((layer.feed chunk).2.foldl Context.append context).enter (layer.feed chunk).1) ∧
      (∀ (node : Node) (buffer : Text) (layers : List Layer) (state : RenderState),
        let fresh : Except Error Bool × Context := node.apply ⟨[], layers, state⟩
        node.apply ⟨buffer, layers, state⟩ =
          (fresh.1, { fresh.2 with buffer := joinChunk buffer fresh.2.buffer })) ∧
      (∀ (before inner after : List Node) (context : Context),
        (Node.mixed (before ++ .mixed inner :: after)).apply context =
          (Node.mixed (before ++ (inner ++ after))).apply context) ∧
      ∀ (node : Node) (buffer : Text) (kept : List Text) (state : RenderState),
        let context := Context.collecting buffer kept state
        let (result, after) : Except Error Bool × Context := node.apply context
        node.apply.flushed id context =
          (result, if result.isOk then after else { context with state := after.state }) := by
  refine ⟨fun text => ⟨joinChunk_nil_left text, joinChunk_nil_right text⟩, joinChunk_assoc,
    Context.append_of_root, Context.append_enter, fun node buffer layers state => ?_,
    fun before inner after context => ?_, fun node buffer kept state => ?_⟩
  · rw [node.apply_eq_perform, node.apply_eq_perform]
    exact Context.perform_buffer buffer layers state node.render
  · rw [Node.apply_eq_perform, Node.apply_eq_perform, Node.render_mixed_regroup]
  · rw [node.apply_eq_into, ← Render.into_flushed]
    exact Context.perform_flushed buffer kept state node.render

end SqlTemplate
