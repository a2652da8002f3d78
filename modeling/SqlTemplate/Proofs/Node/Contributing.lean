import SqlTemplate.Proofs.Node.Induction
import SqlTemplate.Proofs.Node.Steps
import SqlTemplate.Proofs.Render.Joining
import SqlTemplate.Proofs.Scan.Segments

/-!
# Nodes that do not contribute

A node that reports no contribution has made none. It yields no chunk, or an empty one where a
clause is trimmed, and an empty chunk passes through every layer to the buffer without a trace. So
the branches that a choice passes over leave nothing in the way of the one it takes.
-/

namespace SqlTemplate

open Render

/-- An empty chunk has nothing to rename. -/
theorem LoopScope.renameAll_nil (scope : LoopScope) : scope.renameAll [] = [] := by
  rw [renameAll, Delimiters.substitute, Delimiters.segments_nil]
  rfl

/-- An empty clause stays empty. -/
theorem TrimRule.apply_nil (rule : TrimRule) : rule.apply [] = [] := rfl

/-- Empty chunks add nothing. -/
theorem joinChunks_of_empty {chunks : List Text} (h : ∀ chunk ∈ chunks, chunk = [])
    (buffer : Text) : joinChunks buffer chunks = buffer := by
  induction chunks with
  | nil => rfl
  | cons chunk rest ih =>
    obtain ⟨rfl, hrest⟩ := List.forall_mem_cons.mp h
    have hstep : joinChunks buffer ([] :: rest) = joinChunks (joinChunk buffer []) rest := rfl
    rw [hstep, joinChunk_nil_right, ih hrest]

namespace Layer

/-- No layer holds on to an empty chunk, or makes more of it. -/
theorem feed_nil (layer : Layer) :
    (layer.feed []).1 = layer ∧ ∀ chunk ∈ (layer.feed []).2, chunk = [] := by
  cases layer with
  | separated separator written =>
    cases written with
    | false => exact ⟨rfl, List.forall_mem_singleton.mpr rfl⟩
    | true => exact ⟨rfl, List.forall_mem_singleton.mpr rfl⟩
  | renamed scope => exact ⟨rfl, List.forall_mem_singleton.mpr scope.renameAll_nil⟩
  | collected buffer =>
    exact ⟨congrArg collected (joinChunk_nil_right buffer), List.forall_mem_nil _⟩

/-- Empty chunks leave a layer as it is and stay empty behind it. -/
theorem feedAll_of_empty {chunks : List Text} (h : ∀ chunk ∈ chunks, chunk = [])
    (layer : Layer) :
    (layer.feedAll chunks).1 = layer ∧ ∀ chunk ∈ (layer.feedAll chunks).2, chunk = [] := by
  induction chunks with
  | nil => exact ⟨rfl, List.forall_mem_nil _⟩
  | cons chunk rest ih =>
    obtain ⟨rfl, hrest⟩ := List.forall_mem_cons.mp h
    obtain ⟨hsame, hpassed⟩ := layer.feed_nil
    obtain ⟨hlast, hmore⟩ := ih hrest
    simp only [feedAll, hsame]
    exact ⟨hlast, List.forall_mem_append.mpr ⟨hpassed, hmore⟩⟩

/-- Empty chunks leave a stack of layers as it is and stay empty behind it. -/
theorem feedStack_of_empty {chunks : List Text} (h : ∀ chunk ∈ chunks, chunk = [])
    (layers : List Layer) :
    (feedStack layers chunks).1 = layers ∧
      ∀ chunk ∈ (feedStack layers chunks).2, chunk = [] := by
  induction layers generalizing chunks with
  | nil => exact ⟨rfl, h⟩
  | cons layer layers ih =>
    obtain ⟨hsame, hpassed⟩ := feedAll_of_empty h layer
    obtain ⟨hothers, hout⟩ := ih hpassed
    exact ⟨congrArg₂ List.cons hsame hothers, hout⟩

end Layer

namespace Context

/-- A context with the same text in its buffer and in each of its layers, the same bindings and the
same next number. Only what outlives a rendering may differ, the cache and the events. -/
structure Untouched (context after : Context) : Prop where
  buffer : after.buffer = context.buffer
  layers : after.layers = context.layers
  bindings : after.state.bindings = context.state.bindings
  nextId : after.state.nextId = context.state.nextId

namespace Untouched

/-- A context is untouched by nothing. -/
theorem refl (context : Context) : context.Untouched context := ⟨rfl, rfl, rfl, rfl⟩

/-- A context that is untouched twice is untouched. -/
theorem trans {context middle after : Context} (h : context.Untouched middle)
    (hafter : middle.Untouched after) : context.Untouched after :=
  ⟨hafter.buffer.trans h.buffer, hafter.layers.trans h.layers, hafter.bindings.trans h.bindings,
    hafter.nextId.trans h.nextId⟩

end Untouched

variable {α : Type}

/-- A rendering that yields empty chunks and changes the memory only leaves the context
untouched. -/
theorem untouched_of_gives {context after : Context} {rendering : Render α} {a : α}
    (h : context.perform rendering = (.ok a, after))
    (hgives : ∀ chunks t, rendering.Gives context.state a chunks t →
      (∀ chunk ∈ chunks, chunk = []) ∧ ∃ memory, t = { context.state with memory }) :
    context.Untouched after := by
  cases hrendering : rendering context.state with
  | mk result chunks t =>
    simp only [perform, hrendering] at h
    obtain ⟨rfl, rfl⟩ := Prod.mk.inj h
    obtain ⟨hempty, memory, rfl⟩ := hgives chunks t hrendering
    obtain ⟨hlayers, hout⟩ := Layer.feedStack_of_empty hempty context.layers
    exact ⟨joinChunks_of_empty hout context.buffer, hlayers, rfl, rfl⟩

end Context

namespace Node

/-- If no branch is taken there are no chunks, and only the memory changes. -/
theorem empty_of_renderFirst {branches : List (Text × Node)} {s t : RenderState}
    {chunks : List Text} (h : (renderFirst branches).Gives s false chunks t) :
    chunks = [] ∧ ∃ memory, t = { s with memory } := by
  induction branches generalizing s with
  | nil =>
    obtain ⟨-, rfl, rfl⟩ := gives_renderFirst_nil.mp h
    exact ⟨rfl, t.memory, rfl⟩
  | cons branch rest ih =>
    obtain ⟨test, body⟩ := branch
    obtain ⟨holds, u, htest, hrest⟩ := gives_renderFirst_cons h
    rcases hrest with ⟨-, htaken, -⟩ | ⟨-, hrest⟩
    · cases htaken
    · obtain ⟨-, _, rfl⟩ := (quiet_evaluateTest test).of_gives htest
      obtain ⟨hempty, memory, rfl⟩ := ih hrest
      exact ⟨hempty, memory, rfl⟩

/-- A node that does not contribute yields nothing but empty chunks, and changes the memory
only. -/
theorem empty_of_not_contributed {node : Node} {s t : RenderState} {chunks : List Text}
    (h : (render node).Gives s false chunks t) :
    (∀ chunk ∈ chunks, chunk = []) ∧ ∃ memory, t = { s with memory } := by
  induction node using Node.inductionOn generalizing s t chunks with
  | mixed children => cases (gives_mixed h).1
  | text content => cases (gives_text.mp h).1
  | spliced content filter =>
    obtain ⟨_, hcontributed, -⟩ := gives_splicedNode h
    cases hcontributed
  | cond test body =>
    obtain ⟨u, htest, ⟨hcontributed, -⟩ | ⟨-, rfl, rfl⟩⟩ := gives_cond h
    · cases hcontributed
    · exact ⟨List.forall_mem_nil _, ((quiet_evaluateTest test).of_gives htest).2⟩
  | choose branches otherwise =>
    obtain ⟨taken, c, u, hfirst, ⟨-, hcontributed, -⟩ | ⟨rfl, hlast, hrest⟩⟩ :=
      gives_choose h
    · cases hcontributed
    · rcases hrest with ⟨node, a, d, rfl, -⟩ | ⟨-, rfl, rfl⟩
      · cases hlast
      · obtain ⟨rfl, hmemory⟩ := empty_of_renderFirst hfirst
        exact ⟨List.forall_mem_nil _, hmemory⟩
  | trim rule body ih =>
    -- The clause is flushed all the same, but it is empty.
    obtain ⟨inside, hbody, rfl⟩ := gives_trim.mp h
    obtain ⟨hempty, hmemory⟩ := ih hbody
    rw [joinChunks_of_empty hempty, rule.apply_nil]
    exact ⟨List.forall_mem_singleton.mpr rfl, hmemory⟩
  | loop spec body => cases (gives_loop h).1
  | bind name value => cases (gives_bindNode h).1

/-- What a choice renders of the branches from the one that it takes on: that branch under its
condition, or what it has for the case that there is none. -/
def renderTaken (otherwise : Option Node) : List (Text × Node) → Render Bool
  | (test, body) :: _ => render (.cond test body)
  | [] =>
    match otherwise with
    | some node => do
      let _ ← render node
      return true
    | none => return false

/-- A choice renders its first branch under its condition, and goes on with the others if that does
not contribute. -/
theorem render_choose_cons (test : Text) (body : Node) (rest : List (Text × Node))
    (otherwise : Option Node) :
    render (.choose ((test, body) :: rest) otherwise) =
      render (.cond test body) >>= fun contributed =>
        if contributed then pure true else render (.choose rest otherwise) := by
  rw [render.eq_def, render.eq_def (.cond test body), render.eq_def (.choose rest otherwise)]
  simp only [renderFirst, bind_assoc]
  refine congrArg (evaluateTest test >>= ·) (funext fun holds => ?_)
  cases holds with
  | true => simp
  | false => simp

/-- Without branches a choice renders what it has for that case. -/
theorem render_choose_nil (otherwise : Option Node) :
    render (.choose [] otherwise) = renderTaken otherwise [] := by
  rw [render.eq_def]
  simp only [renderFirst, pure_bind]
  rfl

end Node

namespace Context

/-- The branches are rendered one after another, each under its condition, and none of them
contributes. -/
inductive PassesOver : Context → List (Text × Node) → Context → Prop
  | nil (context : Context) : PassesOver context [] context
  | cons {context next last : Context} {test : Text} {body : Node} {rest : List (Text × Node)}
    (h : context.perform (Node.cond test body).render = (.ok false, next))
    (hrest : PassesOver next rest last) : PassesOver context ((test, body) :: rest) last

/-- A node that does not contribute leaves the context untouched. -/
theorem untouched_of_not_contributed {node : Node} {context after : Context}
    (h : context.perform node.render = (.ok false, after)) : context.Untouched after :=
  untouched_of_gives h fun _ _ => Node.empty_of_not_contributed

/-- Branches that are passed over leave the context untouched. -/
theorem PassesOver.untouched {context last : Context} {branches : List (Text × Node)}
    (h : context.PassesOver branches last) : context.Untouched last := by
  induction h with
  | nil context => exact .refl context
  | cons h _ ih => exact (untouched_of_not_contributed h).trans ih

section Choice

variable {context next : Context} {test : Text} {body : Node} {rest : List (Text × Node)}
  {otherwise : Option Node}

/-- Where the first branch of a choice does not contribute, the choice goes on with the others. -/
theorem perform_choose_of_passed
    (h : context.perform (Node.cond test body).render = (.ok false, next)) :
    context.perform (Node.choose ((test, body) :: rest) otherwise).render =
      next.perform (Node.choose rest otherwise).render := by
  rw [Node.render_choose_cons, perform_bind, h]
  rfl

/-- Where the first branch of a choice contributes or fails, nothing else is rendered. -/
theorem perform_choose_of_taken
    (h : (context.perform (Node.cond test body).render).1 ≠ .ok false) :
    context.perform (Node.choose ((test, body) :: rest) otherwise).render =
      context.perform (Node.cond test body).render := by
  rw [Node.render_choose_cons, perform_bind]
  cases hfirst : context.perform (Node.cond test body).render with
  | mk result next =>
    rw [hfirst] at h
    cases result with
    | error e => rfl
    | ok contributed =>
      cases contributed with
      | false => exact absurd rfl h
      | true => exact next.perform_pure true

end Choice

/-- A choice passes over its first branches and renders what it takes. -/
theorem exists_passesOver (context : Context) (branches : List (Text × Node))
    (otherwise : Option Node) :
    ∃ passed taken last, branches = passed ++ taken ∧ context.PassesOver passed last ∧
      (∀ branch ∈ taken.head?,
        (last.perform (Node.cond branch.1 branch.2).render).1 ≠ .ok false) ∧
      context.perform (Node.choose branches otherwise).render =
        last.perform (Node.renderTaken otherwise taken) := by
  induction branches generalizing context with
  | nil =>
    refine ⟨[], [], context, rfl, .nil context, fun branch h => ?_, ?_⟩
    · cases h
    · rw [Node.render_choose_nil]
  | cons branch rest ih =>
    obtain ⟨test, body⟩ := branch
    by_cases h : (context.perform (Node.cond test body).render).1 = .ok false
    · have hfirst : context.perform (Node.cond test body).render = (.ok false, _) :=
        Prod.ext h rfl
      obtain ⟨passed, taken, last, rfl, hpassed, htaken, hrest⟩ := ih _
      exact ⟨(test, body) :: passed, taken, last, rfl, .cons hfirst hpassed, htaken,
        (perform_choose_of_passed hfirst).trans hrest⟩
    · refine ⟨[], (test, body) :: rest, context, rfl, .nil context, fun branch hbranch => ?_,
        perform_choose_of_taken h⟩
      obtain rfl := Option.mem_some.mp hbranch
      exact h

/-- Whatever layers stand in front of the buffer, a node that does not contribute leaves the buffer,
the layers, the bindings and the next number as they were. So does each branch that a choice passes
over, up to the first one that contributes or fails: that one is rendered as if it were the only
one, and what a choice has for the case that there is none as if there were no branches. -/
theorem no_trace_of_not_contributed :
    (∀ (node : Node) (context after : Context),
      context.perform node.render = (.ok false, after) → context.Untouched after) ∧
    ∀ (branches : List (Text × Node)) (otherwise : Option Node) (context : Context),
      ∃ passed taken last, branches = passed ++ taken ∧ context.PassesOver passed last ∧
        context.Untouched last ∧
        (∀ branch ∈ taken.head?,
          (last.perform (Node.cond branch.1 branch.2).render).1 ≠ .ok false) ∧
        context.perform (Node.choose branches otherwise).render =
          last.perform (Node.renderTaken otherwise taken) := by
  refine ⟨fun node context after h => untouched_of_not_contributed h,
    fun branches otherwise context => ?_⟩
  obtain ⟨passed, taken, last, hbranches, hpassed, htaken, hperform⟩ :=
    context.exists_passesOver branches otherwise
  exact ⟨passed, taken, last, hbranches, hpassed, hpassed.untouched, htaken, hperform⟩

/-- A clause within a clause, both empty, behind a layer of each kind: the separator is still to
come, and stands before the text behind them. -/
theorem no_trace_of_nested_clauses :
    let layers : List Layer :=
      [.separated [','] false, .renamed ⟨some "x", none, 0⟩, .collected ['a']]
    let state : RenderState := { bindings := .ofParameter .null, memory := ⟨.empty 8, []⟩ }
    let context : Context := ⟨['b'], layers, state⟩
    let node : Node :=
      .trim .whereClause (.trim .setClause (.choose [("false".toList, .text ['c'])] none))
    ∃ after, context.perform node.render = (.ok false, after) ∧ context.Untouched after ∧
      (after.perform (Node.text "#\x7bx\x7d".toList).render).2.layers.map Layer.buffer =
        [[], [], "a, #\x7b__frch_x_0\x7d".toList] := by
  intro layers state context node
  have hresult : (context.perform node.render).1.toOption = some false := by decide +kernel
  cases h : context.perform node.render with
  | mk result after =>
    rw [h] at hresult
    cases result with
    | error e => cases hresult
    | ok contributed =>
      obtain rfl := Option.some.inj hresult
      have hsame := no_trace_of_not_contributed.1 node context after h
      refine ⟨after, rfl, hsame, ?_⟩
      have hfed : (after.perform (Node.text "#\x7bx\x7d".toList).render).2.layers =
          (Layer.feedStack after.layers ["#\x7bx\x7d".toList]).1 := by
        rw [Node.render]
        rfl
      rw [hfed, hsame.layers]
      decide +kernel

end Context

end SqlTemplate
