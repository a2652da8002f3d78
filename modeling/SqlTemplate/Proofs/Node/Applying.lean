import SqlTemplate.Node.Apply
import SqlTemplate.Proofs.Node.Induction
import SqlTemplate.Proofs.Render.Gives
import SqlTemplate.Proofs.Render.Joining

/-!
# Applying and rendering

A node that is applied to a context appends its chunks one by one, while it changes the state. That
comes to the same as rendering the node for the state alone and passing the list of its chunks
through the layers, so the chunks do not depend on the buffer and the layers that they go to.
-/

namespace SqlTemplate

namespace Context

/-- Chunks that are appended one by one pass through the layers as a list. -/
theorem foldl_append (context : Context) (chunks : List Text) :
    chunks.foldl append context =
      { context with
        buffer := joinChunks context.buffer (Layer.feedStack context.layers chunks).2
        layers := (Layer.feedStack context.layers chunks).1 } := by
  induction chunks generalizing context with
  | nil =>
    rw [Layer.feedStack_nil]
    rfl
  | cons chunk rest ih =>
    rw [List.foldl_cons, ih, ← List.singleton_append, Layer.feedStack_append, joinChunks_append]
    rfl

/-- Without layers a chunk is joined to the buffer. -/
theorem append_of_root (buffer chunk : Text) (state : RenderState) :
    (⟨buffer, [], state⟩ : Context).append chunk = ⟨joinChunk buffer chunk, [], state⟩ := rfl

/-- The front layer appends what it makes of a chunk to the context behind it, piece by piece. -/
theorem append_enter (context : Context) (layer : Layer) (chunk : Text) :
    (context.enter layer).append chunk =
      ((layer.feed chunk).2.foldl append context).enter (layer.feed chunk).1 := by
  rw [foldl_append]
  simp only [append, enter, Layer.feedStack, Layer.feedAll, List.append_nil]

end Context

namespace Action

variable {α β : Type} {x : Action α} {context after : Context}

/-- After a success the next action goes on from the context reached. -/
theorem bind_of_ok {a : α} (h : x context = (.ok a, after)) (f : α → Action β) :
    (x >>= f) context = f a after := by
  change ExceptT.bindCont f (x context).1 (x context).2 = _
  rw [h]
  rfl

/-- A failure is the end. -/
theorem bind_of_error {e : Error} (h : x context = (.error e, after)) (f : α → Action β) :
    (x >>= f) context = (.error e, after) := by
  change ExceptT.bindCont f (x context).1 (x context).2 = _
  rw [h]
  rfl

end Action

namespace Render

variable {α β : Type}

/-- The action of a rendering: its chunks pass through the layers to the buffer. -/
def into (rendering : Render α) : Action α := fun context => context.perform rendering

/-- A bare result does nothing to a context. -/
theorem into_pure (a : α) : (pure a : Render α).into = pure a := by
  funext context
  exact context.perform_pure a

/-- Renderings one after another are actions one after another. -/
theorem into_bind (x : Render α) (f : α → Render β) :
    (x >>= f).into = x.into >>= fun a => (f a).into := by
  funext context
  refine (context.perform_bind x f).trans ?_
  cases h : context.perform x with
  | mk result after =>
    cases result with
    | error e => exact (Action.bind_of_error (x := x.into) h _).symm
    | ok a => exact (Action.bind_of_ok (x := x.into) h fun a => (f a).into).symm

/-- A chunk that is yielded is appended. -/
theorem into_emit (chunk : Text) : (emit chunk).into = Action.append chunk := rfl

/-- A rendering without chunks concerns the state only. -/
theorem into_of_silent {x : Render α} (h : ∀ s, (x s).chunks = []) : x.into = Action.onState x := by
  funext context
  change context.perform x =
    ((x context.state).result, { context with state := (x context.state).state })
  simp only [Context.perform, h, Layer.feedStack_nil]
  rfl

/-- A quiet rendering has no chunks. -/
theorem Quiet.into_eq {x : Render α} (hx : x.Quiet) : x.into = Action.onState x := by
  refine into_of_silent fun s => ?_
  obtain ⟨result, memory, h⟩ := hx s
  rw [h]

/-- A layer in front of the chunks of a rendering is one in front of the context. -/
theorem into_within (layer : Layer) (x : Render α) :
    (within layer x).into = Action.within layer x.into := by
  funext context
  obtain ⟨result, last, after, hinside, hwithin⟩ := context.perform_within layer x
  change context.perform (within layer x) = _
  unfold Action.within into
  rw [hwithin, hinside]
  rfl

/-- A rendering whose chunks are collected and yielded as one, rewritten text. -/
def flushed (rewrite : Text → Text) (rendering : Render α) : Render α := do
  let (a, layer) ← within (.collected []) rendering
  emit (rewrite layer.buffer)
  return a

/-- Chunks are collected alike before they are rewritten. -/
theorem into_flushed (rewrite : Text → Text) (x : Render α) :
    (x.flushed rewrite).into = x.into.flushed rewrite := by
  simp only [flushed, Action.flushed, into_bind, into_pure, into_emit, into_within]

/-- Steps over a list go alike if each of them does. -/
theorem into_mapM {f : α → Render β} {g : α → Action β} (h : ∀ a, (f a).into = g a)
    (xs : List α) : (xs.mapM f).into = xs.mapM g := by
  induction xs with
  | nil => rw [List.mapM_nil, List.mapM_nil, into_pure]
  | cons x xs ih => simp only [List.mapM_cons, into_bind, into_pure, h, ih]

/-- A scan goes alike if its tokens are handled alike. -/
theorem into_scan (d : Delimiters) {handle : Text → Render Text} {other : Text → Action Text}
    (h : ∀ body, (handle body).into = other body) (text : Text) :
    (d.scan handle text).into = d.scan other text := by
  refine (into_bind _ _).trans (congrArg₂ Bind.bind (into_mapM (fun segment => ?_) _) ?_)
  · cases segment with
    | literal text => exact into_pure text
    | escapedOpening => exact into_pure d.opening
    | token body => exact h _
  · funext pieces
    exact into_pure _

end Render

namespace Loop

open Render

/-- A text that may be absent is appended. -/
theorem into_emitOption (text : Option Text) : (emitOption text).into = appendOption text := by
  cases text with
  | none => exact into_pure ()
  | some text => exact into_emit text

/-- Loop variables are bound without chunks. -/
theorem into_bindVariable (name : Option String) (value : Value) (id : Nat) :
    (bindVariable name value id).into = Action.onState (bindVariable name value id) := by
  refine into_of_silent fun s => ?_
  cases name <;> rfl

/-- Loop variables are taken away without chunks. -/
theorem into_unbindVariable (name : Option String) :
    (unbindVariable name).into = Action.onState (unbindVariable name) := by
  refine into_of_silent fun s => ?_
  cases name <;> rfl

variable (spec : Loop) {body : Render Bool} {action : Action Bool} (hbody : action = body.into)
include hbody

/-- A pass applies its body as it renders it. -/
theorem applyPass_eq_into (separator : Text) (element : LoopElement) :
    spec.applyPass action separator element = (spec.pass body separator element).into := by
  subst hbody
  have hid : freshId.into = Action.onState freshId := into_of_silent fun _ => rfl
  simp only [applyPass, pass, into_bind, into_pure, into_within, into_bindVariable, hid]

/-- Passes apply the body as they render it. -/
theorem applyPasses_eq_into (separate : Bool) (elements : List LoopElement) :
    spec.applyPasses action separate elements = (spec.passes body separate elements).into := by
  induction elements generalizing separate with
  | nil => rw [applyPasses, passes, into_pure]
  | cons element rest ih =>
    simp only [applyPasses, passes, into_bind, applyPass_eq_into spec hbody, ih]

/-- A loop applies its body as it renders it. -/
theorem apply_eq_into : spec.apply action = (spec.run body).into := by
  rw [apply, run, into_bind, (quiet_evaluateLoop _ _).into_eq]
  congr 1
  funext elements
  cases elements with
  | nil => exact (into_pure ()).symm
  | cons element rest =>
    simp only [into_bind, into_emitOption, into_unbindVariable, applyPasses_eq_into spec hbody]

end Loop

namespace Node

open Render

/-- Nodes one after another are applied as they are rendered. -/
theorem applyAll_eq_into {children : List Node}
    (h : ∀ node ∈ children, node.apply = node.render.into) :
    applyAll children = (renderAll children).into := by
  induction children with
  | nil => rw [applyAll, renderAll, into_pure]
  | cons child rest ih =>
    obtain ⟨hchild, hrest⟩ := List.forall_mem_cons.mp h
    simp only [applyAll, renderAll, into_bind, hchild, ih hrest]

/-- Branches are applied as they are rendered. -/
theorem applyFirst_eq_into {branches : List (Text × Node)}
    (h : ∀ branch ∈ branches, branch.2.apply = branch.2.render.into) :
    applyFirst branches = (renderFirst branches).into := by
  induction branches with
  | nil => rw [applyFirst, renderFirst, into_pure]
  | cons branch rest ih =>
    obtain ⟨hbranch, hrest⟩ := List.forall_mem_cons.mp h
    obtain ⟨test, body⟩ := branch
    rw [applyFirst, renderFirst, into_bind, (quiet_evaluateTest test).into_eq]
    congr 1
    funext holds
    cases holds with
    | true => simp only [if_true, into_bind, into_pure, hbranch]
    | false => simpa using ih hrest

/-- A trimmed node is rendered into a buffer of its own, and its clause is added. -/
theorem render_trim (rule : TrimRule) (body : Node) :
    (Node.trim rule body).render = body.render.flushed rule.apply := by
  rw [render]
  rfl

/-- A node is applied to a context as it is rendered into it. -/
theorem apply_eq_into (node : Node) : node.apply = node.render.into := by
  induction node using Node.inductionOn with
  | mixed children ih => simp only [apply, render, into_bind, into_pure, applyAll_eq_into ih]
  | text content => simp only [apply, render, into_bind, into_pure, into_emit]
  | spliced content filter =>
    have hscan :=
      into_scan .substitution (fun source => (quiet_splice filter source).into_eq) content
    simp only [apply, render, into_bind, into_pure, into_emit, hscan]
  | cond test body ih =>
    rw [apply, render, into_bind, (quiet_evaluateTest test).into_eq]
    congr 1
    funext holds
    cases holds with
    | true => simp only [if_true, into_bind, into_pure, ih]
    | false => exact (into_pure false).symm
  | choose branches otherwise ih ihlast =>
    rw [apply.eq_def, render.eq_def]
    dsimp only
    rw [into_bind, applyFirst_eq_into ih]
    congr 1
    funext taken
    cases taken with
    | true => exact (into_pure true).symm
    | false =>
      cases otherwise with
      | none => exact (into_pure false).symm
      | some node =>
        simp only [Bool.false_eq_true, if_false, into_bind, into_pure, ihlast node rfl]
  | trim rule body ih => rw [apply, render_trim, into_flushed, ih]
  | loop spec body ih =>
    simp only [apply, render, into_bind, into_pure, spec.apply_eq_into ih]
  | bind name value =>
    have hname (found : Value) :
        (bindName name found).into = Action.onState (bindName name found) :=
      into_of_silent fun _ => rfl
    simp only [apply, render, into_bind, into_pure, (quiet_evaluate value).into_eq, hname]

/-- What a node does to a context is to pass the chunks that it is rendered to through the
layers. -/
theorem apply_eq_perform (node : Node) (context : Context) :
    node.apply context = context.perform node.render :=
  congrFun node.apply_eq_into context

end Node

end SqlTemplate
