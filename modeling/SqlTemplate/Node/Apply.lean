import SqlTemplate.Node.Render
import SqlTemplate.Render.Context

/-!
# Applying nodes to contexts

A node that is applied to a context appends one chunk after the other, and each of them goes through
the layers to the buffer before anything else happens. What a node does to the state it does by the
operations of a rendering.
-/

namespace SqlTemplate

/-- What is done to a context. It comes to a result, or fails and leaves the context as far as it
has got. -/
abbrev Action (α : Type) : Type := ExceptT Error (StateM Context) α

namespace Action

variable {α : Type}

/-- Appends a chunk. -/
def append (chunk : Text) : Action Unit := modify (·.append chunk)

/-- An operation that concerns the state only. -/
def onState (operation : Render α) : Action α := fun context =>
  let o := operation context.state
  (o.result, { context with state := o.state })

/-- An action with one more layer in front of the context, and what becomes of the layer. -/
def within (layer : Layer) (inner : Action α) : Action (α × Layer) := fun context =>
  let (result, after) := inner (context.enter layer)
  let (last, context) := after.leave
  (result.map (·, last.getD layer), context)

/-- An action whose chunks are collected and appended as one, rewritten text. -/
def flushed (rewrite : Text → Text) (inner : Action α) : Action α := do
  let (a, layer) ← within (.collected []) inner
  append (rewrite layer.buffer)
  return a

end Action

namespace Loop

/-- Appends a text that may be absent. -/
def appendOption : Option Text → Action Unit
  | none => pure ()
  | some text => Action.append text

/-- One pass over the body, with a separator before its first chunk that is not blank. Tells
whether there is such a chunk. -/
def applyPass (spec : Loop) (body : Action Bool) (separator : Text) (element : LoopElement) :
    Action Bool := do
  let (_, layer) ← Action.within (.separated separator false) do
    let id ← Action.onState Render.freshId
    Action.onState (bindVariable spec.index element.index id)
    Action.onState (bindVariable spec.item element.item id)
    Action.within (.renamed ⟨spec.item, spec.index, id⟩) body
  return layer.written

/-- The passes over all elements. Separators start after the first pass with a chunk that is not
blank. -/
def applyPasses (spec : Loop) (body : Action Bool) : Bool → List LoopElement → Action Unit
  | _, [] => pure ()
  | separate, element :: rest => do
    let written ← applyPass spec body (if separate then spec.separator else []) element
    applyPasses spec body (separate || written) rest

/-- The loop over the elements of its collection. An empty collection leaves no trace. -/
def apply (spec : Loop) (body : Action Bool) : Action Unit := do
  match ← Action.onState (Render.evaluateLoop spec.collection spec.nullable) with
  | [] => pure ()
  | elements =>
    appendOption spec.opening
    applyPasses spec body false elements
    appendOption spec.closing
    Action.onState (unbindVariable spec.item)
    Action.onState (unbindVariable spec.index)

end Loop

namespace Node

mutual

/-- Applies a node and reports whether it has contributed. -/
def apply : Node → Action Bool
  | .mixed children => do
    applyAll children
    return true
  | .text content => do
    Action.append content
    return true
  | .spliced content filter => do
    Action.append (← Delimiters.substitution.scan (Action.onState <| splice filter ·) content)
    return true
  | .cond test body => do
    if ← Action.onState (Render.evaluateTest test) then
      let _ ← apply body
      return true
    else return false
  | .choose branches otherwise => do
    if ← applyFirst branches then return true
    else
      match otherwise with
      | some node =>
        let _ ← apply node
        return true
      | none => return false
  | .trim rule body => (apply body).flushed rule.apply
  | .loop spec body => do
    spec.apply (apply body)
    return true
  | .bind name value => do
    Action.onState (Render.bindName name (← Action.onState (Render.evaluate value)))
    return true

/-- Applies nodes one after another. -/
def applyAll : List Node → Action Unit
  | [] => pure ()
  | node :: rest => do
    let _ ← apply node
    applyAll rest

/-- Applies the first branch whose condition holds and reports whether there is one. -/
def applyFirst : List (Text × Node) → Action Bool
  | [] => pure false
  | (test, body) :: rest => do
    if ← Action.onState (Render.evaluateTest test) then
      let _ ← apply body
      return true
    else applyFirst rest

end

end Node

end SqlTemplate
