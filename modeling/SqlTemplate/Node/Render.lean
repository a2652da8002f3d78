import SqlTemplate.Node.Basic
import SqlTemplate.Render.Basic

/-!
# Rendering nodes

A node reports whether it has contributed. Only a condition that does not hold has not, and a
choice without a branch to take.
-/

namespace SqlTemplate

namespace Node

/-- The text of an expression, which the filter has to accept. -/
def splice (filter : Option Filter) (source : Text) : Render Text := do
  let text := (← Render.evaluate source).toSql
  match filter with
  | none =>
    Render.record (.spliced text)
    return text
  | some filter =>
    if filter.accepts text then
      Render.record (.spliced text)
      return text
    else
      Render.record (.rejected text filter.pattern)
      Render.fail (.rejected text filter.pattern)

end Node

namespace Loop

/-- Puts the value of a loop variable under its name for the pass and under its own. -/
def bindVariable (name : Option String) (value : Value) (id : Nat) : Render Unit :=
  match name with
  | none => pure ()
  | some name => do
    Render.bindName (passName name id) value
    Render.bindName name value

/-- Yields a text that may be absent. -/
def emitOption : Option Text → Render Unit
  | none => pure ()
  | some text => Render.emit text

/-- Takes the entry of a loop variable away. -/
def unbindVariable : Option String → Render Unit
  | none => pure ()
  | some name => Render.unbindName name

/-- One pass over the body, with a separator before its first chunk that is not blank. Tells
whether there is such a chunk. -/
def pass (spec : Loop) (body : Render Bool) (separator : Text) (element : LoopElement) :
    Render Bool := do
  let (_, layer) ← Render.within (.separated separator false) do
    let id ← Render.freshId
    bindVariable spec.index element.index id
    bindVariable spec.item element.item id
    Render.within (.renamed ⟨spec.item, spec.index, id⟩) body
  return layer.written

/-- The passes over all elements. Separators start after the first pass with a chunk that is not
blank. -/
def passes (spec : Loop) (body : Render Bool) : Bool → List LoopElement → Render Unit
  | _, [] => pure ()
  | separate, element :: rest => do
    let written ← pass spec body (if separate then spec.separator else []) element
    passes spec body (separate || written) rest

/-- The loop over the elements of its collection. An empty collection leaves no trace. -/
def run (spec : Loop) (body : Render Bool) : Render Unit := do
  match ← Render.evaluateLoop spec.collection spec.nullable with
  | [] => pure ()
  | elements =>
    emitOption spec.opening
    passes spec body false elements
    emitOption spec.closing
    unbindVariable spec.item
    unbindVariable spec.index

end Loop

namespace Node

mutual

/-- Renders a node and reports whether it has contributed. -/
def render : Node → Render Bool
  | .mixed children => do
    renderAll children
    return true
  | .text content => do
    Render.emit content
    return true
  | .spliced content filter => do
    Render.emit (← Delimiters.substitution.scan (splice filter) content)
    return true
  | .cond test body => do
    if ← Render.evaluateTest test then
      let _ ← render body
      return true
    else return false
  | .choose branches otherwise => do
    if ← renderFirst branches then return true
    else
      match otherwise with
      | some node =>
        let _ ← render node
        return true
      | none => return false
  | .trim rule body => do
    let (applied, layer) ← Render.within (.collected []) (render body)
    Render.emit (rule.apply layer.buffer)
    return applied
  | .loop spec body => do
    spec.run (render body)
    return true
  | .bind name value => do
    Render.bindName name (← Render.evaluate value)
    return true

/-- Renders nodes one after another. -/
def renderAll : List Node → Render Unit
  | [] => pure ()
  | node :: rest => do
    let _ ← render node
    renderAll rest

/-- Renders the first branch whose condition holds and reports whether there is one. -/
def renderFirst : List (Text × Node) → Render Bool
  | [] => pure false
  | (test, body) :: rest => do
    if ← Render.evaluateTest test then
      let _ ← render body
      return true
    else renderFirst rest

end

end Node

end SqlTemplate
