import SqlTemplate.Node.Render

/-!
# Relations that operations keep

Two renderings that differ in how they splice texts in do everything else alike. A relation that
holds of the operations, and goes on to hold where renderings are put together, holds of loops and
scans as soon as it holds of what is inside them.
-/

namespace SqlTemplate

/-- A relation of renderings that holds of the operations and is kept where they are put
together. -/
structure Render.Compatible (R : ∀ ⦃α : Type⦄, Render α → Render α → Prop) : Prop where
  pure {α : Type} (a : α) : R (Pure.pure a : Render α) (Pure.pure a)
  bind {α β : Type} {x y : Render α} {f g : α → Render β} (h : R x y)
    (hnext : ∀ a, R (f a) (g a)) : R (x >>= f) (y >>= g)
  fail {α : Type} (e : Error) : R (Render.fail e : Render α) (Render.fail e)
  emit (chunk : Text) : R (Render.emit chunk) (Render.emit chunk)
  bindName (name : String) (value : Value) :
    R (Render.bindName name value) (Render.bindName name value)
  unbindName (name : String) : R (Render.unbindName name) (Render.unbindName name)
  freshId : R Render.freshId Render.freshId
  evaluate (source : Text) : R (Render.evaluate source) (Render.evaluate source)
  evaluateTest (source : Text) : R (Render.evaluateTest source) (Render.evaluateTest source)
  evaluateLoop (source : Text) (nullable : Bool) :
    R (Render.evaluateLoop source nullable) (Render.evaluateLoop source nullable)
  within {α : Type} (layer : Layer) {x y : Render α} (h : R x y) :
    R (Render.within layer x) (Render.within layer y)

namespace Render.Compatible

variable {R : ∀ ⦃α : Type⦄, Render α → Render α → Prop} (hR : Compatible R)
include hR

/-- Loop variables are bound alike. -/
theorem bindVariable (name : Option String) (value : Value) (id : Nat) :
    R (Loop.bindVariable name value id) (Loop.bindVariable name value id) := by
  cases name with
  | none => exact hR.pure ()
  | some name => exact hR.bind (hR.bindName _ value) fun _ => hR.bindName name value

/-- Loop variables are taken away alike. -/
theorem unbindVariable (name : Option String) :
    R (Loop.unbindVariable name) (Loop.unbindVariable name) := by
  cases name with
  | none => exact hR.pure ()
  | some name => exact hR.unbindName name

/-- The texts around the passes of a loop are yielded alike. -/
theorem emitOption (text : Option Text) : R (Loop.emitOption text) (Loop.emitOption text) := by
  cases text with
  | none => exact hR.pure ()
  | some text => exact hR.emit text

variable {body other : Render Bool} (hbody : R body other) (spec : Loop)
include hbody

/-- Passes are related if their bodies are. -/
theorem pass (separator : Text) (element : LoopElement) :
    R (spec.pass body separator element) (spec.pass other separator element) :=
  hR.bind
    (hR.within _ <| hR.bind hR.freshId fun _ => hR.bind (hR.bindVariable _ _ _) fun _ =>
      hR.bind (hR.bindVariable _ _ _) fun _ => hR.within _ hbody)
    fun _ => hR.pure _

/-- Passes one after another are related if their bodies are. -/
theorem passes (separate : Bool) (elements : List LoopElement) :
    R (spec.passes body separate elements) (spec.passes other separate elements) := by
  induction elements generalizing separate with
  | nil => exact hR.pure ()
  | cons element rest ih =>
    rw [Loop.passes, Loop.passes]
    exact hR.bind (hR.pass hbody spec _ element) fun _ => ih _

/-- Loops are related if their bodies are. -/
theorem run : R (spec.run body) (spec.run other) := by
  refine hR.bind (hR.evaluateLoop _ _) fun elements => ?_
  cases elements with
  | nil => exact hR.pure ()
  | cons element rest =>
    exact hR.bind (hR.emitOption _) fun _ => hR.bind (hR.passes hbody spec false _) fun _ =>
      hR.bind (hR.emitOption _) fun _ => hR.bind (hR.unbindVariable _) fun _ =>
        hR.unbindVariable _

end Render.Compatible

namespace Render.Compatible

variable {R : ∀ ⦃α : Type⦄, Render α → Render α → Prop} (hR : Compatible R)
include hR

/-- Steps over a list are related if each of them is. -/
theorem mapM {α β : Type} {f g : α → Render β} (h : ∀ a, R (f a) (g a)) (xs : List α) :
    R (xs.mapM f) (xs.mapM g) := by
  induction xs with
  | nil =>
    rw [List.mapM_nil, List.mapM_nil]
    exact hR.pure []
  | cons x xs ih =>
    rw [List.mapM_cons, List.mapM_cons]
    exact hR.bind (h x) fun _ => hR.bind ih fun _ => hR.pure _

/-- Scans are related if their handlers are. -/
theorem scan (d : Delimiters) {handle other : Text → Render Text}
    (h : ∀ body, R (handle body) (other body)) (text : Text) :
    R (d.scan handle text) (d.scan other text) := by
  refine hR.bind (hR.mapM (fun segment => ?_) _) fun _ => hR.pure _
  cases segment with
  | literal text => exact hR.pure text
  | escapedOpening => exact hR.pure d.opening
  | token body => exact h _

end Render.Compatible

end SqlTemplate
