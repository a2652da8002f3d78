import SqlTemplate.Proofs.Node.Steps

/-!
# What a rendering visits

A rendering decides where to go by conditions and by the sizes of collections, and on its way it
comes to texts. Each of these is a visit; the visits stand in the order in which they are made.
-/

namespace SqlTemplate

open Render

/-- What a rendering goes by. -/
inductive Choice
  /-- Whether a condition holds. -/
  | test (holds : Bool)
  /-- How many passes a loop has. -/
  | loop (passes : Nat)
  deriving DecidableEq

/-- What a rendering comes to. -/
inductive Visit
  | choice (made : Choice)
  /-- A text, and the variables of the loops around it with their values, innermost first. -/
  | text (content : Text) (around : Fields)

namespace Visit

/-- The choice made. -/
def choice? : Visit → Option Choice
  | choice made => some made
  | text _ _ => none

/-- The text and the variables around it. -/
def text? : Visit → Option (Text × Fields)
  | choice _ => none
  | text content around => some (content, around)

end Visit

/-- What is visited after a rendering that succeeds. -/
def Outcome.visits {α : Type} (o : Outcome α) (next : α → RenderState → List Visit) : List Visit :=
  match o.result with
  | .ok a => next a o.state
  | .error _ => []

/-- After a success the visits go on from its result and state. -/
theorem Render.Gives.visits {α : Type} {x : Render α} {s t : RenderState} {a : α}
    {chunks : List Text} (h : x.Gives s a chunks t) (next : α → RenderState → List Visit) :
    (x s).visits next = next a t := by
  rw [Outcome.visits, h]

namespace Loop

/-- The variables of a pass, before those of the loops around it. -/
def extend (spec : Loop) (element : LoopElement) (outer : Fields) : Fields :=
  spec.item.toList.map (·, element.item) ++ spec.index.toList.map (·, element.index) ++ outer

/-- What the passes over elements visit, if `inside` is what the body visits. -/
def visitsPasses (spec : Loop) (body : Render Bool) (inside : Fields → RenderState → List Visit)
    (outer : Fields) : List LoopElement → RenderState → List Visit
  | [], _ => []
  | element :: rest, s =>
    inside (spec.extend element outer) (spec.enter element s) ++
      (body (spec.enter element s)).visits fun _ t => visitsPasses spec body inside outer rest t

end Loop

namespace Node

mutual

/-- What is visited when a node within loops with the given variables is rendered. -/
def visits : Node → Fields → RenderState → List Visit
  | .mixed children, outer, s => visitsAll children outer s
  | .text content, outer, _ => [.text content outer]
  | .spliced _ _, _, _ => []
  | .cond test body, outer, s =>
    (evaluateTest test s).visits fun holds t =>
      .choice (.test holds) :: if holds then visits body outer t else []
  | .choose branches otherwise, outer, s =>
    visitsFirst branches outer s ++
      (renderFirst branches s).visits fun taken t =>
        if taken then [] else visitsLast otherwise outer t
  | .trim _ body, outer, s => visits body outer s
  | .loop spec body, outer, s =>
    (evaluateLoop spec.collection spec.nullable s).visits fun elements t =>
      .choice (.loop elements.length) ::
        spec.visitsPasses (render body) (fun around u => visits body around u) outer elements t
  | .bind _ _, _, _ => []

/-- What several nodes visit one after another. -/
def visitsAll : List Node → Fields → RenderState → List Visit
  | [], _, _ => []
  | node :: rest, outer, s =>
    visits node outer s ++ (render node s).visits fun _ t => visitsAll rest outer t

/-- What is visited for the first branch whose condition holds. -/
def visitsFirst : List (Text × Node) → Fields → RenderState → List Visit
  | [], _, _ => []
  | (test, body) :: rest, outer, s =>
    (evaluateTest test s).visits fun holds t =>
      .choice (.test holds) :: if holds then visits body outer t else visitsFirst rest outer t

/-- What is visited for the last node of a choice, if it has one. -/
def visitsLast : Option Node → Fields → RenderState → List Visit
  | none, _, _ => []
  | some node, outer, s => visits node outer s

end

end Node

end SqlTemplate
