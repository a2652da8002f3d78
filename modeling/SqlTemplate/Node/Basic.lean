import SqlTemplate.Filter
import SqlTemplate.Trim

/-!
# Nodes

A compiled template is a tree of nodes. It is built once for a statement and rendered for each
parameter.
-/

namespace SqlTemplate

/-- What a loop runs over, the names of its variables and the texts around its passes. -/
structure Loop where
  collection : Text
  item : Option String := none
  index : Option String := none
  opening : Option Text := none
  closing : Option Text := none
  separator : Text := []
  /-- A `null` collection counts as an empty one. -/
  nullable : Bool := false

/-- A node of a compiled template. -/
inductive Node
  /-- Nodes one after another. -/
  | mixed (children : List Node)
  /-- Text that is rendered as it is. -/
  | text (text : Text)
  /-- Text with expressions to splice in, each of which the filter has to accept. -/
  | spliced (text : Text) (filter : Option Filter)
  /-- A node under a condition. -/
  | cond (test : Text) (body : Node)
  /-- The first node whose condition holds, else the last one, if there is one. -/
  | choose (branches : List (Text × Node)) (otherwise : Option Node)
  | trim (rule : TrimRule) (body : Node)
  | loop (spec : Loop) (body : Node)
  /-- Puts the value of an expression under a name. -/
  | bind (name : String) (value : Text)

instance : Inhabited Node := ⟨.mixed []⟩

namespace Node

mutual

/-- Whether rendering can depend on the parameter: only plain text cannot. -/
def isDynamic : Node → Bool
  | .text _ => false
  | .mixed children => anyDynamic children
  | _ => true

/-- Whether one of the nodes is dynamic. -/
def anyDynamic : List Node → Bool
  | [] => false
  | node :: rest => isDynamic node || anyDynamic rest

end

end Node

end SqlTemplate
