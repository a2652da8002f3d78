import SqlTemplate.Filter
import SqlTemplate.Pattern.Meaning
import SqlTemplate.Pattern.Parser
import SqlTemplate.Pattern.Size

/-!
# Filters by pattern

A filter can be described by a pattern, which matches somewhere in the texts that the filter
accepts.
-/

namespace SqlTemplate

namespace Pattern

/-- The pattern that a text denotes, if it has a meaning and is not too large. -/
def ofText? (text : Text) : Option Pattern := do
  let (pattern, _) ← (← Term.ofText? text).meaning? {}
  if pattern.fits then some pattern else none

end Pattern

namespace Filter

/-- The filter that accepts the texts in which a pattern matches somewhere. -/
def ofPattern? (pattern : String) : Option Filter :=
  (Pattern.ofText? pattern.toList).map fun p => ⟨pattern, p.found⟩

/-- The filter that accepts the texts which a pattern matches as a whole. -/
def whole? (pattern : String) : Option Filter := ofPattern? ("^(?:" ++ pattern ++ ")$")

end Filter

end SqlTemplate
