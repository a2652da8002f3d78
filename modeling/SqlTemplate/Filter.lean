import SqlTemplate.Text

/-!
# Filters

A filter decides which texts may be spliced into a statement.
-/

namespace SqlTemplate

/-- A test on texts, with the pattern that describes it. -/
structure Filter where
  pattern : String
  accepts : Text → Bool

end SqlTemplate
