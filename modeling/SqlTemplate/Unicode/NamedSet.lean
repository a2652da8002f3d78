import SqlTemplate.Unicode.CharSet

/-!
# Named sets of characters

The properties of characters are sets with names. A name is kept plain: in lower case, without the
blanks, hyphens and underscores that may stand between its words.
-/

namespace SqlTemplate.Unicode

/-- A set of characters under its plain names. -/
structure NamedSet where
  names : List String
  characters : CharSet

/-- The set that a plain name stands for. -/
def NamedSet.find? (sets : List NamedSet) (name : String) : Option CharSet :=
  (sets.find? (·.names.contains name)).map (·.characters)

end SqlTemplate.Unicode
