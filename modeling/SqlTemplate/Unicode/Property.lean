import SqlTemplate.Unicode.Age
import SqlTemplate.Unicode.Break

/-!
# Properties of characters by name

A property is named alone, such as `Alphabetic`, or with a value, such as `Script` and `Greek`.
Names are read loosely: case, blanks, hyphens and underscores do not count, nor does `is` in front.
-/

namespace SqlTemplate.Unicode

/-- The name without what does not count. -/
def plainName (name : Text) : String :=
  let plain (text : Text) : Text :=
    (text.filter fun c => c != ' ' && c != '_' && c != '-' && c.toNat < 0x80).map Char.toLower
  match name with
  | i :: s :: rest =>
    if i.toLower = 'i' && s.toLower = 's' then
      -- `isc` is no category: it names a property that has no set.
      if plain rest = ['c'] then "isc" else String.ofList (plain rest)
    else String.ofList (plain name)
  | _ => String.ofList (plain name)

/-- The characters that a name alone stands for: those with a property, of a category or of a
script. -/
def property? (name : Text) : Option CharSet :=
  NamedSet.find? (binaryProperties ++ categories ++ scriptSets) (plainName name)

/-- The properties with values: their names, and the sets of characters with each value. -/
def valuedProperties : List (List String × List NamedSet) := [
  (["gc", "generalcategory"], categories),
  (["sc", "script"], scriptSets),
  (["scx", "scriptextensions"], scriptExtensions),
  (["age"], ages),
  (["gcb", "graphemeclusterbreak"], graphemeClusterBreaks),
  (["wb", "wordbreak"], wordBreaks),
  (["sb", "sentencebreak"], sentenceBreaks)]

/-- The characters with a value of a property. -/
def propertyValue? (name value : Text) : Option CharSet := do
  let (_, values) ← valuedProperties.find? (·.1.contains (plainName name))
  NamedSet.find? values (plainName value)

end SqlTemplate.Unicode
