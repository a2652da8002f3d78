import SqlTemplate.Config.Basic
import SqlTemplate.Mapping.Basic
import SqlTemplate.Scan

/-!
# Prepared statements

A statement is prepared when every placeholder has become a marker with its mapping. Blanks may be
shrunk on the way, outside the bodies of placeholders.
-/

namespace SqlTemplate

/-- A statement with markers, and one mapping for each marker in order. -/
structure Prepared where
  sql : Text
  mappings : List Mapping

namespace Prepared

/-- A text with each run of blanks as one space, or as none at the start if a space stands before
it. -/
def collapse (afterSpace : Bool) : Text → Text
  | [] => []
  | c :: rest =>
    if isBlank c then
      if afterSpace then collapse true rest else ' ' :: collapse true rest
    else c :: collapse false rest

/-- Whether a space stands before what follows `text`. -/
def endsInSpace (afterSpace : Bool) (text : Text) : Bool :=
  match text.getLast? with
  | some c => c == ' '
  | none => afterSpace

/-- The text of segments with the blanks of literal text collapsed. -/
def collapseSegments (afterSpace : Bool) : List Segment → Text
  | [] => []
  | .literal text :: rest =>
    let collapsed := collapse afterSpace text
    collapsed ++ collapseSegments (endsInSpace afterSpace collapsed) rest
  | segment :: rest =>
    let source := Delimiters.parameter.source segment
    source ++ collapseSegments (endsInSpace afterSpace source) rest

/-- A statement whose blanks are collapsed, but for those in placeholders, and which has none at
its ends. -/
def shrink (sql : Text) : Text :=
  Text.trim (collapseSegments false (Delimiters.parameter.segments sql))

/-- The marker for a placeholder, whose mapping goes behind those so far. -/
def mark (style : MarkerStyle) (known : Surroundings) (body : Text) :
    StateT (List Mapping) (Except Error) Text := do
  let mapping ← Mapping.ofBody known body
  let mappings ← getModify (· ++ [mapping])
  return style.marker (mappings.length + 1)

/-- The prepared form of a statement. -/
def ofText (config : Config) (known : Surroundings) (sql : Text) : Except Error Prepared := do
  let sql := if config.shrinkBlanks then shrink sql else sql
  let (sql, mappings) ← (Delimiters.parameter.scan (mark config.markers known) sql).run []
  return ⟨sql, mappings⟩

end Prepared

end SqlTemplate
