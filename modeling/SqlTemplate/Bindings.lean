import SqlTemplate.Value.Basic

/-!
# Bindings

What a name means while a statement is rendered: an explicit entry, or what the parameter offers
under that name.
-/

namespace SqlTemplate

/-- The explicit entries of one rendering, over the parameter it is for. -/
structure Bindings where
  entries : Fields
  parameter : Value

namespace Bindings

/-- No explicit entries. -/
def ofParameter (parameter : Value) : Bindings := ⟨[], parameter⟩

/-- The explicit entry under a name. -/
def bound? (bindings : Bindings) (name : String) : Option Value := bindings.entries.get? name

/-- What a name means: its entry, else the field of an object parameter, else a scalar parameter
itself. -/
def get? (bindings : Bindings) (name : String) : Option Value :=
  match bindings.bound? name with
  | some value => some value
  | none =>
    match bindings.parameter with
    | .obj fields => Fields.get? fields name
    | .null => none
    | .arr _ => none
    | scalar => some scalar

/-- The bindings with an entry put in place. -/
def insert (bindings : Bindings) (name : String) (value : Value) : Bindings :=
  { bindings with entries := bindings.entries.insert name value }

/-- The bindings without an entry under the name. -/
def remove (bindings : Bindings) (name : String) : Bindings :=
  { bindings with entries := bindings.entries.erase name }

/-- The name of the parameter as a whole. -/
def parameterName : String := "_parameter"

/-- The name of the configured database. -/
def databaseName : String := "_databaseId"

/-- The name of a parameter that has no parts. -/
def scalarName : String := "value"

/-- The bindings a rendering starts from: the parameter as a whole and the database under their
names, and a parameter without parts under one more. -/
def seed (parameter : Value) (database : Option String) : Bindings :=
  let start := ofParameter parameter
  let start := match parameter with
    | .arr _ | .obj _ => start
    | scalar => start.insert scalarName scalar
  (start.insert parameterName parameter).insert databaseName
    (match database with
    | some name => .str name
    | none => .null)

end Bindings

end SqlTemplate
