import SqlTemplate.Path

/-!
# Accessors

An accessor reads a property of a value. Types and presence of properties follow from what it finds,
unless it has ways of its own for them.
-/

namespace SqlTemplate

/-- A way to read properties. Finding nothing is no error. -/
structure Accessor where
  /-- The property at `path`, if there is one. -/
  get? (root : Value) (path : Text) : Except Error (Option Value)
  /-- The type of the property at `path`, if there is one. -/
  typeAt? (root : Value) (path : Text) : Except Error (Option ValueType) :=
    (get? root path).map (·.map ValueType.of)
  /-- Whether there is a property at `path`; it may be `null`. -/
  has (root : Value) (path : Text) : Bool :=
    match get? root path with
    | .ok (some _) => true
    | _ => false

namespace Accessor

/-- Reads by property paths. -/
def byPath : Accessor where
  get? root path := (Path.parse path).map (Value.walk? · root)

/-- Reads the field named by the whole path. -/
def byName : Accessor where
  get? root path := .ok <|
    match root with
    | .obj fields => Fields.get? fields (String.ofList path)
    | _ => none

end Accessor

end SqlTemplate
