import SqlTemplate.Text
import SqlTemplate.Value.Basic

/-!
# Types of parameters

The type of a parameter is that of its value, or the one declared for it by name.
-/

namespace SqlTemplate

/-- The type that a parameter is bound as. `any` binds the value as it is, `cursor` is an output of
a stored procedure. -/
inductive ValueType
  | any
  | boolean
  | integer
  | float
  | string
  | list
  | map
  | cursor
  deriving DecidableEq, Repr

namespace ValueType

/-- The type of a value. `null` tells nothing. -/
def of : Value → ValueType
  | .null => any
  | .bool _ => boolean
  | .num (.int _) => integer
  | .num (.float _) => float
  | .str _ => string
  | .arr _ => list
  | .obj _ => map

/-- A scalar parameter is itself the value of every placeholder. -/
def isScalar : ValueType → Bool
  | boolean | integer | float | string => true
  | any | list | map | cursor => false

/-- The name of a type in messages. -/
def name : ValueType → String
  | any => "any"
  | boolean => "boolean"
  | integer => "integer"
  | float => "float"
  | string => "string"
  | list => "list"
  | map => "map"
  | cursor => "cursor"

/-- The names that a declaration may use for a type. -/
def aliases : List (ValueType × List String) := [
  (any, ["object", "any"]),
  (boolean, ["boolean", "bool", "_boolean"]),
  (integer, ["int", "integer", "long", "short", "byte", "biginteger", "_int", "_long", "_short",
    "_byte", "i16", "i32", "i64", "u32", "u64"]),
  (float, ["double", "float", "bigdecimal", "decimal", "_double", "_float", "f32", "f64"]),
  (string, ["string", "char", "character", "str"]),
  (list, ["list", "arraylist", "collection", "array", "set", "vec"]),
  (map, ["map", "hashmap", "object_map"]),
  (cursor, ["resultset", "cursor"])]

/-- The type that a declaration names. Of a dotted name only the last part counts, and the case of
ASCII letters does not. -/
def ofAlias? (declared : Text) : Option ValueType :=
  let last := ((Text.splitOn '.' declared.trim).getLast?).getD []
  let short := String.ofList (last.map Char.toLower)
  (aliases.find? fun (_, names) => names.contains short).map (·.1)

/-- The type with the given name. -/
def ofName? (text : String) : Option ValueType :=
  [any, boolean, integer, float, string, list, map, cursor].find? (·.name == text)

end ValueType

end SqlTemplate
