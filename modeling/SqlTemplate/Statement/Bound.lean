import SqlTemplate.Statement.Prepared
import SqlTemplate.StatementKind

/-!
# Bound statements

A bound statement is a prepared one together with a parameter. The values of its markers come from
the additional values first, and then from the parameter.
-/

namespace SqlTemplate

/-- A prepared statement, its parameter and the values left over from rendering. -/
structure Bound extends Prepared where
  parameter : Value
  additional : Fields
  accessor : Accessor

namespace Bound

/-- Whether there is an additional value under the name that a path starts with. -/
def hasAdditional (bound : Bound) (path : Text) : Bool :=
  bound.additional.contains (String.ofList (Path.splitRoot path).1)

/-- What a path finds in the additional values. -/
def additional? (bound : Bound) (path : Text) : Except Error (Option Value) :=
  let (root, rest) := Path.splitRoot path
  match bound.additional.get? (String.ofList root) with
  | none => .ok none
  | some value =>
    match rest with
    | none => .ok (some value)
    | some rest => bound.accessor.get? value rest

/-- The bound statement with an additional value put in place. -/
def setAdditional (bound : Bound) (name : String) (value : Value) : Bound :=
  { bound with additional := bound.additional.insert name value }

/-- What a mapping finds. A scalar parameter is the value of every placeholder. -/
def find? (bound : Bound) (mapping : Mapping) : Except Error (Option Value) :=
  if bound.hasAdditional mapping.property then bound.additional? mapping.property
  else if bound.parameter.isNull then .ok none
  else if (ValueType.of bound.parameter).isScalar then .ok (some bound.parameter)
  else bound.accessor.get? bound.parameter mapping.property

/-- The value of a mapping: `null` for an output, and where nothing is found. -/
def value (bound : Bound) (mapping : Mapping) : Except Error Value :=
  if mapping.mode.isInput then (bound.find? mapping).map (·.getD .null) else .ok .null

/-- The values of all markers, in order. -/
def values (bound : Bound) : Except Error (List Value) := bound.mappings.mapM bound.value

/-- What the statement does. -/
def kind (bound : Bound) : StatementKind := .ofSql bound.sql

end Bound

end SqlTemplate
