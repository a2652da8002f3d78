import SqlTemplate.Expr.Operation
import SqlTemplate.Unicode.Casing

/-!
# Properties, positions and methods

What an expression can ask of a value. Nothing can be asked of `null`.
-/

namespace SqlTemplate.Expr

/-- The property of a value. An object has a `null` property under every absent name, and a list
has a size. -/
def property (target : Value) (name : String) : Except EvaluationFault Value :=
  match target with
  | .obj fields => .ok ((Fields.get? fields name).getD .null)
  | .null => .error (.nullProperty name)
  | .arr items =>
    if name = "length" || name = "size" then .ok (.ofNat items.length)
    else .error (.noProperty name .list)
  | other => .error (.noProperty name (.of other))

/-- The item of a list at a position, or the field of an object named by the text of a value.
Nothing there is `null`. -/
def itemAt (target position : Value) : Except EvaluationFault Value :=
  match target, position with
  | .arr items, .num (.int n) =>
    if 0 ≤ n then .ok (items[n.toNat]?.getD .null) else .error (.badListIndex (.int n))
  | .arr _, .num n => .error (.badListIndex n)
  | .obj fields, key => .ok ((Fields.get? fields (String.ofList key.toSql)).getD .null)
  | .null, _ => .error .nullIndex
  | _, _ => .error .notIndexable

/-- What a method computes from its arguments; each method takes a fixed number of them. -/
inductive Method
  | constant (result : Value)
  | ofOne (result : Value → Value)

/-- The method of a value with the given name. -/
def method? (target : Value) (name : String) : Option Method :=
  match name, target with
  | "size", .arr items | "length", .arr items => some (.constant (.ofNat items.length))
  | "size", .obj fields | "length", .obj fields => some (.constant (.ofNat fields.length))
  | "size", .str s | "length", .str s => some (.constant (.ofNat s.toList.length))
  | "isEmpty", .arr items => some (.constant (.bool items.isEmpty))
  | "isEmpty", .obj fields => some (.constant (.bool fields.isEmpty))
  | "isEmpty", .str s => some (.constant (.bool s.toList.isEmpty))
  | "trim", .str s => some (.constant (.str (String.ofList (Text.trim s.toList))))
  | "toUpperCase", .str s => some (.constant (.str (String.ofList (Text.toUpper s.toList))))
  | "toLowerCase", .str s => some (.constant (.str (String.ofList (Text.toLower s.toList))))
  | "toString", value => some (.constant (.str (String.ofList value.toSql)))
  | "startsWith", .str s => some (.ofOne fun arg => .bool (arg.toSql.isPrefixOf s.toList))
  | "endsWith", .str s => some (.ofOne fun arg => .bool (arg.toSql.isSuffixOf s.toList))
  | "contains", .str s => some (.ofOne fun arg => .bool (Text.contains s.toList arg.toSql))
  | "contains", .arr items => some (.ofOne fun arg => .bool (items.any (·.equals arg)))
  | "containsKey", .obj fields =>
    some (.ofOne fun arg => .bool (Fields.contains fields (String.ofList arg.toSql)))
  | "equals", value => some (.ofOne fun arg => .bool (value.equals arg))
  | _, _ => none

/-- The value of a method call. -/
def invoke (target : Value) (name : String) (args : List Value) : Except EvaluationFault Value :=
  if target.isNull then .error (.nullMethod name)
  else
    match method? target name, args with
    | some (.constant result), [] => .ok result
    | some (.ofOne result), [arg] => .ok (result arg)
    | some (.constant _), _ => .error (.arity name 0 args.length)
    | some (.ofOne _), _ => .error (.arity name 1 args.length)
    | none, _ => .error (.unknownMethod name (.of target))

end SqlTemplate.Expr
