import SqlTemplate.Bindings
import SqlTemplate.Expr.Method

/-!
# Values of expressions

An expression has a value under bindings. Operands are evaluated from left to right; `and` and
`or` leave the second one alone where the first decides.
-/

namespace SqlTemplate

namespace Expr

/-- The value of a name. An object parameter answers for every name, with `null` if it has no such
field. -/
def lookup (bindings : Bindings) (name : String) : Except EvaluationFault Value :=
  match bindings.get? name with
  | some value => .ok value
  | none =>
    match bindings.parameter with
    | .obj _ => .ok .null
    | _ => .error (.unbound name)

mutual

/-- The value of an expression. -/
def eval (bindings : Bindings) : Expr → Except EvaluationFault Value
  | .literal value => .ok value
  | .var name => lookup bindings name
  | .member target name => do
    property (← eval bindings target) name
  | .index target position => do
    let target ← eval bindings target
    itemAt target (← eval bindings position)
  | .call target method args => do
    let target ← eval bindings target
    invoke target method (← evalAll bindings args)
  | .list items => do
    return .arr (← evalAll bindings items)
  | .unary .not operand => do
    return .bool (!(← eval bindings operand).isTrue)
  | .unary .neg operand => do
    negate (← eval bindings operand)
  | .binary .and left right => do
    let left ← eval bindings left
    if left.isTrue then return .bool (← eval bindings right).isTrue
    else return .bool false
  | .binary .or left right => do
    let left ← eval bindings left
    if left.isTrue then return .bool true
    else return .bool (← eval bindings right).isTrue
  | .binary op left right => do
    let left ← eval bindings left
    apply op left (← eval bindings right)

/-- The values of several expressions, in order. -/
def evalAll (bindings : Bindings) : List Expr → Except EvaluationFault (List Value)
  | [] => .ok []
  | e :: es => do
    let value ← eval bindings e
    return value :: (← evalAll bindings es)

end

end Expr

/-- One pass of a loop: a position or key, and the item there. -/
structure LoopElement where
  index : Value
  item : Value

namespace Value

/-- The elements that a loop runs over: the items of a list by position, the fields of an object by
key. A `null` collection is empty where that is allowed. -/
def loopElements (nullable : Bool) : Value → Except EvaluationFault (List LoopElement)
  | .arr items => .ok (items.zipIdx.map fun (item, position) => ⟨.ofNat position, item⟩)
  | .obj fields => .ok (fields.map fun (key, item) => ⟨.str key, item⟩)
  | .null => if nullable then .ok [] else .error .nullCollection
  | other => .error (.notIterable other)

end Value

end SqlTemplate
