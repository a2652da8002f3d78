import SqlTemplate.Decimal.Reading
import SqlTemplate.Error
import SqlTemplate.Expr.Syntax

/-!
# Operations on values

Integers stay integers and are exact: what leaves the range of 64 bits is an error. Where one side
is a float the other becomes one. Strings that read as numbers are compared as numbers with
numbers.
-/

namespace SqlTemplate

namespace Number

/-- A number as arithmetic sees it: an integer out of range is a float. -/
def operand : Number → Number
  | .int n => if inRange n then .int n else .float (Binary64.ofInt n)
  | .float x => .float x

/-- The order of two floats, if neither is undefined. -/
def compareFloats? (x y : Float) : Option Ordering :=
  if x < y then some .lt
  else if x == y then some .eq
  else if y < x then some .gt
  else none

/-- The order of two numbers: exact between integers, else that of floats. -/
def compare? : Number → Number → Option Ordering
  | .int a, .int b => some (Ord.compare a b)
  | a, b => compareFloats? a.toFloat b.toFloat

/-- The value of a number; a float that is not finite has none but `null`. -/
def toValue : Number → Value
  | .int n => .num (.int n)
  | .float x => .ofFloat x

/-- Whether a number counts as true. -/
def isTrue (n : Number) : Bool := n.toFloat != 0

end Number

namespace Value

/-- Whether a value counts as true: `null` and zero do not, and a truth value is itself. -/
def isTrue : Value → Bool
  | .null => false
  | .bool b => b
  | .num n => n.isTrue
  | _ => true

/-- Whether a value is a string. -/
def isString : Value → Bool
  | .str _ => true
  | _ => false

/-- The number that a value is. -/
def number? : Value → Option Number
  | .num n => some n.operand
  | _ => none

/-- The number that a text reads as, outer blanks apart: an integer in range, else a float. -/
def readNumber? (text : Text) : Option Number :=
  let text := text.trim
  match text.toInt?.filter Number.inRange with
  | some n => some (.int n)
  | none => text.toFloat?.map .float

/-- The number that a value is or, for a string, reads as. -/
def coerce? : Value → Option Number
  | .str s => readNumber? s.toList
  | value => value.number?

/-- Equality with coercion: `null` equals only itself, strings are compared as texts, and a number
equals whatever reads as the same number. -/
def equals : Value → Value → Bool
  | .null, .null => true
  | .null, _ => false
  | _, .null => false
  | .str a, .str b => a == b
  | .num a, b => coerced (.num a) b
  | a, .num b => coerced a (.num b)
  | a, b => same a b
where
  /-- Equality of two values as numbers. -/
  coerced (a b : Value) : Bool :=
    match a.coerce?, b.coerce? with
    | some m, some n => m.compare? n == some .eq
    | _, _ => false

/-- The order of two values: of strings as texts, of truth values with false first, of all else as
numbers. -/
def compare? : Value → Value → Option Ordering
  | .str a, .str b => some (Ord.compare a b)
  | .bool a, .bool b => some (Ord.compare a b)
  | a, b =>
    match a.coerce?, b.coerce? with
    | some m, some n => m.compare? n
    | _, _ => none

end Value

namespace Expr

/-- An exact result that has to lie in the range of integers. -/
def checked (n : Int) : Except EvaluationFault Number :=
  if Number.inRange n then .ok (.int n) else .error .integerOverflow

/-- Arithmetic on integers. Division cuts toward zero and a remainder has the sign of the
dividend. -/
def integerArithmetic (op : BinaryOp) (a b : Int) : Except EvaluationFault Number :=
  match op with
  | .add => checked (a + b)
  | .sub => checked (a - b)
  | .mul => checked (a * b)
  | .div => if b = 0 then .error .divisionByZero else checked (Int.tdiv a b)
  | .rem =>
    if b = 0 then .error .divisionByZero
    else if a = Number.least && b = -1 then .error .integerOverflow
    else checked (Int.tmod a b)
  | _ => .error .integerOverflow

/-- Arithmetic on floats. -/
def floatArithmetic (op : BinaryOp) (x y : Float) : Float :=
  match op with
  | .add => x + y
  | .sub => x - y
  | .mul => x * y
  | .div => x / y
  | _ => Binary64.remainder x y

/-- Arithmetic on two values, which have to be numbers. -/
def arithmetic (op : BinaryOp) (left right : Value) : Except EvaluationFault Value :=
  match left.number?, right.number? with
  | some (.int a), some (.int b) => (integerArithmetic op a b).map Number.toValue
  | some a, some b => .ok (.ofFloat (floatArithmetic op a.toFloat b.toFloat))
  | _, _ => .error (.notNumeric left right)

/-- Whether an order is one that a comparison asks for. -/
def holds (op : BinaryOp) (order : Ordering) : Bool :=
  match op with
  | .lt => order == .lt
  | .le => order != .gt
  | .gt => order == .gt
  | _ => order != .lt

/-- The value of an operator between two values. A sum with a string joins texts. -/
def apply (op : BinaryOp) (left right : Value) : Except EvaluationFault Value :=
  match op with
  | .eq => .ok (.bool (left.equals right))
  | .ne => .ok (.bool (!left.equals right))
  | .lt | .le | .gt | .ge =>
    match left.compare? right with
    | some order => .ok (.bool (holds op order))
    | none => .error (.notComparable left right)
  | .add =>
    if left.isString || right.isString then
      .ok (.str (String.ofList (left.toSql ++ right.toSql)))
    else arithmetic op left right
  | _ => arithmetic op left right

/-- The negative of a value, which has to be a number. -/
def negate (value : Value) : Except EvaluationFault Value :=
  match value.number? with
  | some (.int n) => (checked (-n)).map Number.toValue
  | some (.float x) => .ok (.ofFloat (-x))
  | none => .error .notNegatable

end Expr

end SqlTemplate
