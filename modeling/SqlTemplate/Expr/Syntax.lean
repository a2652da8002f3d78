import SqlTemplate.Value.Basic

/-!
# Expressions

The tree of an expression, and the table of precedence that its text follows.
-/

namespace SqlTemplate

namespace Expr

/-- The operators that stand before their operand. -/
inductive UnaryOp
  | not
  | neg
  deriving DecidableEq, Repr

/-- The operators that stand between their operands. -/
inductive BinaryOp
  | or
  | and
  | eq
  | ne
  | lt
  | le
  | gt
  | ge
  | add
  | sub
  | mul
  | div
  | rem
  deriving DecidableEq, Repr

/-- The precedence of an operator between operands, loosest first. All of them associate to the
left. -/
def BinaryOp.level : BinaryOp → Nat
  | or => 1
  | and => 2
  | eq | ne => 3
  | lt | le | gt | ge => 4
  | add | sub => 5
  | mul | div | rem => 6

/-- The precedence of the operators before an operand: tighter than all between operands. -/
def UnaryOp.level : Nat := 7

end Expr

/-- An expression. -/
inductive Expr
  | literal (value : Value)
  /-- A name, which the bindings give a meaning. -/
  | var (name : String)
  | member (target : Expr) (name : String)
  | index (target position : Expr)
  | call (target : Expr) (method : String) (args : List Expr)
  | list (items : List Expr)
  | unary (op : Expr.UnaryOp) (operand : Expr)
  | binary (op : Expr.BinaryOp) (left right : Expr)

instance : Inhabited Expr := ⟨.literal .null⟩

end SqlTemplate
