import SqlTemplate.Expr.Cache
import SqlTemplate.Expr.Eval
import SqlTemplate.Expr.Parser

/-!
# Evaluators

An evaluator says what an expression comes to under bindings: its value, whether it is true, and the
elements of a collection. What it parses it may keep in the cache, which goes from one question to
the next. Any evaluator can be used; the standard one evaluates the language of `Expr`.
-/

namespace SqlTemplate

/-- What a question comes to: the answer, the cache after it, and the sources that are parsed for
it, in order. -/
structure Reply (α : Type) where
  result : Except Error α
  cache : Expr.Cache
  parsed : List Text := []

/-- A reply whose answer is worked on. -/
def Reply.andThen {α β : Type} (reply : Reply α) (next : α → Except Error β) : Reply β where
  result := reply.result >>= next
  cache := reply.cache
  parsed := reply.parsed

/-- A way to evaluate expressions. Conditions and collections go by the value unless the evaluator
has ways of its own for them. -/
structure Evaluator where
  /-- The value of an expression. -/
  value (source : Text) (bindings : Bindings) (cache : Expr.Cache) : Reply Value
  /-- Whether an expression is true. -/
  test (source : Text) (bindings : Bindings) (cache : Expr.Cache) : Reply Bool :=
    (value source bindings cache).andThen fun value => .ok value.isTrue
  /-- The elements of a collection. -/
  elements (source : Text) (nullable : Bool) (bindings : Bindings) (cache : Expr.Cache) :
      Reply (List LoopElement) :=
    (value source bindings cache).andThen fun value =>
      (value.loopElements nullable).mapError (.evaluation source)

namespace Evaluator

/-- The expression that a source denotes, from the cache if it is there. Only what parses is
kept. -/
def parsed (source : Text) (cache : Expr.Cache) : Reply Expr :=
  match cache.get? source with
  | some e => { result := .ok e, cache := cache.touch source }
  | none =>
    match Expr.parse source with
    | .error e => { result := .error e, cache, parsed := [source] }
    | .ok e =>
      let inserted := cache.insertIfAbsent source e
      { result := .ok inserted.1, cache := inserted.2, parsed := [source] }

/-- The evaluator of the expression language. -/
def standard : Evaluator where
  value source bindings cache :=
    (parsed source cache).andThen fun e => (e.eval bindings).mapError (.evaluation source)

end Evaluator

end SqlTemplate
