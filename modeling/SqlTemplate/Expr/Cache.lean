import SqlTemplate.Expr.Syntax
import SqlTemplate.Text

/-!
# The cache of parsed expressions

At most `capacity` parsed expressions are kept, those requested last. A queue holds their sources in
the order of the last request, so that the oldest one can go when there is no more room.
-/

namespace SqlTemplate.Expr

/-- Parsed expressions under their sources, and the queue of these sources. -/
structure Cache where
  capacity : Nat
  kept : List (Text × Expr)
  /-- Least recently requested first. -/
  queue : List Text

namespace Cache

/-- A cache that holds nothing yet. -/
def empty (capacity : Nat) : Cache := ⟨capacity, [], []⟩

/-- The expression kept for a source. -/
def get? (cache : Cache) (source : Text) : Option Expr := cache.kept.lookup source

/-- The cache after another request for a source: its place is at the end of the queue. -/
def touch (cache : Cache) (source : Text) : Cache :=
  if source ∈ cache.queue then { cache with queue := cache.queue.erase source ++ [source] }
  else cache

/-- What is left when the sources at the front of the queue go with their expressions, as long as
more than `capacity` expressions are kept. -/
def evict (capacity : Nat) (kept : List (Text × Expr)) :
    List Text → List (Text × Expr) × List Text
  | [] => (kept, [])
  | oldest :: queue =>
    if capacity < kept.length then evict capacity (kept.filter (·.1 ≠ oldest)) queue
    else (kept, oldest :: queue)

/-- Keeps the expression that a source denotes, unless there is one for it already. Gives the
expression to use. A cache without capacity keeps nothing. -/
def insertIfAbsent (cache : Cache) (source : Text) (e : Expr) : Expr × Cache :=
  if cache.capacity = 0 then (e, cache)
  else
    match cache.get? source with
    | some present => (present, cache.touch source)
    | none =>
      let (kept, queue) :=
        evict cache.capacity ((source, e) :: cache.kept) (cache.queue ++ [source])
      (e, { cache with kept, queue })

/-- Number of expressions kept. -/
def size (cache : Cache) : Nat := cache.kept.length

end Cache

end SqlTemplate.Expr
