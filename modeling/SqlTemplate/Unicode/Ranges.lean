/-!
# Sets of characters given by ranges

A Unicode property is a list of inclusive ranges of code points in increasing order.
-/

namespace SqlTemplate.Unicode

/-- Whether `n` lies in one of the ranges. -/
def inRanges (ranges : List (Nat × Nat)) (n : Nat) : Bool :=
  ranges.any fun (first, last) => first ≤ n && n ≤ last

end SqlTemplate.Unicode
