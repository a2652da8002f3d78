import SqlTemplate.Pattern.Basic

/-!
# Patterns in normal form

Every pattern is built by the functions here, which bring it into a normal form: no sequence inside
of a sequence, no letters side by side that could be one literal, no repetition that could be none,
and no branches that could be one set.
-/

namespace SqlTemplate.Pattern

mutual

/-- Whether two patterns are written the same in normal form. -/
def same : Pattern → Pattern → Bool
  | .empty, .empty => true
  | .literal a, .literal b => a == b
  | .one s, .one t => s.turns == t.turns
  | .assert a, .assert b => a == b
  | .seq as, .seq bs => sameAll as bs
  | .either as, .either bs => sameAll as bs
  | .repeated a least most greedy, .repeated b least' most' greedy' =>
    same a b && least == least' && most == most' && greedy == greedy'
  | .group i a, .group j b => i == j && same a b
  | _, _ => false

/-- As `same`, for patterns one by one. -/
def sameAll : List Pattern → List Pattern → Bool
  | [], [] => true
  | a :: as, b :: bs => same a b && sameAll as bs
  | _, _ => false

end

mutual

/-- Whether the pattern matches nothing but the empty text, by its form alone. -/
def zeroWidth : Pattern → Bool
  | .empty | .assert _ => true
  | .literal _ | .one _ => false
  | .seq items => zeroWidthAll items
  | .either branches => zeroWidthAll branches
  | .repeated inner _ most _ => most.isSome && inner.zeroWidth
  | .group _ inner => inner.zeroWidth

/-- Whether none of the patterns matches more than the empty text. -/
def zeroWidthAll : List Pattern → Bool
  | [] => true
  | p :: ps => p.zeroWidth && zeroWidthAll ps

end

/-- The pattern of one character of a set. -/
def ofSet (s : CharSet) : Pattern :=
  match s.only? with
  | some c => .literal [c]
  | none => .one s

/-- A repetition. One that cannot get longer happens at most once. -/
def repetition (inner : Pattern) (least : Nat) (most : Option Nat) (greedy : Bool) : Pattern :=
  let (least, most) : Nat × Option Nat :=
    if inner.zeroWidth then (min least 1, some (min (most.getD 1) 1)) else (least, most)
  if most = some 0 then .empty
  else if least = 1 && most = some 1 then inner
  else .repeated inner least most greedy

/-- The parts of a sequence in front of others; literals that meet are one. -/
def join (item : Pattern) (rest : List Pattern) : List Pattern :=
  match item, rest with
  | .empty, rest => rest
  | .literal a, .literal b :: rest => .literal (a ++ b) :: rest
  | item, rest => item :: rest

/-- Several patterns one after another. -/
def sequence (items : List Pattern) : Pattern :=
  let flat := items.flatMap fun item =>
    match item with
    | .seq items => items
    | item => [item]
  match flat.foldr join [] with
  | [] => .empty
  | [item] => item
  | items => .seq items

/-- The only character of a literal. -/
def onlyLetter? : Pattern → Option Char
  | .literal [c] => some c
  | _ => none

/-- The set of a pattern that is one. -/
def set? : Pattern → Option CharSet
  | .one s => some s
  | _ => none

/-- Several branches. Letters make up a set, and so do sets. -/
def choice (branches : List Pattern) : Pattern :=
  let flat := branches.flatMap fun branch =>
    match branch with
    | .either branches => branches
    | branch => [branch]
  match flat with
  | [branch] => branch
  | flat =>
    match flat.mapM onlyLetter?, flat.mapM set? with
    | some letters, _ => ofSet (.ofCodePoints (letters.map Char.toNat))
    | none, some sets => ofSet (.unions sets)
    | none, none => .either flat

/-- The parts that both sequences start with. -/
def commonStart : List Pattern → List Pattern → List Pattern
  | a :: as, b :: bs => if same a b then a :: commonStart as bs else []
  | _, _ => []

/-- The items of a pattern that is a sequence. -/
def items? : Pattern → Option (List Pattern)
  | .seq items => some items
  | _ => none

/-- Several branches; what all of them start with stands in front. -/
def alternatives (branches : List Pattern) : Pattern :=
  match choice branches with
  | .either flat =>
    match flat.mapM items? with
    | some (first :: others) =>
      let start := others.foldl commonStart first
      if start.isEmpty then .either flat
      else
        let ends := (first :: others).map fun items => sequence (items.drop start.length)
        sequence (start ++ [choice ends])
    | _ => .either flat
  | whole => whole

end SqlTemplate.Pattern
