import SqlTemplate.Pattern.Class

/-!
# Patterns

A pattern describes texts. Matching works on sets of positions: it takes the positions where a
match may start to those where it may end.
-/

namespace SqlTemplate

/-- What a pattern can ask of a position. -/
inductive Assertion
  | textStart
  | textEnd
  | lineStart (crlf : Bool)
  | lineEnd (crlf : Bool)
  | boundary (unicode : Bool)
  | noBoundary (unicode : Bool)
  | wordStart (unicode : Bool)
  | wordEnd (unicode : Bool)
  /-- No character of a word stands before the position. -/
  | halfStart (unicode : Bool)
  /-- No character of a word stands after the position. -/
  | halfEnd (unicode : Bool)
deriving DecidableEq

/-- A description of texts. -/
inductive Pattern
  | empty
  | literal (text : Text)
  | one (set : CharSet)
  | assert (assertion : Assertion)
  | seq (items : List Pattern)
  | either (branches : List Pattern)
  /-- At least `least` times and, if there is a limit, at most that many times. A greedy repetition
  prefers more to fewer: that decides which match is found, not whether there is one. -/
  | repeated (inner : Pattern) (least : Nat) (most : Option Nat) (greedy : Bool)
  | group (index : Nat) (inner : Pattern)

namespace Pattern

/-- Increasing positions of a text, as offsets in characters. -/
abbrev Positions := List Nat

/-- The positions of either list, in order. -/
def merge : Positions → Positions → Positions
  | [], ys => ys
  | xs, [] => xs
  | x :: xs, y :: ys =>
    if x < y then x :: merge xs (y :: ys)
    else if y < x then y :: merge (x :: xs) ys
    else x :: merge xs ys

/-- The positions of the first list that are not in the second. -/
def without : Positions → Positions → Positions
  | [], _ => []
  | xs, [] => xs
  | x :: xs, y :: ys =>
    if x < y then x :: without xs (y :: ys)
    else if y < x then without (x :: xs) ys
    else without xs ys

end Pattern

/-- Whether an assertion holds between two characters, either of which may be missing. -/
def Assertion.holds (assertion : Assertion) (before after : Option Char) : Bool :=
  let word (unicode : Bool) (c : Option Char) : Bool := c.any (CharSet.words unicode).contains
  match assertion with
  | textStart => before.isNone
  | textEnd => after.isNone
  | lineStart crlf =>
    before.isNone || before == some '\n' || (crlf && before == some '\r' && after != some '\n')
  | lineEnd crlf =>
    after.isNone || (crlf && after == some '\r') ||
      (after == some '\n' && !(crlf && before == some '\r'))
  | boundary unicode => word unicode before != word unicode after
  | noBoundary unicode => word unicode before == word unicode after
  | wordStart unicode => !word unicode before && word unicode after
  | wordEnd unicode => word unicode before && !word unicode after
  | halfStart unicode => !word unicode before
  | halfEnd unicode => !word unicode after

namespace Pattern

/-- Several steps one after another. -/
def iterate (step : Positions → Positions) : Nat → Positions → Positions
  | 0, starts => starts
  | n + 1, starts => iterate step n (step starts)

/-- The positions in `seen`, and all that at most `n` steps lead to from those that were found
last. Where a step leads to nothing new, no further one does. -/
def accumulate (step : Positions → Positions) : (n : Nat) → (seen last : Positions) → Positions
  | 0, seen, _ => seen
  | n + 1, seen, last =>
    let found := without (step last) seen
    if found.isEmpty then seen else accumulate step n (merge seen found) found

/-- The positions behind one character of the set. -/
def advance (text : Array Char) (set : Char → Bool) (starts : Positions) : Positions :=
  starts.filterMap fun i => if (text[i]?).any set then some (i + 1) else none

/-- The positions where a match can end of a pattern that has no parts. -/
def endsOfAtom (text : Array Char) (pattern : Pattern) (starts : Positions) : Positions :=
  match pattern with
  | .empty => starts
  | .literal chars => chars.foldl (fun starts c => advance text (· == c) starts) starts
  | .one set => advance text set.contains starts
  | .assert assertion =>
    starts.filter fun i => assertion.holds (if i = 0 then none else text[i - 1]?) text[i]?
  | _ => []

/-- The positions where matches end, for each position of a text. -/
abbrev Table := Array Positions

/-- The table of what a function gives at each position of the text. -/
def tabulate (text : Array Char) (f : Nat → Positions) : Table :=
  ((List.range (text.size + 1)).map f).toArray

/-- The positions that a table leads to from any of some positions. -/
def Table.step (table : Table) (starts : Positions) : Positions :=
  starts.foldr (fun i ends => merge (table.getD i []) ends) []

/-- The positions in `found`, and all that the pending ones lead to, given all that each position
leads to in any number of steps. What one of them leads to is no longer pending. -/
def spread (closed : Nat → Positions) : (n : Nat) → (found pending : Positions) → Positions
  | 0, found, _ => found
  | _, found, [] => found
  | n + 1, found, i :: pending =>
    let reached := closed i
    spread closed n (merge found reached) (without pending reached)

/-- The table of what any number of steps leads to. As no step goes back, it is made from the end of
the text on. -/
def Table.closure (table : Table) : Table :=
  let closed := (List.range table.size).foldr (fun i closed =>
    let next := (table.getD i []).filter (i < ·)
    spread (fun j => closed.getD (j - i - 1) []) next.length [i] next :: closed) []
  closed.toArray

/-- The table that closes another one, if there is no limit to the steps. -/
def Table.closureFor (table : Table) (most : Option Nat) : Table :=
  match most with
  | none => table.closure
  | some _ => #[]

/-- At least `least` steps and, if there is a limit, at most `most`. As no step goes back, more
steps than the text has positions change nothing. -/
def Table.repeatStep (once closed : Table) (least : Nat) (most : Option Nat) (starts : Positions) :
    Positions :=
  let starts := iterate once.step (min least once.size) starts
  match most with
  | none => spread (fun i => closed.getD i []) starts.length [] starts
  | some most => accumulate once.step (most - least) starts starts

mutual

/-- Where matches of the pattern end, for each position of the text. The table of each part is made
once, however often the part is repeated. -/
def table (text : Array Char) : Pattern → Table
  | .seq items => tableOfAll text items
  | .either branches => tableOfAny text branches
  | .repeated inner least most _ =>
    let once := table text inner
    let closed := once.closureFor most
    tabulate text fun i => once.repeatStep closed least most [i]
  | .group _ inner => table text inner
  | atom => tabulate text fun i => endsOfAtom text atom [i]

/-- As `table`, for patterns one after another. -/
def tableOfAll (text : Array Char) : List Pattern → Table
  | [] => tabulate text fun i => [i]
  | item :: items =>
    let others := tableOfAll text items
    (table text item).map others.step

/-- As `table`, for any one of the patterns. -/
def tableOfAny (text : Array Char) : List Pattern → Table
  | [] => tabulate text fun _ => []
  | branch :: branches => Array.zipWith merge (table text branch) (tableOfAny text branches)

end

mutual

/-- The positions where a match of the pattern can end that starts at one of the given positions. -/
def ends (text : Array Char) : Pattern → Positions → Positions
  | .seq items, starts => endsOfAll text items starts
  | .either branches, starts => endsOfAny text branches starts
  | .repeated inner least most _, starts =>
    let once := table text inner
    once.repeatStep (once.closureFor most) least most starts
  | .group _ inner, starts => ends text inner starts
  | atom, starts => endsOfAtom text atom starts

/-- As `ends`, for patterns one after another. -/
def endsOfAll (text : Array Char) : List Pattern → Positions → Positions
  | [], starts => starts
  | item :: items, starts => endsOfAll text items (ends text item starts)

/-- As `ends`, for any one of the patterns. -/
def endsOfAny (text : Array Char) : List Pattern → Positions → Positions
  | [], _ => []
  | branch :: branches, starts => merge (ends text branch starts) (endsOfAny text branches starts)

end

/-- Whether the pattern matches somewhere in the text. -/
def found (pattern : Pattern) (text : Text) : Bool :=
  !(pattern.ends text.toArray (List.range (text.length + 1))).isEmpty

end Pattern

end SqlTemplate
