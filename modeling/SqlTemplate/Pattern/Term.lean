import SqlTemplate.Unicode.CharSet

/-!
# Patterns as they are written

The tree of a pattern before its flags are applied. What a letter stands for depends on the flags
in force where it is written, so the tree keeps flags where they stand.
-/

namespace SqlTemplate.Pattern

/-- What can be set or cleared from a place of a pattern on. -/
inductive Flag
  | ignoreCase
  | multiLine
  | dotAll
  | crlf
  | unicode
  /-- Blanks and comments in the pattern count for nothing. -/
  | verbose
  /-- Repetitions are greedy with a question mark, and lazy without one. -/
  | lazyFirst
deriving DecidableEq

/-- Flags with whether they are set or cleared. -/
abbrev FlagChanges := List (Flag × Bool)

/-- A character that stands for itself. -/
structure Letter where
  char : Char
  /-- Written as `\x` with two digits, which can also mean a byte. -/
  byte : Bool

/-- The kinds of characters that one letter after a backslash names. -/
inductive Kind
  | digit
  | blank
  | word

/-- The ways to combine two sets in brackets. -/
inductive SetOperation
  | intersection
  | difference
  | symmetricDifference

/-- A set of characters as it is written. -/
inductive SetTerm
  | letter (letter : Letter)
  | range (first last : Letter)
  /-- A set of ASCII with a name between `[:` and `:]`. -/
  | ascii (negated : Bool) (set : CharSet)
  | property (negated : Bool) (set : CharSet)
  | kind (negated : Bool) (kind : Kind)
  | brackets (negated : Bool) (inner : SetTerm)
  | union (items : List SetTerm)
  | combined (operation : SetOperation) (left right : SetTerm)

/-- An assertion as it is written. -/
inductive Anchor
  | lineStart
  | lineEnd
  | textStart
  | textEnd
  | boundary
  | noBoundary
  | wordStart
  | wordEnd
  | halfStart
  | halfEnd

/-- A pattern as it is written. -/
inductive Term
  | empty
  /-- Flags for the rest of the group around them. -/
  | flags (changes : FlagChanges)
  | letter (letter : Letter)
  | dot
  | anchor (anchor : Anchor)
  | set (set : SetTerm)
  | repeated (inner : Term) (least : Nat) (most : Option Nat) (marked : Bool)
  /-- Parentheses: with an index if what they match is remembered, with flags for the inside. -/
  | group (index : Option Nat) (changes : FlagChanges) (inner : Term)
  | seq (items : List Term)
  | either (branches : List Term)

mutual

/-- How deep brackets and the operations in them are nested. -/
def SetTerm.depth : SetTerm → Nat
  | .letter _ | .range .. | .ascii .. | .property .. | .kind .. => 0
  | .brackets _ inner => inner.depth + 1
  | .union items => SetTerm.depthOfAll items + 1
  | .combined _ left right => max left.depth right.depth + 1

/-- The greatest depth of several sets. -/
def SetTerm.depthOfAll : List SetTerm → Nat
  | [] => 0
  | item :: items => max item.depth (SetTerm.depthOfAll items)

end

mutual

/-- How deep a pattern is nested: repetitions, groups, brackets, branches, and several items one
after another each count. -/
def Term.depth : Term → Nat
  | .empty | .flags _ | .letter _ | .dot | .anchor _ => 0
  | .set s => s.depth
  | .repeated inner .. => inner.depth + 1
  | .group _ _ inner => inner.depth + 1
  | .seq items => Term.depthOfAll items + 1
  | .either branches => Term.depthOfAll branches + 1

/-- The greatest depth of several patterns. -/
def Term.depthOfAll : List Term → Nat
  | [] => 0
  | item :: items => max item.depth (Term.depthOfAll items)

end

/-- Several items one after another; one alone is itself. -/
def Term.ofItems : List Term → Term
  | [] => .empty
  | [item] => item
  | items => .seq items

/-- Several branches; one alone is itself. -/
def Term.ofBranches : List Term → Term
  | [branch] => branch
  | branches => .either branches

/-- Several items of a set; one alone is itself. -/
def SetTerm.ofItems : List SetTerm → SetTerm
  | [item] => item
  | items => .union items

end SqlTemplate.Pattern
