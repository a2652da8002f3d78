import SqlTemplate.Pattern.Normal
import SqlTemplate.Pattern.Term

/-!
# What a pattern as it is written means

The flags in force at each place decide what is meant there. Without the flag for Unicode a pattern
stands for ASCII, and nothing in it may stand for a part of a character: sets outside of ASCII and
codes of single bytes above it have no meaning there.
-/

namespace SqlTemplate.Pattern

/-- The flags in force at a place. -/
structure Flags where
  ignoreCase : Bool := false
  multiLine : Bool := false
  dotAll : Bool := false
  crlf : Bool := false
  unicode : Bool := true
  lazyFirst : Bool := false

namespace Flags

/-- The flags after one of them is set or cleared. -/
def set (flags : Flags) (flag : Flag) (value : Bool) : Flags :=
  match flag with
  | .ignoreCase => { flags with ignoreCase := value }
  | .multiLine => { flags with multiLine := value }
  | .dotAll => { flags with dotAll := value }
  | .crlf => { flags with crlf := value }
  | .unicode => { flags with unicode := value }
  | .lazyFirst => { flags with lazyFirst := value }
  | .verbose => flags

/-- The flags after some changes. -/
def apply (flags : Flags) (changes : FlagChanges) : Flags :=
  changes.foldl (fun flags (flag, value) => flags.set flag value) flags

/-- The set with all case variants, where case does not count. -/
def fold (flags : Flags) (s : CharSet) : CharSet :=
  if !flags.ignoreCase then s
  else if flags.unicode then s.withVariants
  else s.withAsciiVariants

/-- The set, if it may stand under the flags. -/
def admit? (flags : Flags) (s : CharSet) : Option CharSet :=
  if flags.unicode || s.isAscii then some s else none

end Flags

/-- The set or its complement. -/
def negateIf (negated : Bool) (s : CharSet) : CharSet := if negated then s.complement else s

/-- The set that a letter between brackets stands for. -/
def Letter.set? (flags : Flags) (letter : Letter) : Option CharSet :=
  flags.admit? (.single letter.char)

/-- The set that two sets make up. -/
def SetOperation.apply : SetOperation → CharSet → CharSet → CharSet
  | .intersection => .intersection
  | .difference => .difference
  | .symmetricDifference => .symmetricDifference

/-- The characters of a kind. -/
def Kind.set (unicode : Bool) : Kind → CharSet
  | .digit => .digits unicode
  | .blank => .blanks unicode
  | .word => .words unicode

mutual

/-- The set that is meant under the flags. Case variants are added before a set is negated or
combined with another. -/
def SetTerm.set? (flags : Flags) : SetTerm → Option CharSet
  | .letter l => l.set? flags
  | .range first last => flags.admit? (.range first.char last.char)
  | .ascii negated s => flags.admit? (negateIf negated (flags.fold s))
  | .property negated s =>
    if flags.unicode then some (negateIf negated (flags.fold s)) else none
  | .kind negated k => flags.admit? (negateIf negated (k.set flags.unicode))
  | .brackets negated inner => do
    let s ← inner.set? flags
    flags.admit? (negateIf negated (flags.fold s))
  | .union items => (SetTerm.sets? flags items).map .unions
  | .combined operation left right => do
    let left ← left.set? flags
    let right ← right.set? flags
    return operation.apply (flags.fold left) (flags.fold right)

/-- The sets that are meant by several of them. -/
def SetTerm.sets? (flags : Flags) : List SetTerm → Option (List CharSet)
  | [] => some []
  | item :: items => do
    let s ← item.set? flags
    let sets ← SetTerm.sets? flags items
    return s :: sets

end

/-- What a letter stands for. -/
def Letter.meaning? (flags : Flags) (letter : Letter) : Option Pattern :=
  if !flags.unicode && letter.byte && 0x80 ≤ letter.char.toNat then none
  else some (.ofSet (flags.fold (.single letter.char)))

/-- The characters that a dot stands for. -/
def dotSet (flags : Flags) : CharSet :=
  if flags.dotAll then .all
  else if flags.crlf then .complement (.ofTable "A D")
  else .complement (.ofTable "A")

/-- The assertion that is meant. -/
def Anchor.meaning (flags : Flags) : Anchor → Assertion
  | .lineStart => if flags.multiLine then .lineStart flags.crlf else .textStart
  | .lineEnd => if flags.multiLine then .lineEnd flags.crlf else .textEnd
  | .textStart => .textStart
  | .textEnd => .textEnd
  | .boundary => .boundary flags.unicode
  | .noBoundary => .noBoundary flags.unicode
  | .wordStart => .wordStart flags.unicode
  | .wordEnd => .wordEnd flags.unicode
  | .halfStart => .halfStart flags.unicode
  | .halfEnd => .halfEnd flags.unicode

mutual

/-- What is meant under the flags, and the flags behind it. -/
def Term.meaning? (flags : Flags) : Term → Option (Pattern × Flags)
  | .empty => some (.empty, flags)
  | .flags changes => some (.empty, flags.apply changes)
  | .letter l => (l.meaning? flags).map (·, flags)
  | .dot => if flags.unicode then some (.ofSet (dotSet flags), flags) else none
  | .anchor a => some (.assert (a.meaning flags), flags)
  | .set s => (s.set? flags).map fun s => (.ofSet s, flags)
  | .repeated inner least most marked => do
    let (inner, flags) ← inner.meaning? flags
    return (.repetition inner least most (marked == flags.lazyFirst), flags)
  | .group index changes inner => do
    let (inner, _) ← inner.meaning? (flags.apply changes)
    match index with
    | some index => some (.group index inner, flags)
    | none => some (inner, flags)
  | .seq items => do
    let (items, flags) ← Term.meanings? flags items
    return (.sequence items, flags)
  | .either branches => do
    let (branches, flags) ← Term.meanings? flags branches
    return (.alternatives branches, flags)

/-- What is meant by several, and the flags behind them. -/
def Term.meanings? (flags : Flags) : List Term → Option (List Pattern × Flags)
  | [] => some ([], flags)
  | item :: items => do
    let (meaning, flags) ← item.meaning? flags
    let (meanings, flags) ← Term.meanings? flags items
    return (meaning :: meanings, flags)

end

end SqlTemplate.Pattern
