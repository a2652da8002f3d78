import SqlTemplate.Pattern.Normal
import SqlTemplate.Pattern.Utf8
import Std.Data.HashMap

/-!
# The size of patterns

A pattern is run by a machine of states that reads a text byte by byte, forwards to find a match and
backwards to find where it starts. Both machines have to fit into 10 MiB, or the pattern is refused.
A state takes 32 bytes; it takes 8 more for each range of bytes that it tells apart, and 4 more for
each state that it leads to without reading.

The machines are only measured here. States for sets of characters are shared where they can be:
forwards those with the same continuation, backwards those with the same beginning. What can be
shared is looked up in a table with a fixed number of places, in which a newer state takes the place
of an older one.
-/

namespace SqlTemplate.Pattern

open CharSet (Span)

/-- A machine under construction, by its size. -/
structure Machine where
  /-- The number of states. -/
  states : Nat := 0
  /-- The bytes that they take. -/
  bytes : Nat := 0

namespace Machine

/-- The bytes that a machine may take. -/
def limit : Nat := 10 * 1024 * 1024

/-- The machine with more bytes for its states. -/
def widen? (bytes : Nat) (m : Machine) : Option Machine :=
  if m.bytes + bytes ≤ limit then some { m with bytes := m.bytes + bytes } else none

/-- The machine with one more state that takes `bytes` on top of what each state takes. -/
def state? (bytes : Nat) (m : Machine) : Option Machine :=
  widen? (32 + bytes) { m with states := m.states + 1 }

/-- The machine with more states that take nothing on top. -/
def states? : Nat → Machine → Option Machine
  | 0, m => some m
  | n + 1, m => (m.state? 0).bind (states? n)

/-- The machine with one more state that tells `count` ranges of bytes apart. -/
def branch? (count : Nat) (m : Machine) : Option Machine := m.state? (8 * count)

/-- The machine with one more state that leads to `count` states without reading. -/
def fork? (count : Nat) (m : Machine) : Option Machine := m.state? (4 * count)

/-- Several steps of the same kind, one after another. -/
def times? (step : Machine → Option Machine) : Nat → Machine → Option Machine
  | 0, m => some m
  | n + 1, m =>
    match step m with
    | some m => times? step n m
    | none => none

end Machine

/-- A table of states by what they do, with a fixed number of places. -/
structure Shared where
  places : Nat
  entries : Std.HashMap Nat (List Nat × Nat)

namespace Shared

/-- A table without states. -/
def new (places : Nat) : Shared := ⟨places, ∅⟩

/-- The place of a key. -/
def place (table : Shared) (key : List Nat) : Nat :=
  let mixed := key.foldl (fun (hash : UInt64) n => (hash ^^^ n.toUInt64) * 1099511628211)
    14695981039346656037
  mixed.toNat % table.places

/-- The state with a key, if it still has its place. -/
def find? (table : Shared) (key : List Nat) : Option Nat :=
  match table.entries[table.place key]? with
  | some (found, state) => if found = key then some state else none
  | none => none

/-- The table with one more state. -/
def insert (table : Shared) (key : List Nat) (state : Nat) : Shared :=
  { table with entries := table.entries.insert (table.place key) (key, state) }

end Shared

/-- Sequences with the same range at their head together: the range, and what follows it. -/
def byHead : List (List Span) → List (Span × List (List Span))
  | [] => []
  | [] :: sequences => byHead sequences
  | (head :: rest) :: sequences =>
    match byHead sequences with
    | (next, rests) :: groups =>
      if next = head then (head, rest :: rests) :: groups
      else (head, [rest]) :: (next, rests) :: groups
    | [] => [(head, [rest])]

/-- A machine, with the states of it that can be shared. -/
abbrev Sharing := Machine × Shared

mutual

/-- The state that reads one of the sequences, which have at most `length` ranges, and then is at
the state `target`. -/
def forwardState? (target : Nat) : (length : Nat) → List (List Span) → Sharing →
    Option (Nat × Sharing)
  | 0, _, sharing => some (target, sharing)
  | length + 1, sequences, sharing =>
    if sequences = [[]] then some (target, sharing)
    else do
      let (key, machine, table) ← forwardStates? target length (byHead sequences) sharing
      match table.find? key with
      | some state => some (state, machine, table)
      | none => do
        let state := machine.states
        let machine ← machine.branch? (key.length / 3)
        some (state, machine, table.insert key state)

/-- The branches that a state has for ranges and what follows them: two ends and a state for each.
-/
def forwardStates? (target length : Nat) : List (Span × List (List Span)) → Sharing →
    Option (List Nat × Sharing)
  | [], sharing => some ([], sharing)
  | ((first, last), rests) :: groups, sharing => do
    let (state, sharing) ← forwardState? target length rests sharing
    let (key, sharing) ← forwardStates? target length groups sharing
    some (first :: last :: state :: key, sharing)

end

/-- The states that read a sequence backwards before `target`, and the first of them. -/
def backwardStates? (target : Nat) : List Span → Sharing → Option (Nat × Sharing)
  | [], sharing => some (target, sharing)
  | (first, last) :: spans, (machine, table) =>
    match table.find? [target, first, last] with
    | some state => backwardStates? state spans (machine, table)
    | none => do
      let state := machine.states
      let machine ← machine.state? 0
      backwardStates? state spans (machine, table.insert [target, first, last] state)

/-- The states that read one of the sequences backwards. -/
def backwardBranches? (target : Nat) : List (List Span) → Sharing → Option Sharing
  | [], sharing => some sharing
  | spans :: sequences, sharing =>
    match backwardStates? target spans sharing with
    | some (_, machine, table) =>
      match machine.widen? 4 with
      | some machine => backwardBranches? target sequences (machine, table)
      | none => none
    | none => none

/-- Which way a machine reads a text. -/
inductive Direction
  | forward
  | backward
deriving DecidableEq

/-- The machine with states for one character of a set. -/
def setStates? (direction : Direction) (s : CharSet) (m : Machine) : Option Machine :=
  if s.isAscii then (m.state? 0).bind (Machine.branch? s.runs.length)
  else
    let sequences := s.runs.flatMap CharSet.utf8Spans
    match direction with
    | .forward => do
      let target := m.states
      let m ← m.state? 0
      let (_, m, _) ← forwardState? target 5 sequences (m, .new 10000)
      return m
    | .backward => do
      let target := m.states + 1
      let m ← m.states? 2
      let (m, _) ← backwardBranches? target sequences (m, .new 1000)
      return m

/-- The texts of literals, in the order of reading, together by their first byte. -/
def byByte (texts : List (List Nat)) : List (Nat × List (List Nat)) :=
  texts.foldl (fun groups text =>
    match text with
    | [] => groups
    | byte :: rest =>
      match groups.lookup byte with
      | none => groups ++ [(byte, [rest])]
      | some rests =>
        groups.map fun group => if group.1 = byte then (byte, rests ++ [rest]) else group) []

/-- The texts between those that are at their end. -/
def chunks : List (List Nat) → List (List (List Nat))
  | [] => [[]]
  | text :: texts =>
    match text, chunks texts with
    | [], chunks => [] :: chunks
    | text, chunk :: chunks => (text :: chunk) :: chunks
    | text, [] => [[text]]

mutual

/-- The machine with states that read any of the texts, of at most `length` bytes, letting an
earlier text go before a later one. Where all texts are at their end no state is needed. -/
def literalStates? : (length : Nat) → List (List Nat) → Machine → Option Machine
  | 0, _, m => some m
  | length + 1, texts, m =>
    if texts.all (·.isEmpty) then some m
    else
      let parts := match chunks texts with
        | [] :: parts => [] :: parts.dropWhile (·.isEmpty)
        | parts => parts
      do
        let m ← literalChunks? length (parts.map byByte) m
        m.fork? ((parts.filter (!·.isEmpty)).length + parts.length - 1)

/-- The states for the parts of a state, each for its bytes and for what follows them. -/
def literalChunks? (length : Nat) : List (List (Nat × List (List Nat))) → Machine →
    Option Machine
  | [], m => some m
  | [] :: parts, m => literalChunks? length parts m
  | groups :: parts, m => do
    let m ← literalGroups? length groups m
    let m ← if groups.length = 1 then m.state? 0 else m.branch? groups.length
    literalChunks? length parts m

/-- The states for what follows each byte. -/
def literalGroups? (length : Nat) : List (Nat × List (List Nat)) → Machine → Option Machine
  | [], m => some m
  | (_, rests) :: groups, m => do
    let m ← literalStates? length rests m
    literalGroups? length groups m

end

mutual

/-- The least number of bytes of a match; none if nothing can match. -/
def shortest? : Pattern → Option Nat
  | .empty | .assert _ => some 0
  | .literal text => some (Text.byteSize text)
  | .one s => if s.isEmpty then none else some 1
  | .seq items => shortestSeq? items
  | .either branches => shortestOf? branches
  | .repeated inner least _ _ => inner.shortest?.map (least * ·)
  | .group _ inner => inner.shortest?

/-- As `shortest?`, for patterns one after another. -/
def shortestSeq? : List Pattern → Option Nat
  | [] => some 0
  | p :: ps => do return (← p.shortest?) + (← shortestSeq? ps)

/-- As `shortest?`, for any one of the patterns. -/
def shortestOf? : List Pattern → Option Nat
  | [] => none
  | [p] => p.shortest?
  | p :: ps => do return min (← p.shortest?) (← shortestOf? ps)

end

mutual

/-- Whether every match is at the start of the text, by the form of the pattern alone, or at its end
for a machine that reads backwards. -/
def anchored (direction : Direction) : Pattern → Bool
  | .assert assertion =>
    assertion == (match direction with | .forward => .textStart | .backward => .textEnd)
  | .seq items =>
    match direction with
    | .forward => anchoredStart items
    | .backward => anchoredEnd items
  | .either branches => anchoredAll direction branches
  | .repeated inner least _ _ => least ≠ 0 && inner.anchored direction
  | .group _ inner => inner.anchored direction
  | _ => false

/-- Whether one of the items up to the first with a width is anchored at the start. -/
def anchoredStart : List Pattern → Bool
  | [] => false
  | p :: ps => p.anchored .forward || (p.zeroWidth && anchoredStart ps)

/-- Whether one of the items from the last with a width on is anchored at the end. -/
def anchoredEnd : List Pattern → Bool
  | [] => false
  | p :: ps => anchoredEnd ps || (zeroWidthAll ps && p.anchored .backward)

/-- Whether all of the branches are anchored. -/
def anchoredAll (direction : Direction) : List Pattern → Bool
  | [] => true
  | p :: ps => p.anchored direction && anchoredAll direction ps

end

mutual

/-- Whether the states of a pattern end in one that leads to several states. -/
def endsInFork (direction : Direction) : Pattern → Bool
  | .repeated inner least most _ =>
    match most with
    | none => 0 < least || inner.shortest?.any (0 < ·)
    | some most => least = most && inner.endsInFork direction
  | .seq items =>
    match direction with
    | .forward => lastEndsInFork items
    | .backward => firstEndsInFork items
  | .group _ inner =>
    match direction with
    | .forward => false
    | .backward => inner.endsInFork .backward
  | _ => false

/-- As `endsInFork` for the first pattern, read backwards. -/
def firstEndsInFork : List Pattern → Bool
  | [] => false
  | p :: _ => p.endsInFork .backward

/-- As `endsInFork` for the last pattern, read forwards. -/
def lastEndsInFork : List Pattern → Bool
  | [] => false
  | [p] => p.endsInFork .forward
  | _ :: ps => lastEndsInFork ps

end

/-- The bytes of a literal in the order of reading. -/
def bytesInOrder (direction : Direction) (text : Text) : List Nat :=
  let bytes := text.flatMap CharSet.utf8Bytes
  match direction with
  | .forward => bytes
  | .backward => bytes.reverse

/-- The text of a pattern that is a literal. -/
def literal? : Pattern → Option Text
  | .literal text => some text
  | _ => none

/-- The states of a repetition, given those of what is repeated. `link` is what it takes to lead
from one repetition to what comes behind it. -/
def repeatedStates? (inner : Machine → Option Machine) (link : Nat) (hasWidth : Bool) (least : Nat)
    (most : Option Nat) (m : Machine) : Option Machine :=
  let linked (m : Machine) : Option Machine := (inner m).bind (Machine.widen? link)
  match least, most with
  | 0, some 1 => do
    let m ← m.fork? 2
    let m ← linked m
    m.state? 0
  | 0, none =>
    if hasWidth then do
      let m ← m.fork? 1
      linked m
    else do
      let m ← linked m
      let m ← m.fork? 2
      let m ← m.fork? 2
      m.state? 0
  | least, none => do
    let m ← Machine.times? linked least m
    m.fork? 1
  | least, some most =>
    if least = most then do
      let m ← Machine.times? linked (least - 1) m
      inner m
    else do
      let m ← if least = 0 then m.state? 0 else Machine.times? linked least m
      let m ← m.state? 0
      Machine.times? (fun m => (m.fork? 2).bind linked) (most - least) m

/-- What it takes to lead from the states of a pattern to what comes behind it. -/
def linkBytes (direction : Direction) (p : Pattern) : Nat := if p.endsInFork direction then 4 else 0

mutual

/-- The machine with the states of a pattern. -/
def states? (direction : Direction) : Pattern → Machine → Option Machine
  | .empty, m => m.state? 0
  | .literal text, m => Machine.states? (bytesInOrder direction text).length m
  | .one s, m => setStates? direction s m
  | .assert _, m => m.state? 0
  | .seq items, m =>
    match direction with
    | .forward => forwardSeq? items m
    | .backward => backwardSeq? items m
  | .either branches, m =>
    match branches.mapM literal? with
    | some texts => do
      let texts := texts.map (bytesInOrder direction)
      let m ← m.state? 0
      literalStates? (texts.foldl (fun length text => max length text.length) 0 + 1) texts m
    | none => branchStates? direction 0 branches m
  | .repeated inner least most _, m =>
    repeatedStates? (states? direction inner) (linkBytes direction inner)
      (inner.shortest?.any (0 < ·)) least most m
  | .group _ inner, m =>
    match direction with
    | .forward => do
      let m ← m.state? 0
      let m ← states? .forward inner m
      let m ← m.widen? (linkBytes .forward inner)
      m.state? 0
    | .backward => states? .backward inner m

/-- The states of patterns one after another, read forwards. -/
def forwardSeq? : List Pattern → Machine → Option Machine
  | [], m => some m
  | [p], m => states? .forward p m
  | p :: ps, m => do
    let m ← states? .forward p m
    let m ← m.widen? (linkBytes .forward p)
    forwardSeq? ps m

/-- The states of patterns one after another, read backwards. -/
def backwardSeq? : List Pattern → Machine → Option Machine
  | [], m => some m
  | p :: ps, m => do
    let m ← backwardSeq? ps m
    let m ← match ps with
      | next :: _ => m.widen? (linkBytes .backward next)
      | [] => some m
    states? .backward p m

/-- The states of branches; the state where they part and the one where they meet stand behind the
second. -/
def branchStates? (direction : Direction) (before : Nat) : List Pattern → Machine → Option Machine
  | [], m => some m
  | p :: ps, m => do
    let m ← states? direction p m
    let m ← m.widen? (4 + linkBytes direction p)
    let m ← if before = 1 then m.states? 2 else some m
    branchStates? direction (before + 1) ps m

end

/-- The machine of a whole pattern: the states that pass over what comes before a match, unless it
has to be at the start, then those of the pattern, and the last one. -/
def machine? (direction : Direction) (p : Pattern) : Option Machine := do
  let m ← if p.anchored direction then Machine.state? 0 {}
    else do
      let m ← Machine.fork? 2 {}
      let m ← m.state? 0
      m.branch? 1
  let m ← states? direction (.group 0 p) m
  let m ← m.widen? (match direction with | .forward => 0 | .backward => linkBytes .backward p)
  m.state? 0

/-- Whether the machines of the pattern are small enough. -/
def fits (p : Pattern) : Bool := (machine? .forward p).isSome && (machine? .backward p).isSome

end SqlTemplate.Pattern
