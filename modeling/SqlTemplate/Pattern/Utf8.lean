import SqlTemplate.Unicode.CharSet

/-!
# Sets of characters as bytes

In UTF-8 the characters of a run are written as a few sequences of ranges of bytes: a text is in the
run if each of its bytes is in the range at its place, for one of the sequences.
-/

namespace SqlTemplate.CharSet

/-- An inclusive range of numbers. -/
abbrev Span := Nat × Nat

/-- The sequences of ranges of digits for the numbers from `first` to `last`, each written with
`count` digits to base 64 after a leading one. The sequences are in increasing order, and as few as
there can be. -/
def digitSpans : (count first last : Nat) → List (List Span)
  | 0, first, last => [[(first, last)]]
  | count + 1, first, last =>
    let size := 1 <<< (6 * (count + 1))
    let (high, low) := (first / size, first % size)
    let (high', low') := (last / size, last % size)
    if high = high' then (digitSpans count low low').map ((high, high) :: ·)
    else
      let partialStart := low ≠ 0
      let partialEnd := low' ≠ size - 1
      let start := if partialStart then high + 1 else high
      let stop := if partialEnd then high' else high' + 1
      (if partialStart then (digitSpans count low (size - 1)).map ((high, high) :: ·) else []) ++
        (if start < stop then [(start, stop - 1) :: List.replicate (count + 1) (0, 63)] else []) ++
        (if partialEnd then (digitSpans count 0 low').map ((high', high') :: ·) else [])

/-- Digits as bytes: `lead` is added to the first of them, and the others are marked as bytes that
go on. -/
def bytesOfDigits (lead : Nat) : List Span → List Span
  | [] => []
  | (first, last) :: rest =>
    (lead + first, lead + last) :: rest.map fun (first, last) => (0x80 + first, 0x80 + last)

/-- The lengths of characters in UTF-8: the bytes after the first, what the first byte starts at,
and the code points. -/
def lengths : List (Nat × Nat × Span) := [
  (0, 0, 0, 0x7F),
  (1, 0xC0, 0x80, 0x7FF),
  (2, 0xE0, 0x800, 0xFFFF),
  (3, 0xF0, 0x10000, 0x10FFFF)]

/-- The sequences of ranges of bytes for a run of characters. -/
def utf8Spans (run : Span) : List (List Span) :=
  lengths.flatMap fun (count, lead, first, last) =>
    let (first, last) := (max first run.1, min last run.2)
    if first ≤ last then (digitSpans count first last).map (bytesOfDigits lead) else []

/-- The bytes of a character. -/
def utf8Bytes (c : Char) : List Nat := (utf8Spans (c.toNat, c.toNat)).flatten.map (·.1)

end SqlTemplate.CharSet
