import SqlTemplate.Text

/-!
# Sets of characters

A set of characters is written as the code points where membership turns: the first of each run of
members, and the first code point after the run. One walk along two such lists serves every way to
combine two sets; `insideAt_walk` says that it decides member by member.
-/

namespace SqlTemplate

/-- A set of characters, as the increasing code points where membership turns. -/
structure CharSet where
  turns : List Nat
deriving DecidableEq

namespace CharSet

/-- Whether `n` is a member, where `inside` holds before the first turn. -/
def insideAt (inside : Bool) : List Nat → Nat → Bool
  | [], _ => inside
  | turn :: turns, n => if n < turn then inside else insideAt (!inside) turns n

/-- Whether the set has a character. -/
def contains (s : CharSet) (c : Char) : Bool := insideAt false s.turns c.toNat

/-- No character. -/
def empty : CharSet := ⟨[]⟩

/-- All characters. The surrogates between them are none. -/
def all : CharSet := ⟨[0, 0xD800, 0xE000, 0x110000]⟩

/-- The turns of a combined set, where `a` and `b` say whether the walk is inside of either. -/
def walk (op : Bool → Bool → Bool) (a b : Bool) : List Nat → List Nat → List Nat
  | [], [] => []
  | s :: ss, [] => turnIf (op (!a) b != op a b) s (walk op (!a) b ss [])
  | [], t :: ts => turnIf (op a (!b) != op a b) t (walk op a (!b) [] ts)
  | s :: ss, t :: ts =>
    if s < t then turnIf (op (!a) b != op a b) s (walk op (!a) b ss (t :: ts))
    else if t < s then turnIf (op a (!b) != op a b) t (walk op a (!b) (s :: ss) ts)
    else turnIf (op (!a) (!b) != op a b) s (walk op (!a) (!b) ss ts)
  termination_by ss ts => ss.length + ts.length
where
  /-- One more turn, if there is one. -/
  turnIf (turns : Bool) (n : Nat) (rest : List Nat) : List Nat := if turns then n :: rest else rest

/-- Before the first turn nothing has changed. -/
theorem insideAt_of_lt {inside : Bool} {turns : List Nat} {n : Nat}
    (h : ∀ turn ∈ turns, n < turn) : insideAt inside turns n = inside := by
  cases turns with
  | nil => rfl
  | cons turn turns => simp [insideAt, h turn (by simp)]

/-- A turn is written where membership changes; before it, nothing has changed. -/
theorem insideAt_turnIf {before after : Bool} {turn n : Nat} {rest : List Nat}
    (h : n < turn → insideAt after rest n = after) :
    insideAt before (walk.turnIf (after != before) turn rest) n =
      if n < turn then before else insideAt after rest n := by
  by_cases hne : after = before
  · subst hne
    by_cases hn : n < turn
    · simp [walk.turnIf, hn, h hn]
    · simp [walk.turnIf, hn]
  · have hafter : after = !before := by cases after <;> cases before <;> simp_all
    subst hafter
    simp [walk.turnIf, insideAt]

/-- The walk decides member by member. -/
theorem insideAt_walk (op : Bool → Bool → Bool) {a b : Bool} {ss ts : List Nat} (n : Nat)
    (hs : ss.Pairwise (· < ·)) (ht : ts.Pairwise (· < ·)) :
    insideAt (op a b) (walk op a b ss ts) n = op (insideAt a ss n) (insideAt b ts n) := by
  fun_induction walk op a b ss ts with
  | case1 => rfl
  | case2 a b s ss ih =>
    obtain ⟨hlt, hs⟩ := List.pairwise_cons.1 hs
    have hss (hn : n < s) : insideAt (!a) ss n = !a :=
      insideAt_of_lt fun turn hturn => Nat.lt_trans hn (hlt turn hturn)
    rw [insideAt_turnIf (fun hn => by rw [ih hs ht, hss hn]; rfl), ih hs ht]
    by_cases hn : n < s <;> simp [insideAt, hn]
  | case3 a b t ts ih =>
    obtain ⟨hlt, ht⟩ := List.pairwise_cons.1 ht
    have hts (hn : n < t) : insideAt (!b) ts n = !b :=
      insideAt_of_lt fun turn hturn => Nat.lt_trans hn (hlt turn hturn)
    rw [insideAt_turnIf (fun hn => by rw [ih hs ht, hts hn]; rfl), ih hs ht]
    by_cases hn : n < t <;> simp [insideAt, hn]
  | case4 a b s ss t ts hst ih =>
    obtain ⟨hlt, hs⟩ := List.pairwise_cons.1 hs
    have hss (hn : n < s) : insideAt (!a) ss n = !a :=
      insideAt_of_lt fun turn hturn => Nat.lt_trans hn (hlt turn hturn)
    have hts (hn : n < s) : insideAt b (t :: ts) n = b := by
      simp [insideAt, Nat.lt_trans hn hst]
    rw [insideAt_turnIf (fun hn => by rw [ih hs ht, hss hn, hts hn]), ih hs ht]
    by_cases hn : n < s
    · rw [hts hn]
      simp [insideAt, hn]
    · simp [insideAt, hn]
  | case5 a b s ss t ts hst hts ih =>
    obtain ⟨hlt, ht⟩ := List.pairwise_cons.1 ht
    have htt (hn : n < t) : insideAt (!b) ts n = !b :=
      insideAt_of_lt fun turn hturn => Nat.lt_trans hn (hlt turn hturn)
    have hss (hn : n < t) : insideAt a (s :: ss) n = a := by
      simp [insideAt, Nat.lt_trans hn hts]
    rw [insideAt_turnIf (fun hn => by rw [ih hs ht, hss hn, htt hn]), ih hs ht]
    by_cases hn : n < t
    · rw [hss hn]
      simp [insideAt, hn]
    · simp [insideAt, hn]
  | case6 a b s ss t ts hst hts ih =>
    have heq : s = t := by omega
    subst heq
    obtain ⟨hlts, hs⟩ := List.pairwise_cons.1 hs
    obtain ⟨hltt, ht⟩ := List.pairwise_cons.1 ht
    have hss (hn : n < s) : insideAt (!a) ss n = !a :=
      insideAt_of_lt fun turn hturn => Nat.lt_trans hn (hlts turn hturn)
    have htt (hn : n < s) : insideAt (!b) ts n = !b :=
      insideAt_of_lt fun turn hturn => Nat.lt_trans hn (hltt turn hturn)
    rw [insideAt_turnIf (fun hn => by rw [ih hs ht, hss hn, htt hn]), ih hs ht]
    by_cases hn : n < s <;> simp [insideAt, hn]

/-- Two sets combined: a character is a member as its memberships in both decide. -/
def combine (op : Bool → Bool → Bool) (s t : CharSet) : CharSet :=
  ⟨walk op false false s.turns t.turns⟩

/-- The characters of either set. -/
def union (s t : CharSet) : CharSet := combine (· || ·) s t

/-- The characters of both sets. -/
def intersection (s t : CharSet) : CharSet := combine (· && ·) s t

/-- The characters of `s` that are not in `t`. -/
def difference (s t : CharSet) : CharSet := combine (fun a b => a && !b) s t

/-- The characters of exactly one of the sets. -/
def symmetricDifference (s t : CharSet) : CharSet := combine xor s t

/-- The characters that are not in the set. -/
def complement (s : CharSet) : CharSet := difference all s

/-- The characters of any of the sets. -/
def unions (sets : List CharSet) : CharSet := sets.foldl union empty

/-- The characters from `first` to `last`. -/
def range (first last : Char) : CharSet := intersection ⟨[first.toNat, last.toNat + 1]⟩ all

/-- One character. -/
def single (c : Char) : CharSet := range c c

/-- The runs of the set, each with its first and its last code point. -/
def runs (s : CharSet) : List (Nat × Nat) := pairs s.turns
where
  /-- Turns taken two by two. -/
  pairs : List Nat → List (Nat × Nat)
    | first :: next :: rest => (first, next - 1) :: pairs rest
    | _ => []

/-- Whether the set has no character. -/
def isEmpty (s : CharSet) : Bool := s.turns.isEmpty

/-- Whether all characters of the set are ASCII. -/
def isAscii (s : CharSet) : Bool := s.turns.all (· ≤ 0x80)

/-- The only character of the set, if there is just one. -/
def only? (s : CharSet) : Option Char :=
  match s.turns with
  | [first, next] => if next = first + 1 then some (Char.ofNat first) else none
  | _ => none

/-- The number that hexadecimal digits in upper case write. -/
def codePoint (digits : Text) : Nat :=
  digits.foldl (fun n c => 16 * n + (c.toNat - if c.isDigit then 0x30 else 0x37)) 0

/-- The turns of one entry of a table. -/
def entryTurns (entry : Text) : List Nat :=
  let (first, last) := entry.spanWhile (· ≠ '-')
  let start := codePoint first
  match last with
  | [] => [start, start + 1]
  | _ :: last =>
    let (stop, step) := Text.spanWhile (· ≠ '/') last
    if step.isEmpty then [start, codePoint stop + 1]
    else
      (List.range ((codePoint stop - start) / 2 + 1)).flatMap fun i =>
        [start + 2 * i, start + 2 * i + 1]

/-- The set that a table writes as increasing entries with blanks between them: hexadecimal code
points, runs such as `41-5A`, and runs such as `100-12E/2` of every second code point. -/
def ofTable (table : String) : CharSet :=
  let lines := Text.splitOn '\n' table.toList
  let entries := (lines.flatMap (Text.splitOn ' ')).filter (!·.isEmpty)
  ⟨entries.flatMap entryTurns⟩

end CharSet

end SqlTemplate
