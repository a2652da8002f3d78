import SqlTemplate.Text

/-!
# Tokens between delimiters

A text is cut into literal runs, escaped opening delimiters and tokens. A backslash before an
opening delimiter makes it literal; before a closing one it keeps the token open. An opening
delimiter that is never closed is literal together with all that follows it.
-/

namespace SqlTemplate

/-- A pair of delimiters, not both empty. -/
structure Delimiters where
  opening : Text
  closing : Text
  nonempty : opening ≠ [] ∨ closing ≠ [] := by decide

/-- One piece of a text. -/
inductive Segment
  /-- Literal text. -/
  | literal (text : Text)
  /-- An opening delimiter after a backslash. -/
  | escapedOpening
  /-- The text between two delimiters, with its escapes. -/
  | token (body : Text)
  deriving DecidableEq, Repr

namespace Delimiters

/-- `#` and braces, around the parameters of a statement. -/
def parameter : Delimiters where
  opening := ['#', '{']
  closing := ['}']

/-- `$` and braces, around expressions whose text is spliced into a statement. -/
def substitution : Delimiters where
  opening := ['$', '{']
  closing := ['}']

/-- The delimiters with the given texts, unless both are empty. -/
def of? (opening closing : Text) : Option Delimiters :=
  if h : opening ≠ [] ∨ closing ≠ [] then some ⟨opening, closing, h⟩ else none

/-- The text that a segment is cut from. -/
def source (d : Delimiters) : Segment → Text
  | .literal text => text
  | .escapedOpening => '\\' :: d.opening
  | .token body => d.opening ++ body ++ d.closing

/-- Whether a text ends in a backslash. -/
def escapes (before : Text) : Bool := before.getLast? == some '\\'

/-- Only a text that is there can end in a backslash. -/
theorem ne_nil_of_escapes {before : Text} (h : escapes before = true) : before ≠ [] := by
  rintro rfl
  simp [escapes] at h

/-- What follows an escaped delimiter is shorter than the text. -/
theorem length_of_escaped {pattern text before after : Text}
    (h : Text.breakOn pattern text = some (before, after)) (hesc : escapes before = true) :
    after.length < text.length := by
  have hlen := congrArg List.length (Text.eq_of_breakOn h)
  have := List.length_pos_iff.2 (ne_nil_of_escapes hesc)
  simp at hlen
  omega

/-- The body before the first closing delimiter that is not escaped, and the text after it. -/
def body? (d : Delimiters) (text : Text) : Option (Text × Text) :=
  match h : Text.breakOn d.closing text with
  | none => none
  | some (before, after) =>
    if hesc : escapes before then
      have := length_of_escaped h hesc
      (body? d after).map fun (body, rest) => (before ++ d.closing ++ body, rest)
    else some (before, after)
  termination_by text.length

/-- A body and what follows it make up the text, with the closing delimiter between them. -/
theorem eq_of_body? {d : Delimiters} {text body rest : Text}
    (h : d.body? text = some (body, rest)) : text = body ++ d.closing ++ rest := by
  fun_induction body? d text generalizing body with
  | case1 => simp at h
  | case2 text before after hbreak hesc _ ih =>
    obtain ⟨⟨b, r⟩, hb, heq⟩ := Option.map_eq_some_iff.1 h
    simp only [Prod.mk.injEq] at heq
    obtain ⟨rfl, rfl⟩ := heq
    rw [Text.eq_of_breakOn hbreak, ih hb]
    simp
  | case3 text before after hbreak hesc =>
    simp only [Option.some.injEq, Prod.mk.injEq] at h
    rw [← h.1, ← h.2]
    exact Text.eq_of_breakOn hbreak

/-- What follows a token is shorter than the text. -/
theorem length_of_token {d : Delimiters} {text before after body rest : Text}
    (h : Text.breakOn d.opening text = some (before, after))
    (hbody : d.body? after = some (body, rest)) : rest.length < text.length := by
  have hlen := congrArg List.length (Text.eq_of_breakOn h)
  have hbodyLen := congrArg List.length (eq_of_body? hbody)
  have hpos : 0 < d.opening.length + d.closing.length := by
    rcases d.nonempty with hd | hd <;> have := List.length_pos_iff.2 hd <;> omega
  simp at hlen hbodyLen
  omega

/-- Literal text as segments: none if it is empty. -/
def literals (text : Text) : List Segment := if text.isEmpty then [] else [.literal text]

/-- The segments of a text, in order. -/
def segments (d : Delimiters) (text : Text) : List Segment :=
  if text.isEmpty then []
  else
    match h : Text.breakOn d.opening text with
    | none => [.literal text]
    | some (before, after) =>
      if hesc : escapes before then
        have := length_of_escaped h hesc
        literals before.dropLast ++ .escapedOpening :: segments d after
      else
        match hbody : d.body? after with
        | none => [.literal text]
        | some (body, rest) =>
          have := length_of_token h hbody
          literals before ++ .token body :: segments d rest
  termination_by text.length

/-- A body without the backslashes that escape closing delimiters. -/
def unescape (d : Delimiters) (body : Text) : Text :=
  Text.replaceAll '\\' d.closing d.closing body

/-- The text with every token replaced by what `handle` makes of its body, all escapes
resolved. -/
def scan {m : Type → Type} [Monad m] (d : Delimiters) (handle : Text → m Text) (text : Text) :
    m Text := do
  let pieces ← (d.segments text).mapM fun
    | .literal text => pure text
    | .escapedOpening => pure d.opening
    | .token body => handle (d.unescape body)
  return pieces.flatten

/-- The text with every body replaced and all else left as it is, escapes included. -/
def substitute (d : Delimiters) (replace : Text → Text) (text : Text) : Text :=
  (d.segments text).flatMap fun
    | .token body => d.source (.token (replace body))
    | segment => d.source segment

/-- Whether there is a token in the text. -/
def hasToken (d : Delimiters) (text : Text) : Bool :=
  (d.segments text).any fun
    | .token _ => true
    | _ => false

/-- The segments make up the text: nothing is lost and nothing added. -/
theorem source_segments (d : Delimiters) (text : Text) :
    (d.segments text).flatMap d.source = text := by
  have hlit : ∀ t, (literals t).flatMap d.source = t := by
    intro t
    cases t <;> simp [literals, source]
  fun_induction segments d text with
  | case1 text h => simp_all
  | case2 => simp [source]
  | case3 text _ before after hbreak hesc _ ih =>
    have hlast : before.getLast? = some '\\' := by simpa [escapes] using hesc
    obtain ⟨start, rfl⟩ := List.getLast?_eq_some_iff.1 hlast
    rw [Text.eq_of_breakOn hbreak]
    simp [hlit, source, ih]
  | case4 => simp [source]
  | case5 text _ before after hbreak hesc body rest hbody _ ih =>
    rw [Text.eq_of_breakOn hbreak, eq_of_body? hbody]
    simp [hlit, source, ih]

end Delimiters

end SqlTemplate
