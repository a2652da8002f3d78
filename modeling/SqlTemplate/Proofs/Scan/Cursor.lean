import SqlTemplate.Proofs.Scan.Braces
import SqlTemplate.Proofs.Scan.Offsets

/-!
# Cutting by places

A cursor cuts a text slice by slice, at places that it finds by adding up bytes. Each request hands
out one slice: literal text before a delimiter goes out first, and what the delimiter belongs to is
held back for the next request. At a place between characters every request succeeds, and it depends
on the rest of the text only.
-/

namespace SqlTemplate

/-- A piece of a text as it is cut from it. -/
inductive Slice
  /-- Literal text. -/
  | literal (text : Text)
  /-- A backslash and the opening delimiter behind it. -/
  | escapedOpening (text : Text)
  /-- What stands between two delimiters, with its escapes. -/
  | token (body : Text)
  deriving DecidableEq, Repr

/-- The place up to which a text is cut, and the slice that is held back. -/
structure Cursor where
  place : Nat := 0
  held : Option Slice := none
  deriving DecidableEq, Repr

/-- A slice and the cursor behind it, unless there is literal text before the slice: then this goes
out first. -/
def Cursor.handOut (before : Text) (slice : Slice) (place : Nat) : Slice × Cursor :=
  if before.isEmpty then (slice, { place }) else (.literal before, { place, held := some slice })

namespace Delimiters

section Definitions

variable (d : Delimiters) (text : Text)

/-- The place of the first closing delimiter from a place on that is not escaped. -/
def bodyEnd? (start : Nat) : Except Misplaced (Option Nat) :=
  match hfound : text.findFrom? d.closing start with
  | none => .ok none
  | some place =>
    match hslash : text.slashBefore start place with
    | .error fault => .error fault
    | .ok false => .ok (some place)
    | .ok true =>
      -- What is escaped does not stand at `start`, so the search goes on behind it even if the
      -- delimiter is empty.
      have := Text.lt_of_slashBefore hslash
      have := Text.bounds_of_findFrom? hfound
      bodyEnd? (place + d.closing.byteSize)
  termination_by text.byteSize - start

/-- The rest of a text as literal text. -/
def cutRest (start : Nat) : Except Misplaced (Option (Slice × Cursor)) := do
  let rest ← text.slice start text.byteSize
  return some (.literal rest, { place := text.byteSize })

/-- From `start` on, what is cut at an opening delimiter that has a backslash before its place. -/
def cutEscaped (start place : Nat) : Except Misplaced (Option (Slice × Cursor)) := do
  let behind := place + d.opening.byteSize
  let before ← text.slice start (place - 1)
  let escaped ← text.slice (place - 1) behind
  return some (Cursor.handOut before (.escapedOpening escaped) behind)

/-- From `start` on, what is cut at an opening delimiter that has no backslash before its place. -/
def cutToken (start place : Nat) : Except Misplaced (Option (Slice × Cursor)) := do
  let behind := place + d.opening.byteSize
  match ← d.bodyEnd? text behind with
  | none => cutRest text start
  | some stop =>
    let before ← text.slice start place
    let body ← text.slice behind stop
    return some (Cursor.handOut before (.token body) (stop + d.closing.byteSize))

/-- The next slice of a text and the cursor behind it; at the end of the text there is none. -/
def next (cursor : Cursor) : Except Misplaced (Option (Slice × Cursor)) := do
  match cursor.held with
  | some slice => return some (slice, { cursor with held := none })
  | none =>
    if text.byteSize ≤ cursor.place then return none
    else
      match text.findFrom? d.opening cursor.place with
      | none => cutRest text cursor.place
      | some place =>
        if ← text.slashBefore cursor.place place then d.cutEscaped text cursor.place place
        else d.cutToken text cursor.place place

end Definitions

variable {d : Delimiters} {text before rest skipped after body later : Text}

/-- A body is sought from one closing delimiter to the next. -/
theorem bodyEnd?_eq (start : Nat) :
    d.bodyEnd? text start =
      match text.findFrom? d.closing start with
      | none => .ok none
      | some place =>
        match text.slashBefore start place with
        | .error fault => .error fault
        | .ok false => .ok (some place)
        | .ok true => d.bodyEnd? text (place + d.closing.byteSize) := by
  rw [bodyEnd?]
  split
  · simp only [*]
  · split <;> simp only [*]

/-- From a place between characters on, the body ends where that of the rest does. -/
theorem bodyEnd?_append (d : Delimiters) (before rest : Text) :
    d.bodyEnd? (before ++ rest) before.byteSize =
      .ok ((d.body? rest).map fun (body, _) => (before ++ body).byteSize) := by
  fun_induction body? d rest generalizing before with
  | case1 rest hbreak =>
    rw [bodyEnd?_eq, Text.findFrom?_append, hbreak]
    rfl
  | case2 rest skipped after hbreak hesc _ ih =>
    rw [bodyEnd?_eq, Text.findFrom?_append, hbreak, Option.map_some]
    dsimp only
    rw [Text.slashBefore_of_breakOn before hbreak, hesc]
    dsimp only
    rw [← Text.byteSize_append, Text.append_of_breakOn before hbreak, ih, Option.map_map]
    simp only [Function.comp_def, List.append_assoc]
  | case3 rest skipped after hbreak hesc =>
    rw [bodyEnd?_eq, Text.findFrom?_append, hbreak, Option.map_some]
    dsimp only
    rw [Text.slashBefore_of_breakOn before hbreak, Bool.eq_false_iff.mpr hesc]

/-- What is left of a text can be cut as one literal. -/
theorem cutRest_append (before rest : Text) :
    cutRest (before ++ rest) before.byteSize =
      .ok (some (.literal rest, { place := (before ++ rest).byteSize })) := by
  have hslice : Text.slice (before ++ rest) before.byteSize (before ++ rest).byteSize = .ok rest :=
    Text.slice_eq_ok_iff.mpr ⟨before, [], (List.append_nil _).symm, rfl, rfl⟩
  rw [cutRest, hslice]
  rfl

/-- Behind the last character there is nothing to cut. -/
theorem next_of_end : d.next text { place := text.byteSize } = .ok none := if_pos (Nat.le_refl _)

/-- Before the end of the text an opening delimiter is sought. -/
theorem next_append (hrest : rest ≠ []) :
    d.next (before ++ rest) { place := before.byteSize } =
      match Text.breakOn d.opening rest with
      | none => cutRest (before ++ rest) before.byteSize
      | some (skipped, _) =>
        if escapes skipped then
          d.cutEscaped (before ++ rest) before.byteSize (before ++ skipped).byteSize
        else d.cutToken (before ++ rest) before.byteSize (before ++ skipped).byteSize := by
  have hend : ¬ (before ++ rest).byteSize ≤ before.byteSize := by
    have := Text.byteSize_pos hrest
    rw [Text.byteSize_append]
    omega
  rw [next]
  dsimp only
  rw [if_neg hend, Text.findFrom?_append]
  cases hbreak : Text.breakOn d.opening rest with
  | none => rfl
  | some found =>
    rw [Option.map_some]
    dsimp only [bind, Except.bind]
    rw [Text.slashBefore_of_breakOn before hbreak]

/-- Without an opening delimiter the rest is a literal. -/
theorem next_of_none (hrest : rest ≠ []) (hbreak : Text.breakOn d.opening rest = none) :
    d.next (before ++ rest) { place := before.byteSize } =
      .ok (some (.literal rest, { place := (before ++ rest).byteSize })) := by
  rw [next_append hrest, hbreak, ← cutRest_append]

/-- Behind an opening delimiter that is never closed the rest is a literal, too. -/
theorem next_of_open (hrest : rest ≠ [])
    (hbreak : Text.breakOn d.opening rest = some (skipped, after))
    (hesc : escapes skipped = false) (hbody : d.body? after = none) :
    d.next (before ++ rest) { place := before.byteSize } =
      .ok (some (.literal rest, { place := (before ++ rest).byteSize })) := by
  have hend : d.bodyEnd? (before ++ rest) ((before ++ skipped).byteSize + d.opening.byteSize) =
      .ok none := by
    rw [Text.append_of_breakOn before hbreak, ← Text.byteSize_append, bodyEnd?_append, hbody]
    rfl
  rw [next_append hrest, hbreak]
  dsimp only
  rw [hesc, if_neg Bool.false_ne_true, cutToken, hend, ← cutRest_append]
  rfl

/-- An escaped opening delimiter is cut together with its backslash. -/
theorem next_of_escaped (hbreak : Text.breakOn d.opening rest = some (skipped, after))
    (hesc : escapes skipped = true) :
    d.next (before ++ rest) { place := before.byteSize } =
      .ok (some (Cursor.handOut skipped.dropLast (.escapedOpening ('\\' :: d.opening))
        (before ++ skipped ++ d.opening).byteSize)) := by
  obtain ⟨start, rfl⟩ : ∃ start, skipped = start ++ ['\\'] :=
    List.getLast?_eq_some_iff.mp (by simpa [escapes] using hesc)
  have hrest := Text.eq_of_breakOn hbreak
  -- The backslash takes one byte, so the place before it lies between characters, too.
  have hplace : (before ++ (start ++ ['\\'])).byteSize - 1 = (before ++ start).byteSize := by
    simp only [Text.byteSize_append]
    rfl
  have hbefore : Text.slice (before ++ rest) before.byteSize (before ++ start).byteSize =
      .ok start :=
    Text.slice_eq_ok_iff.mpr ⟨before, '\\' :: d.opening ++ after, by simp [hrest], rfl, rfl⟩
  have hescaped : Text.slice (before ++ rest) (before ++ start).byteSize
      (before ++ (start ++ ['\\']) ++ d.opening).byteSize = .ok ('\\' :: d.opening) :=
    Text.slice_eq_ok_iff.mpr ⟨before ++ start, after, by simp [hrest], rfl, by simp⟩
  rw [next_append (by rw [hrest]; simp), hbreak]
  dsimp only
  rw [hesc, if_pos rfl, cutEscaped, hplace, hbefore, ← Text.byteSize_append, hescaped,
    List.dropLast_concat]
  rfl

/-- An escaped guillemet is held back behind the letter before it, and places count bytes. -/
example : (⟨['«'], [], .inl (by decide)⟩ : Delimiters).next "é\\«x".toList {} =
    .ok (some (.literal ['é'], { place := 5, held := some (.escapedOpening ['\\', '«']) })) := by
  rfl

/-- A token is cut between its two delimiters. -/
theorem next_of_token (hbreak : Text.breakOn d.opening rest = some (skipped, after))
    (hesc : escapes skipped = false) (hbody : d.body? after = some (body, later)) :
    d.next (before ++ rest) { place := before.byteSize } =
      .ok (some (Cursor.handOut skipped (.token body)
        (before ++ skipped ++ d.opening ++ body ++ d.closing).byteSize)) := by
  have hrest : rest ≠ [] := by
    rintro rfl
    have := length_of_token hbreak hbody
    simp at this
  have htext := Text.append_of_breakOn before hbreak
  have hend : d.bodyEnd? (before ++ rest) (before ++ skipped ++ d.opening).byteSize =
      .ok (some (before ++ skipped ++ d.opening ++ body).byteSize) := by
    rw [htext, bodyEnd?_append, hbody]
    rfl
  have hbefore : Text.slice (before ++ rest) before.byteSize (before ++ skipped).byteSize =
      .ok skipped :=
    Text.slice_eq_ok_iff.mpr ⟨before, d.opening ++ after, by simp [htext], rfl, rfl⟩
  have hslice : Text.slice (before ++ rest) (before ++ skipped ++ d.opening).byteSize
      (before ++ skipped ++ d.opening ++ body).byteSize = .ok body :=
    Text.slice_eq_ok_iff.mpr ⟨before ++ skipped ++ d.opening, d.closing ++ later,
      by simp [htext, eq_of_body? hbody], rfl, rfl⟩
  rw [next_append hrest, hbreak]
  dsimp only
  rw [hesc, if_neg Bool.false_ne_true, cutToken, ← Text.byteSize_append, hend]
  dsimp only [bind, Except.bind]
  rw [hbefore]
  dsimp only
  rw [hslice, ← Text.byteSize_append]
  rfl

end Delimiters

end SqlTemplate
