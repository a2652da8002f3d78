import SqlTemplate.Accessor
import SqlTemplate.Proofs.Expr.Tokens

/-!
# Written paths

A path is a name and then names after dots, positions in brackets, and quoted keys in brackets. The
steps of such a path are read from it one by one.
-/

namespace SqlTemplate.Path

/-- What stands behind the first name of a path: a name after a dot, or the digits of a position or
a quoted key in brackets. -/
inductive Piece
  | name (word : Text)
  | position (digits : Text)
  | quoted (quote : Char) (key : Text)

namespace Piece

/-- How a piece is written. -/
def text : Piece → Text
  | name word => '.' :: word
  | position digits => '[' :: (digits ++ [']'])
  | quoted quote key => '[' :: quote :: (key ++ [quote, ']'])

/-- The step that a piece stands for. -/
def step : Piece → PathStep
  | name word => .key (String.ofList word)
  | position digits => .index (Text.digitsValue 0 digits)
  | quoted _ key => .key (String.ofList key)

/-- The pieces with identifiers for names but those of the size of a list, with positions that are
not too large, and with neither their quote nor a backslash in quoted keys. -/
inductive Plain : Piece → Prop
  | name {word : Text} (hword : Expr.isIdentifier word = true) (hlength : word ≠ "length".toList)
    (hsize : word ≠ "size".toList) : Plain (.name word)
  | position {digits : Text} (hne : digits ≠ []) (hdigits : ∀ c ∈ digits, c.isDigit = true)
    (hbound : Text.digitsValue 0 digits < 2 ^ 63) : Plain (.position digits)
  | quoted {quote : Char} {key : Text} (hquote : quote = '\'' ∨ quote = '"') (hkey : quote ∉ key)
    (hslash : '\\' ∉ key) : Plain (.quoted quote key)

end Piece

/-- The path with a name and the pieces behind it. -/
def written (root : Text) (pieces : List Piece) : Text := root ++ pieces.flatMap Piece.text

/-- The steps of that path. -/
def steps (root : Text) (pieces : List Piece) : List PathStep :=
  .key (String.ofList root) :: pieces.map Piece.step

/-- The characters of words are those of names, and the dollar sign. -/
theorem continuesWord_cases {c : Char} (h : Expr.continuesWord c = true) :
    c = '$' ∨ LoopScope.isNameChar c = true := by
  simp only [Expr.continuesWord, Expr.startsWord, Bool.or_eq_true, beq_iff_eq] at h
  rcases h with ((rfl | rfl) | hletter) | hnumeral
  · exact .inr (by decide)
  · exact .inl rfl
  · exact .inr (by simp [LoopScope.isNameChar, hletter])
  · exact .inr (by simp [LoopScope.isNameChar, hnumeral])

/-- No character of a word is a blank, or ends a name. -/
theorem plain_of_continuesWord {c : Char} (h : Expr.continuesWord c = true) :
    isBlank c = false ∧ endsName c = false := by
  rcases continuesWord_cases h with rfl | hname
  · decide
  · have hdot := LoopScope.ne_of_isNameChar hname (by decide : LoopScope.isNameChar '.' = false)
    have hopen := LoopScope.ne_of_isNameChar hname (by decide : LoopScope.isNameChar '[' = false)
    have hclose := LoopScope.ne_of_isNameChar hname (by decide : LoopScope.isNameChar ']' = false)
    exact ⟨LoopScope.isBlank_of_isNameChar hname, by simp [endsName, hdot, hopen, hclose]⟩

/-- An identifier is made of the characters of words, at least one. -/
theorem chars_of_isIdentifier {name : Text} (h : Expr.isIdentifier name = true) :
    name ≠ [] ∧ ∀ c ∈ name, Expr.continuesWord c = true := by
  cases name with
  | nil => cases h
  | cons c rest =>
    obtain ⟨hstart, hrest⟩ := Bool.and_eq_true_iff.mp h
    have hfirst : Expr.continuesWord c = true := by simp [Expr.continuesWord, hstart]
    exact ⟨List.cons_ne_nil _ _, List.forall_mem_cons.mpr ⟨hfirst, List.all_eq_true.mp hrest⟩⟩

/-- A piece starts with a dot or an opening bracket. -/
theorem Piece.exists_text (piece : Piece) :
    ∃ c rest, piece.text = c :: rest ∧ (c = '.' ∨ c = '[') := by
  cases piece with
  | name word => exact ⟨_, _, rfl, .inl rfl⟩
  | position digits => exact ⟨_, _, rfl, .inr rfl⟩
  | quoted quote key => exact ⟨_, _, rfl, .inr rfl⟩

/-- So do the pieces behind a name. -/
theorem head?_pieces {pieces : List Piece} {c : Char}
    (h : c ∈ (pieces.flatMap Piece.text).head?) : c = '.' ∨ c = '[' := by
  cases pieces with
  | nil => cases h
  | cons piece pieces =>
    obtain ⟨e, rest, htext, he⟩ := piece.exists_text
    rw [List.flatMap_cons, htext] at h
    obtain rfl := Option.mem_some.mp h
    exact he

/-- A name that may stand in a path without brackets. -/
structure Bare (name : Text) : Prop where
  ne_nil : name ≠ []
  /-- There are no blanks around it. -/
  trimmed : name.trim = name
  chars : ∀ c ∈ name, endsName c = false

/-- A bare name is not blank. -/
theorem Bare.blank {name : Text} (h : Bare name) : name.blank = false := by
  rw [← Bool.not_eq_true, ← Text.trim_eq_nil_iff, h.trimmed]
  exact h.ne_nil

/-- Nothing that starts with a bare name is blank. -/
theorem Bare.blank_append {name : Text} (h : Bare name) (rest : Text) :
    (name ++ rest).blank = false := by
  have hname := h.blank
  rw [Text.blank] at hname ⊢
  rw [List.all_append, hname, Bool.false_and]

/-- An identifier may stand without brackets. -/
theorem bare_of_isIdentifier {name : Text} (h : Expr.isIdentifier name = true) : Bare name := by
  obtain ⟨hne, hchars⟩ := chars_of_isIdentifier h
  have hsolid : ∀ c ∈ name, isBlank c = false :=
    fun c hc => (plain_of_continuesWord (hchars c hc)).1
  exact ⟨hne, Text.trim_of_solid hsolid, fun c hc => (plain_of_continuesWord (hchars c hc)).2⟩

section Steps

/-- A name that may stand here goes up to the next character that ends it. -/
theorem stepsFrom_cons {c : Char} {rest others after : Text} (hdot : c ≠ '.') (hopen : c ≠ '[')
    (hspan : Text.spanWhile (!endsName ·) rest = (others, after)) (offset : ℕ) :
    stepsFrom true offset (c :: rest) =
      if c = ']' || after.head? = some ']' then .error (offset, .strayBracket)
      else if Text.blank (c :: others) then .error (offset, .emptySegment)
      else
        (stepsFrom false (offset + Text.byteSize (c :: others)) after).map
          (.key (String.ofList (Text.trim (c :: others))) :: ·) := by
  rw [stepsFrom, if_neg (by decide)]
  · split
    next hother =>
      obtain ⟨rfl, rfl⟩ := Prod.mk.inj (hspan.symm.trans hother)
      rfl
  · exact hdot
  · exact hopen

/-- What stands at the start, or behind a dot, is a step without the blanks around it. -/
theorem stepsFrom_spaced {name rest : Text} (hname : name.blank = false)
    (hchars : ∀ c ∈ name, endsName c = false) (hrest : ∀ c ∈ rest.head?, c = '.' ∨ c = '[')
    (offset : ℕ) : ∃ next, stepsFrom true offset (name ++ rest) =
      (stepsFrom false next rest).map (.key (String.ofList name.trim) :: ·) := by
  have hend : ∀ c ∈ rest.head?, (!endsName c) = false := by
    intro c hc
    rcases hrest c hc with rfl | rfl
    · decide
    · decide
  cases name with
  | nil => cases hname
  | cons c others =>
    obtain ⟨hfirst, hothers⟩ := List.forall_mem_cons.mp hchars
    have hne (e : Char) (he : endsName e = true) : c ≠ e := by
      rintro rfl
      rw [hfirst] at he
      cases he
    have hafter : rest.head? ≠ some ']' := by
      intro hhead
      exact absurd (hrest _ hhead) (by decide)
    have hspan : Text.spanWhile (!endsName ·) (others ++ rest) = (others, rest) :=
      Text.spanWhile_append (fun c hc => by simp [hothers c hc]) hend
    refine ⟨offset + Text.byteSize (c :: others), ?_⟩
    rw [List.cons_append, stepsFrom_cons (hne '.' (by decide)) (hne '[' (by decide)) hspan,
      if_neg (by simp [hne ']' (by decide), hafter]), if_neg (by simp [hname])]

/-- A bare name is the step at the start, or behind a dot. -/
theorem stepsFrom_bare {name rest : Text} (h : Bare name)
    (hrest : ∀ c ∈ rest.head?, c = '.' ∨ c = '[') (offset : ℕ) :
    ∃ next, stepsFrom true offset (name ++ rest) =
      (stepsFrom false next rest).map (.key (String.ofList name) :: ·) := by
  have hspaced := stepsFrom_spaced h.blank h.chars hrest offset
  rwa [h.trimmed] at hspaced

/-- An identifier is the step at the start, or behind a dot. -/
theorem stepsFrom_name {name rest : Text} (h : Expr.isIdentifier name = true)
    (hrest : ∀ c ∈ rest.head?, c = '.' ∨ c = '[') (offset : ℕ) :
    ∃ next, stepsFrom true offset (name ++ rest) =
      (stepsFrom false next rest).map (.key (String.ofList name) :: ·) :=
  stepsFrom_bare (bare_of_isIdentifier h) hrest offset

/-- A dot is followed by a name. -/
theorem stepsFrom_dot {rest : Text} (h : rest ≠ []) (offset : ℕ) :
    stepsFrom false offset ('.' :: rest) = stepsFrom true (offset + 1) rest := by
  rw [stepsFrom, if_neg (by decide), if_neg (by simpa using h)]

/-- A step in brackets may stand anywhere. -/
theorem stepsFrom_bracket {rest after : Text} {step : PathStep}
    (h : bracket rest = .ok (step, after)) (nameExpected : Bool) (offset : ℕ) :
    ∃ next, stepsFrom nameExpected offset ('[' :: rest) =
      (stepsFrom false next after).map (step :: ·) := by
  refine ⟨offset + 1 + (Text.byteSize rest - Text.byteSize after), ?_⟩
  rw [stepsFrom]
  split
  · next fault hfault =>
    rw [h] at hfault
    cases hfault
  · next other later hother =>
    rw [h] at hother
    obtain ⟨rfl, rfl⟩ := Prod.mk.inj (Except.ok.inj hother)
    rfl

/-- Digits denote a number, which is found if it is below the bound. -/
theorem toNatBelow?_of_digits {digits : Text} (hne : digits ≠ [])
    (hdigits : ∀ c ∈ digits, c.isDigit = true) {bound : ℕ}
    (hbound : Text.digitsValue 0 digits < bound) :
    Text.toNatBelow? bound digits = some (Text.digitsValue 0 digits) := by
  have hall : (!digits.isEmpty && digits.all Char.isDigit) = true := by
    simpa [hne] using hdigits
  have hvalue : Text.toNat? digits = some (Text.digitsValue 0 digits) := by
    unfold Text.toNat?
    split
    · exact absurd (hdigits '+' List.mem_cons_self) (by decide)
    · exact if_pos hall
  simp [Text.toNatBelow?, hvalue, hbound]

/-- Digits in brackets are a position. -/
theorem bracket_position {digits : Text} (hne : digits ≠ [])
    (hdigits : ∀ c ∈ digits, c.isDigit = true)
    (hbound : Text.digitsValue 0 digits < UInt64.size) (rest : Text) :
    bracket (digits ++ ']' :: rest) = .ok (.index (Text.digitsValue 0 digits), rest) := by
  have hsolid : ∀ c ∈ digits, isBlank c = false := fun c hc =>
    LoopScope.isBlank_of_isNameChar (LoopScope.isNameChar_of_isDigit (hdigits c hc))
  have hinside : ∀ c ∈ digits, decide (c ≠ ']') = true := by
    rintro c hc
    rw [decide_eq_true_iff]
    rintro rfl
    exact absurd (hdigits _ hc) (by decide)
  have hspan : Text.spanWhile (· ≠ ']') (digits ++ ']' :: rest) = (digits, ']' :: rest) :=
    Text.spanWhile_append hinside fun c hc => by simp [(Option.mem_some.mp hc).symm]
  have hstep : bracketStep digits = .index (Text.digitsValue 0 digits) := by
    rw [bracketStep, toNatBelow?_of_digits hne hdigits hbound]
  cases digits with
  | nil => exact absurd rfl hne
  | cons c others =>
    have hblank : Text.blank (c :: others) = false := by
      simp [Text.blank, hsolid c List.mem_cons_self]
    have hdigit := hdigits c List.mem_cons_self
    rw [bracket.eq_def]
    split
    · next heq =>
      obtain rfl := (List.cons.inj heq).1
      cases hdigit
    · next heq =>
      obtain rfl := (List.cons.inj heq).1
      cases hdigit
    · rw [hspan]
      simp only [hblank, Text.trim_of_solid hsolid, hstep]
      rfl

/-- What is quoted in brackets is a key. -/
theorem bracket_quoted {quote : Char} {key : Text} (hquote : quote = '\'' ∨ quote = '"')
    (hkey : quote ∉ key) (rest : Text) : bracket (quote :: (key ++ quote :: ']' :: rest)) =
      .ok (.key (String.ofList key), rest) := by
  have hinside : ∀ c ∈ key, decide (c ≠ quote) = true := by
    intro c hc
    rw [decide_eq_true_iff]
    rintro rfl
    exact hkey hc
  have hspan : Text.spanWhile (· ≠ quote) (key ++ quote :: ']' :: rest) =
      (key, quote :: ']' :: rest) :=
    Text.spanWhile_append hinside fun c hc => by simp [(Option.mem_some.mp hc).symm]
  have hquoted : bracket.quoted quote (key ++ quote :: ']' :: rest) =
      .ok (.key (String.ofList key), rest) := by
    rw [bracket.quoted, hspan]
    rfl
  rcases hquote with rfl | rfl
  · exact hquoted
  · exact hquoted

/-- The steps of the pieces are read one after the other. -/
theorem stepsFrom_pieces {pieces : List Piece} (h : ∀ piece ∈ pieces, piece.Plain) (offset : ℕ) :
    stepsFrom false offset (pieces.flatMap Piece.text) = .ok (pieces.map Piece.step) := by
  induction pieces generalizing offset with
  | nil => rw [List.flatMap_nil, stepsFrom.eq_def, List.map_nil]
  | cons piece pieces ih =>
    obtain ⟨hpiece, hpieces⟩ := List.forall_mem_cons.mp h
    rw [List.flatMap_cons]
    cases hpiece with
    | @name word hword hlength hsize =>
      have hne : word ++ pieces.flatMap Piece.text ≠ [] :=
        List.append_ne_nil_of_left_ne_nil (chars_of_isIdentifier hword).1 _
      obtain ⟨next, hsteps⟩ := stepsFrom_name hword (fun _ => head?_pieces) (offset + 1)
      rw [Piece.text, List.cons_append, stepsFrom_dot hne, hsteps, ih hpieces]
      rfl
    | @position digits hne hdigits hbound =>
      obtain ⟨next, hsteps⟩ := stepsFrom_bracket
        (bracket_position hne hdigits (lt_trans hbound (by decide)) (pieces.flatMap Piece.text))
        false offset
      rw [Piece.text, List.cons_append, List.append_assoc, List.singleton_append, hsteps,
        ih hpieces]
      rfl
    | @quoted quote key hquote hkey hslash =>
      obtain ⟨next, hsteps⟩ := stepsFrom_bracket
        (bracket_quoted hquote hkey (pieces.flatMap Piece.text)) false offset
      rw [Piece.text, List.cons_append, List.cons_append, List.append_assoc]
      simp only [List.cons_append, List.nil_append]
      rw [hsteps, ih hpieces]
      rfl

end Steps

/-- The steps of a path are those of its name and its pieces. -/
theorem parse_written {root : Text} {pieces : List Piece} (hroot : Expr.isIdentifier root = true)
    (h : ∀ piece ∈ pieces, piece.Plain) :
    parse (written root pieces) = .ok (steps root pieces) := by
  have hblank : (written root pieces).blank = false :=
    (bare_of_isIdentifier hroot).blank_append _
  obtain ⟨next, hsteps⟩ := stepsFrom_name hroot (fun _ => head?_pieces) 0
  rw [parse, hblank, if_neg (by decide), written, hsteps, stepsFrom_pieces h]
  rfl

/-- The first step finds where the others start. -/
theorem walk?_cons (step : PathStep) (steps : List PathStep) (value : Value) :
    value.walk? (step :: steps) = (value.step? step).bind (·.walk? steps) := rfl

end SqlTemplate.Path
