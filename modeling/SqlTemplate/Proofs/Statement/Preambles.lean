import SqlTemplate.Proofs.Scan.Braces
import SqlTemplate.Proofs.Trimming
import SqlTemplate.StatementKind

/-!
# Preambles

Blanks, comments and opening parentheses may stand before a statement, in any order. Each of them
is skipped on its own, whatever follows it, so none of them counts for the kind of the statement.
What follows may itself start with more of them, with a comment that does not end, or with
definitions.
-/

namespace SqlTemplate

/-- The end of a comment is found behind a text in which it does not stand. -/
theorem Text.breakOn_commentEnd {body : Text} (h : ¬ ['*', '/'] <:+: body) (after : Text) :
    breakOn ['*', '/'] (body ++ '*' :: '/' :: after) = some (body, after) := by
  induction body with
  | nil => exact breakOn_of_dropLead? (List.cons_ne_nil _ _) (dropLead?_eq_some.mpr rfl)
  | cons c body ih =>
    have hrest : ¬ ['*', '/'] <:+: body := fun hin => h (hin.trans (List.suffix_cons c body).isInfix)
    have hlead : dropLead? ['*', '/'] (c :: (body ++ '*' :: '/' :: after)) = none := by
      rw [Option.eq_none_iff_forall_ne_some]
      intro rest hsome
      obtain ⟨rfl, hnext⟩ := List.cons.inj (dropLead?_eq_some.mp hsome)
      -- the slash behind this star is in the body, as the end itself starts with a star
      cases body with
      | nil => exact absurd (List.cons.inj hnext).1 (by decide)
      | cons d body =>
        obtain ⟨rfl, -⟩ := List.cons.inj hnext
        exact h (List.prefix_append ['*', '/'] body).isInfix
    rw [List.cons_append, breakOn_cons hlead, ih hrest]
    rfl

namespace StatementKind

/-- What may stand before a statement: a blank, an opening parenthesis, a comment up to the end of
its line, or one between its marks. -/
inductive Skippable : Text → Prop
  | blank {c : Char} (h : isBlank c = true) : Skippable [c]
  | opening : Skippable ['(']
  | line {body : Text} (h : '\n' ∉ body) : Skippable ('-' :: '-' :: (body ++ ['\n']))
  | block {body : Text} (h : ¬ ['*', '/'] <:+: body) :
    Skippable ('/' :: '*' :: (body ++ ['*', '/']))

/-- What follows blanks decides how the skipping goes on. -/
theorem skipPreamble_eq (sql : Text) :
    skipPreamble sql =
      match Text.trimStart sql with
      | '-' :: '-' :: rest =>
        match Text.breakOn ['\n'] rest with
        | some (_, after) => skipPreamble after
        | none => []
      | '/' :: '*' :: rest =>
        match Text.breakOn ['*', '/'] rest with
        | some (_, after) => skipPreamble after
        | none => []
      | '(' :: rest => skipPreamble rest
      | rest => rest := by
  rw [skipPreamble]
  split
  case h_1 rest h | h_2 rest h =>
    simp only [h]
    split
    case h_1 hend => rw [hend]
    case h_2 hend => rw [hend]
  case h_3 rest h => simp only [h]
  case h_4 hline hblock hopening =>
    split
    case h_1 rest h => exact absurd h (hline rest)
    case h_2 rest h => exact absurd h (hblock rest)
    case h_3 rest h => exact absurd h (hopening rest)
    case h_4 => rfl

section Skip

variable {c : Char} {body rest : Text}

/-- A text that starts with no blank is looked at from its first character. -/
theorem trimStart_cons (h : isBlank c = false) (rest : Text) :
    Text.trimStart (c :: rest) = c :: rest :=
  Text.trimStart_eq_self fun _ he => Option.mem_some.mp he ▸ h

/-- A blank is skipped. -/
theorem skipPreamble_blank (h : isBlank c = true) : skipPreamble (c :: rest) = skipPreamble rest := by
  have htrim : Text.trimStart (c :: rest) = Text.trimStart rest :=
    Text.trimStart_append (List.forall_mem_singleton.mpr h) rest
  rw [skipPreamble_eq, htrim, ← skipPreamble_eq]

/-- An opening parenthesis is skipped. -/
theorem skipPreamble_opening : skipPreamble ('(' :: rest) = skipPreamble rest := by
  rw [skipPreamble_eq, trimStart_cons (by decide)]
  rfl

/-- A comment is skipped up to the end of its line. -/
theorem skipPreamble_line (h : '\n' ∉ body) :
    skipPreamble ('-' :: '-' :: (body ++ '\n' :: rest)) = skipPreamble rest := by
  rw [skipPreamble_eq, trimStart_cons (by decide)]
  simp only [Text.breakOn_char h]

/-- A comment is skipped up to its end mark. -/
theorem skipPreamble_block (h : ¬ ['*', '/'] <:+: body) :
    skipPreamble ('/' :: '*' :: (body ++ '*' :: '/' :: rest)) = skipPreamble rest := by
  rw [skipPreamble_eq, trimStart_cons (by decide)]
  simp only [Text.breakOn_commentEnd h]

/-- Whatever may stand before a statement is skipped. -/
theorem Skippable.skipPreamble_append {piece : Text} (h : Skippable piece) (sql : Text) :
    skipPreamble (piece ++ sql) = skipPreamble sql := by
  cases h with
  | blank hblank => exact skipPreamble_blank hblank
  | opening => exact skipPreamble_opening
  | line hbody =>
    rw [List.cons_append, List.cons_append, List.append_assoc]
    exact skipPreamble_line hbody
  | block hbody =>
    rw [List.cons_append, List.cons_append, List.append_assoc]
    exact skipPreamble_block hbody

/-- So is any number of such pieces. -/
theorem skipPreamble_flatten_append {pieces : List Text} (h : ∀ piece ∈ pieces, Skippable piece)
    (sql : Text) : skipPreamble (pieces.flatten ++ sql) = skipPreamble sql := by
  induction pieces with
  | nil => rfl
  | cons piece pieces ih =>
    obtain ⟨hpiece, hpieces⟩ := List.forall_mem_cons.mp h
    rw [List.flatten_cons, List.append_assoc, hpiece.skipPreamble_append, ih hpieces]

end Skip

/-- What stands before a statement does not count for its kind, whatever the statement is. -/
theorem kind_behind_preamble {pieces : List Text} (h : ∀ piece ∈ pieces, Skippable piece)
    (sql : Text) : ofSql (pieces.flatten ++ sql) = ofSql sql := by
  rw [ofSql, ofSql, skipPreamble_flatten_append h]

/-- Comments that hold the marks of other comments, a wide blank, and a statement that goes on with
a parenthesis and definitions of its own. -/
theorem kind_behind_comments :
    let block : Text := '/' :: '*' :: ("* -- ( /* *".toList ++ ['*', '/'])
    let line : Text := '-' :: '-' :: (" */ (".toList ++ ['\n'])
    let pieces : List Text := [block, ['\u3000'], ['('], line]
    let sql : Text := "( WITH a AS (SELECT 1) DELETE FROM a".toList
    (∀ piece ∈ pieces, Skippable piece) ∧ ofSql (pieces.flatten ++ sql) = ofSql sql ∧
      ofSql sql = delete := by
  intro block line pieces sql
  have hpieces : ∀ piece ∈ pieces, Skippable piece := by
    simp only [pieces, List.forall_mem_cons]
    exact ⟨.block (by simp [List.infix_cons_iff]), .blank (by decide), .opening, .line (by decide),
      List.forall_mem_nil _⟩
  exact ⟨hpieces, kind_behind_preamble hpieces sql, by decide +kernel⟩

end StatementKind

end SqlTemplate
