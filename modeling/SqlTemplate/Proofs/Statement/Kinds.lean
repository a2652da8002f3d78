import SqlTemplate.Proofs.Matching
import SqlTemplate.Proofs.Trimming
import SqlTemplate.StatementKind

/-!
# Kinds of statements behind definitions

Definitions before a statement hold texts in parentheses. The kind of the statement is looked for
behind the last parenthesis that closes the outermost level, wherever that is. So it is the kind of
the statement behind the definitions if there are no parentheses in that statement. If there are,
what stands behind them decides.
-/

namespace SqlTemplate.StatementKind

/-- A text without parentheses outside its literals, which stand between single quotes. -/
inductive Flat : Text → Prop
  | nil : Flat []
  | char {c : Char} {rest : Text} (hquote : c ≠ '\'') (hopen : c ≠ '(') (hclose : c ≠ ')')
    (h : Flat rest) : Flat (c :: rest)
  | literal {body rest : Text} (hbody : '\'' ∉ body) (h : Flat rest) :
    Flat ('\'' :: (body ++ '\'' :: rest))

/-- A text whose parentheses are balanced outside its literals. -/
inductive Balanced : Text → Prop
  | flat {text : Text} (h : Flat text) : Balanced text
  | group {before body rest : Text} (hbefore : Flat before) (hbody : Balanced body)
    (hrest : Balanced rest) : Balanced (before ++ '(' :: (body ++ ')' :: rest))

/-- What stands behind the last parentheses of a balanced text. -/
def Behind (text rest : Text) : Prop :=
  ∃ before body, Balanced before ∧ Balanced body ∧ Flat rest ∧
    text = before ++ '(' :: (body ++ ')' :: rest)

/-- A definition before a statement: a name, perhaps with columns, and the text in parentheses that
it stands for. -/
structure Definition where
  name : Text
  body : Text

/-- How a definition is written. -/
def Definition.text (definition : Definition) : Text :=
  definition.name ++ [' ', 'A', 'S', ' '] ++ '(' :: (definition.body ++ [')'])

/-- The parentheses in a definition are balanced. -/
structure Definition.Sound (definition : Definition) : Prop where
  name : Balanced definition.name
  body : Balanced definition.body

/-- A statement behind definitions, with commas between these. -/
def withDefinitions (definitions : List Definition) (main : Text) : Text :=
  ['W', 'I', 'T', 'H', ' '] ++ [','].intercalate (definitions.map Definition.text) ++ ' ' :: main

/-- A statement that starts with one of the keywords, in any case, and a space. -/
def Keyed (main : Text) : Prop :=
  ∃ entry ∈ keywords, ∃ word rest, Text.sameLetters word entry.1 = true ∧ main = word ++ ' ' :: rest

/-- Whether a character is neither a quote nor a parenthesis. -/
def isPlain (c : Char) : Bool := c ≠ '\'' && c ≠ '(' && c ≠ ')'

/-- There are no parentheses in a text of plain characters. -/
theorem Flat.of_plain {text : Text} (h : text.all isPlain = true) : Flat text := by
  induction text with
  | nil => exact .nil
  | cons c text ih =>
    obtain ⟨hplain, htext⟩ := Bool.and_eq_true_iff.mp h
    simp only [isPlain, Bool.and_eq_true, decide_eq_true_eq] at hplain
    exact .char hplain.1.1 hplain.1.2 hplain.2 (ih htext)

/-- Texts without parentheses may be put together. -/
theorem Flat.append {first second : Text} (h : Flat first) (hsecond : Flat second) :
    Flat (first ++ second) := by
  induction h with
  | nil => exact hsecond
  | char hquote hopen hclose _ ih => exact .char hquote hopen hclose ih
  | literal hbody _ ih =>
    rw [List.cons_append, List.append_assoc, List.cons_append]
    exact .literal hbody ih

/-- A text of plain characters is balanced. -/
theorem Balanced.of_plain {text : Text} (h : text.all isPlain = true) : Balanced text :=
  .flat (.of_plain h)

/-- A text without parentheses may stand before a balanced one. -/
theorem Balanced.of_flat_append {first second : Text} (h : Flat first)
    (hsecond : Balanced second) : Balanced (first ++ second) := by
  cases hsecond with
  | flat hflat => exact .flat (h.append hflat)
  | group hbefore hbody hrest =>
    rw [← List.append_assoc]
    exact .group (h.append hbefore) hbody hrest

/-- Balanced texts may be put together. -/
theorem Balanced.append {first second : Text} (h : Balanced first) (hsecond : Balanced second) :
    Balanced (first ++ second) := by
  induction h with
  | flat hflat => exact .of_flat_append hflat hsecond
  | group hbefore hbody _ _ ih =>
    simp only [List.append_assoc, List.cons_append]
    exact .group hbefore hbody ih

/-- A balanced text has no parentheses, or something stands behind the last of them. -/
theorem Balanced.cases {text : Text} (h : Balanced text) :
    Flat text ∨ ∃ rest, Behind text rest := by
  induction h with
  | flat hflat => exact .inl hflat
  | @group before body rest hbefore hbody _ _ ih =>
    right
    rcases ih with hflat | ⟨last, inner, group, hinner, hgroup, hlast, rfl⟩
    · exact ⟨rest, before, body, .flat hbefore, hbody, hflat, rfl⟩
    · refine ⟨last, before ++ '(' :: (body ++ ')' :: inner), group,
        .group hbefore hbody hinner, hgroup, hlast, ?_⟩
      simp

/-- A text with something behind its last parentheses is balanced. -/
theorem Behind.balanced {text rest : Text} (h : Behind text rest) : Balanced text := by
  obtain ⟨before, body, hbefore, hbody, hrest, rfl⟩ := h
  exact hbefore.append (.group .nil hbody (.flat hrest))

section Scan

variable {text body rest after : Text} {depth : Int}

/-- A literal ends at the next quote. -/
theorem afterOuter_literal (h : '\'' ∉ body) :
    afterOuter after depth true (body ++ '\'' :: rest) = afterOuter after depth false rest := by
  induction body with
  | nil => rfl
  | cons c body ih =>
    obtain ⟨hc, hbody⟩ := List.ne_and_not_mem_of_not_mem_cons h
    rw [List.cons_append, afterOuter, if_neg (Ne.symm hc), if_pos rfl]
    exact ih hbody

/-- A text without parentheses is passed over. -/
theorem Flat.afterOuter_append (h : Flat text) :
    afterOuter after depth false (text ++ rest) = afterOuter after depth false rest := by
  induction h with
  | nil => rfl
  | char hquote hopen hclose _ ih =>
    rw [List.cons_append, afterOuter, if_neg hquote, if_neg (by decide), if_neg hopen,
      if_neg hclose, ih]
  | literal hbody _ ih =>
    rw [List.cons_append, List.append_assoc, List.cons_append, afterOuter, if_pos rfl]
    exact (afterOuter_literal hbody).trans ih

/-- A parenthesis opens a level. -/
theorem afterOuter_open :
    afterOuter after depth false ('(' :: rest) = afterOuter after (depth + 1) false rest := rfl

/-- A parenthesis closes a level, and may be the last one of the outermost. -/
theorem afterOuter_close :
    afterOuter after (depth + 1) false (')' :: rest) =
      afterOuter (if depth = 0 then rest else after) depth false rest := by
  rw [afterOuter, if_neg (by decide), if_neg (by decide), if_neg (by decide), if_pos rfl,
    Int.add_sub_cancel]

/-- Within parentheses a balanced text is passed over. -/
theorem Balanced.afterOuter_within (h : Balanced text) (hdepth : 0 < depth) :
    afterOuter after depth false (text ++ rest) = afterOuter after depth false rest := by
  induction h generalizing depth rest with
  | flat hflat => exact hflat.afterOuter_append
  | group hbefore _ _ ihbody ihrest =>
    rw [List.append_assoc, hbefore.afterOuter_append, List.cons_append, List.append_assoc,
      afterOuter_open, ihbody (by omega), List.cons_append, afterOuter_close,
      if_neg (by omega), ihrest hdepth]

/-- At the outermost level the text behind closed parentheses is the last one so far. -/
theorem Balanced.afterOuter_group (h : Balanced body) :
    afterOuter after 0 false ('(' :: (body ++ ')' :: rest)) = afterOuter rest 0 false rest := by
  rw [afterOuter_open, h.afterOuter_within (by decide), afterOuter_close, if_pos rfl]

/-- At the outermost level a balanced text is passed over, but for the last text so far. -/
theorem Balanced.exists_afterOuter (h : Balanced text) (after rest : Text) :
    ∃ last, afterOuter after 0 false (text ++ rest) = afterOuter last 0 false rest := by
  induction h generalizing after with
  | flat hflat => exact ⟨after, hflat.afterOuter_append⟩
  | group hbefore hbody _ _ ih =>
    obtain ⟨last, hlast⟩ := ih _
    refine ⟨last, ?_⟩
    rw [List.append_assoc, hbefore.afterOuter_append, List.cons_append, List.append_assoc,
      List.cons_append, hbody.afterOuter_group, hlast]

/-- Behind parentheses that close the outermost level the scan starts anew. -/
theorem afterOuter_behind {before : Text} (hbefore : Balanced before) (hbody : Balanced body)
    (after rest : Text) : afterOuter after 0 false (before ++ '(' :: (body ++ ')' :: rest)) =
      afterOuter rest 0 false rest := by
  obtain ⟨last, hlast⟩ := hbefore.exists_afterOuter after ('(' :: (body ++ ')' :: rest))
  rw [hlast, hbody.afterOuter_group]

/-- Without parentheses the text behind the last of them stays what it was. -/
theorem Flat.afterOuter_eq (h : Flat text) : afterOuter after 0 false text = after := by
  have hscan : afterOuter after 0 false (text ++ []) = after := h.afterOuter_append
  rwa [List.append_nil] at hscan

/-- With parentheses the text behind the last of them is found. -/
theorem Behind.afterOuter_eq (h : Behind text rest) : afterOuter after 0 false text = rest := by
  obtain ⟨before, body, hbefore, hbody, hrest, rfl⟩ := h
  rw [afterOuter_behind hbefore hbody, hrest.afterOuter_eq]

end Scan

/-- Definitions end in parentheses that close the outermost level. -/
theorem exists_group_of_definitions {definitions : List Definition} (hne : definitions ≠ [])
    (h : ∀ definition ∈ definitions, definition.Sound) {start : Text} (hstart : Balanced start) :
    ∃ before body, Balanced before ∧ Balanced body ∧
      start ++ [','].intercalate (definitions.map Definition.text) =
        before ++ '(' :: (body ++ [')']) := by
  have hword : Flat [' ', 'A', 'S', ' '] := .of_plain (by decide)
  induction definitions generalizing start with
  | nil => exact absurd rfl hne
  | cons definition more ih =>
    obtain ⟨hfirst, hmore⟩ := List.forall_mem_cons.mp h
    have hlead : Balanced (start ++ definition.name ++ [' ', 'A', 'S', ' ']) :=
      (hstart.append hfirst.name).append (.flat hword)
    cases more with
    | nil =>
      refine ⟨_, definition.body, hlead, hfirst.body, ?_⟩
      simp [Definition.text]
    | cons second more =>
      have hcomma : Balanced [','] := .of_plain (by decide)
      have hclosed : Balanced ('(' :: (definition.body ++ ')' :: [','])) :=
        .group .nil hfirst.body hcomma
      obtain ⟨before, body, hbefore, hbody, hsplit⟩ :=
        ih (List.cons_ne_nil _ _) hmore (hlead.append hclosed)
      refine ⟨before, body, hbefore, hbody, hsplit ▸ ?_⟩
      simp [Definition.text, List.intercalate_cons_cons]

/-- The text behind the last parentheses of a statement with definitions is to be found behind
these. -/
theorem afterDefinitions_withDefinitions {definitions : List Definition} (hne : definitions ≠ [])
    (h : ∀ definition ∈ definitions, definition.Sound) (main : Text) :
    afterDefinitions (withDefinitions definitions main) =
      Text.trimStart (afterOuter (' ' :: main) 0 false main) := by
  have hword : Flat ['W', 'I', 'T', 'H', ' '] := .of_plain (by decide)
  obtain ⟨before, body, hbefore, hbody, hsplit⟩ :=
    exists_group_of_definitions hne h (.flat hword)
  have hwhole : withDefinitions definitions main =
      before ++ '(' :: (body ++ ')' :: (' ' :: main)) := by
    rw [withDefinitions, hsplit]
    simp
  rw [hwhole, afterDefinitions, afterOuter_behind hbefore hbody]
  rfl

/-- Nothing precedes a statement that starts with a letter. -/
theorem skipPreamble_of_head {c : Char} (hblank : isBlank c = false) (hdash : c ≠ '-')
    (hslash : c ≠ '/') (hopen : c ≠ '(') (rest : Text) : skipPreamble (c :: rest) = c :: rest := by
  have htrim : Text.trimStart (c :: rest) = c :: rest :=
    Text.trimStart_eq_self fun e he => Option.mem_some.mp he ▸ hblank
  rw [skipPreamble]
  split
  · rename_i h
    rw [htrim] at h
    exact absurd (List.cons.inj h).1 hdash
  · rename_i h
    rw [htrim] at h
    exact absurd (List.cons.inj h).1 hslash
  · rename_i h
    rw [htrim] at h
    exact absurd (List.cons.inj h).1 hopen
  · exact htrim

/-- A keyword starts with one of four letters. -/
theorem exists_letter_of_keyword {entry : Text × StatementKind} (h : entry ∈ keywords) :
    ∃ letter rest, entry.1 = letter :: rest ∧ letter.toLower ∈ ['s', 'i', 'u', 'd'] := by
  simp only [keywords, List.mem_cons, List.not_mem_nil, or_false] at h
  rcases h with rfl | rfl | rfl | rfl
  all_goals exact ⟨_, _, rfl, by decide⟩

/-- The code points of the letters that a keyword may start with, in any case. -/
theorem toNat_of_toLower {c : Char} (h : c.toLower ∈ ['s', 'i', 'u', 'd']) :
    65 ≤ c.toNat ∧ c.toNat ≤ 122 := by
  rcases Text.toLower_cases c with hc | ⟨hlow, hhigh⟩
  · rw [hc] at h
    simp only [List.mem_cons, List.not_mem_nil, or_false] at h
    rcases h with rfl | rfl | rfl | rfl
    all_goals decide
  · exact ⟨hlow, by omega⟩

/-- None of these letters is a blank. -/
theorem isBlank_of_toLower {c : Char} (h : c.toLower ∈ ['s', 'i', 'u', 'd']) :
    isBlank c = false := by
  obtain ⟨hlow, hhigh⟩ := toNat_of_toLower h
  simp only [isBlank, Bool.or_eq_false_iff, Bool.and_eq_false_iff, decide_eq_false_iff_not,
    beq_eq_false_iff_ne]
  omega

/-- A statement with a keyword starts with one of four letters, in any case. -/
theorem Keyed.exists_letter {main : Text} (h : Keyed main) :
    ∃ c rest, main = c :: rest ∧ c.toLower ∈ ['s', 'i', 'u', 'd'] := by
  obtain ⟨entry, hentry, word, rest, hword, rfl⟩ := h
  obtain ⟨letter, others, hletter, hlower⟩ := exists_letter_of_keyword hentry
  rw [hletter, Text.sameLetters, beq_iff_eq] at hword
  cases word with
  | nil => cases hword
  | cons c word =>
    rw [List.map_cons, List.map_cons] at hword
    exact ⟨c, _, rfl, (List.cons.inj hword).1 ▸ hlower⟩

/-- Nothing precedes a statement with a keyword. -/
theorem Keyed.skipPreamble_eq {main : Text} (h : Keyed main) : skipPreamble main = main := by
  obtain ⟨c, rest, rfl, hlower⟩ := h.exists_letter
  have hother : ∀ e : Char, e.toNat < 65 → c ≠ e := by
    rintro e he rfl
    exact absurd (toNat_of_toLower hlower).1 (by omega)
  exact skipPreamble_of_head (isBlank_of_toLower hlower) (hother _ (by decide))
    (hother _ (by decide)) (hother _ (by decide)) rest

/-- Only the space before a statement with a keyword is trimmed. -/
theorem Keyed.trimStart_eq {main : Text} (h : Keyed main) :
    Text.trimStart (' ' :: main) = main := by
  obtain ⟨c, rest, rfl, hlower⟩ := h.exists_letter
  have hhead : ∀ e ∈ (c :: rest).head?, isBlank e = false :=
    fun e he => Option.mem_some.mp he ▸ isBlank_of_toLower hlower
  exact Text.trimStart_eq_self hhead

/-- A text that starts otherwise, up to the case of letters, has not that lead. -/
theorem afterLead?_of_ne {letter c : Char} {lead rest : Text}
    (h : c.toLower ≠ letter.toLower) : Text.afterLead? (letter :: lead) (c :: rest) = none := by
  have hother : Text.sameLetters (c :: rest.take lead.length) (letter :: lead) = false := by
    rw [Text.sameLetters, beq_eq_false_iff_ne]
    exact fun heq => h (List.cons.inj heq).1
  rw [Text.afterLead?, List.splitAt_eq]
  exact if_neg (by simpa using hother)

/-- A statement with a keyword has a kind. -/
theorem Keyed.exists_leading {main : Text} (h : Keyed main) :
    ∃ kind, leading? main = some kind := by
  obtain ⟨entry, hentry, word, rest, hword, rfl⟩ := h
  have hlead := congrArg Option.isSome (Text.afterLead?_append hword (' ' :: rest))
  rw [← Option.isSome_iff_exists, leading?, Option.isSome_map, List.find?_isSome]
  exact ⟨entry, hentry, hlead⟩

/-- The kind of a statement with a keyword is what the keyword tells. -/
theorem Keyed.ofSql_eq {main : Text} (h : Keyed main) : leading? main = some (ofSql main) := by
  obtain ⟨kind, hkind⟩ := h.exists_leading
  have hwith : Text.afterLead? "WITH".toList main = none := by
    obtain ⟨c, rest, rfl, hlower⟩ := h.exists_letter
    refine afterLead?_of_ne fun heq => ?_
    rw [heq] at hlower
    exact absurd hlower (by decide)
  rw [ofSql, h.skipPreamble_eq, hwith, if_neg (by decide), hkind]
  rfl

/-- Behind definitions the kind is that of the text behind the last parentheses of the whole. -/
theorem ofSql_withDefinitions {definitions : List Definition} (hne : definitions ≠ [])
    (h : ∀ definition ∈ definitions, definition.Sound) (main : Text) :
    ofSql (withDefinitions definitions main) =
      (leading? (Text.trimStart (afterOuter (' ' :: main) 0 false main))).getD select := by
  have hskip : skipPreamble (withDefinitions definitions main) = withDefinitions definitions main :=
    skipPreamble_of_head (by decide) (by decide) (by decide) (by decide) _
  have hwith : ∀ rest, (Text.afterLead? "WITH".toList
      (['W', 'I', 'T', 'H', ' '] ++ rest)).isSome = true := by
    have hword : Text.sameLetters ['W', 'I', 'T', 'H'] "WITH".toList = true := by decide
    exact fun rest => congrArg Option.isSome (Text.afterLead?_append hword (' ' :: rest))
  rw [ofSql, hskip]
  refine (if_pos ?_).trans ?_
  · rw [withDefinitions, List.append_assoc]
    exact hwith _
  · rw [afterDefinitions_withDefinitions hne h]

/-- A statement behind definitions is of its own kind if there are no parentheses in it. Else its
kind is what the text behind its last parentheses tells, and it is a query if that tells none. -/
theorem kind_behind_definitions {definitions : List Definition} {main : Text}
    (hne : definitions ≠ []) (h : ∀ definition ∈ definitions, definition.Sound)
    (hkeyed : Keyed main) (hmain : Balanced main) :
    (Flat main → ofSql (withDefinitions definitions main) = ofSql main) ∧
      (∀ rest, Behind main rest → ofSql (withDefinitions definitions main) =
        (leading? (Text.trimStart rest)).getD select) ∧
      (Flat main ∨ ∃ rest, Behind main rest) := by
  refine ⟨fun hflat => ?_, fun rest hbehind => ?_, hmain.cases⟩
  · rw [ofSql_withDefinitions hne h, hflat.afterOuter_eq, hkeyed.trimStart_eq, hkeyed.ofSql_eq]
    rfl
  · rw [ofSql_withDefinitions hne h, hbehind.afterOuter_eq]

/-- What is inserted behind two definitions is taken for a query, for the parentheses behind
`VALUES`. Without these it is an insertion. -/
theorem kind_behind_two_definitions :
    let quoted : Text := "SELECT ".toList ++ '\'' :: ([')'] ++ '\'' :: " AS p".toList)
    let columns : Text := "b ".toList ++ '(' :: (['x'] ++ ')' :: [])
    let nested : Text := "SELECT ".toList ++ '(' :: (['2'] ++ ')' :: [])
    let definitions : List Definition := [⟨['a'], quoted⟩, ⟨columns, nested⟩]
    let queried : Text := "INSERT".toList ++ ' ' ::
      ("INTO t SELECT ".toList ++ '\'' :: (['('] ++ '\'' :: []))
    let values : Text := "INSERT".toList ++ ' ' ::
      ("INTO t VALUES ".toList ++ '(' :: (('\'' :: (['('] ++ '\'' :: ", 2".toList)) ++ ')' :: []))
    ofSql (withDefinitions definitions queried) = insert ∧
      ofSql (withDefinitions definitions values) = select := by
  intro quoted columns nested definitions queried values
  have hquoted : Flat quoted := .append (.of_plain (by decide))
    (.literal (by decide) (.of_plain (by decide)))
  have hcolumns : Balanced columns :=
    .group (.of_plain (by decide)) (.of_plain (by decide)) (.flat .nil)
  have hnested : Balanced nested :=
    .group (.of_plain (by decide)) (.of_plain (by decide)) (.flat .nil)
  have hsound : ∀ definition ∈ definitions, definition.Sound := by
    intro definition h
    rcases List.mem_pair.mp h with rfl | rfl
    · exact ⟨.of_plain (by decide), .flat hquoted⟩
    · exact ⟨hcolumns, hnested⟩
  have hkeyed (rest : Text) : Keyed ("INSERT".toList ++ ' ' :: rest) :=
    ⟨("INSERT".toList, insert), by decide, "INSERT".toList, rest, by decide, rfl⟩
  have hqueried : Flat queried := .append (.of_plain (by decide))
    (.char (by decide) (by decide) (by decide)
      (.append (.of_plain (by decide)) (.literal (by decide) .nil)))
  have hvalues : Behind values [] := by
    refine ⟨"INSERT".toList ++ ' ' :: "INTO t VALUES ".toList,
      '\'' :: (['('] ++ '\'' :: ", 2".toList), .of_plain (by decide),
      .flat (.literal (by decide) (.of_plain (by decide))), .nil, ?_⟩
    rw [List.append_assoc, List.cons_append]
  have hlast : leading? queried = some insert := by decide
  refine ⟨?_, ?_⟩
  · have hkind := (kind_behind_definitions (List.cons_ne_nil _ _) hsound (hkeyed _)
      (.flat hqueried)).1 hqueried
    rw [(hkeyed _).ofSql_eq] at hlast
    exact hkind.trans (Option.some.inj hlast)
  · exact (kind_behind_definitions (List.cons_ne_nil _ _) hsound (hkeyed _)
      hvalues.balanced).2.1 [] hvalues

/-- An insertion of values behind a definition is not of its own kind. -/
theorem not_kind_of_main : ¬ ∀ (definitions : List Definition) (main : Text), definitions ≠ [] →
    (∀ definition ∈ definitions, definition.Sound) → Keyed main → Balanced main →
      ofSql (withDefinitions definitions main) = ofSql main := by
  intro h
  have hdefinition : Definition.Sound ⟨"a".toList, "SELECT 1".toList⟩ :=
    ⟨.of_plain (by decide), .of_plain (by decide)⟩
  have hkeyword : ("INSERT".toList, insert) ∈ keywords := by decide
  have hmain : Balanced ("INSERT INTO t VALUES ".toList ++ '(' :: (['1'] ++ ')' :: [])) :=
    .group (.of_plain (by decide)) (.of_plain (by decide)) (.flat .nil)
  have heq := h [⟨"a".toList, "SELECT 1".toList⟩] "INSERT INTO t VALUES (1)".toList
    (List.cons_ne_nil _ _) (List.forall_mem_singleton.mpr hdefinition)
    ⟨_, hkeyword, "INSERT".toList, "INTO t VALUES (1)".toList, by decide, rfl⟩ hmain
  revert heq
  decide +kernel

end SqlTemplate.StatementKind
