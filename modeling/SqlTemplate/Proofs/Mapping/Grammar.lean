import SqlTemplate.Proofs.Mapping.Reading

/-!
# The grammar of placeholders

A body is a property, then at most one SQL type behind a colon, then attributes behind commas. The
grammar is said here without the reader, as relations between attributes and texts. The reader
accepts exactly the bodies of the grammar. So what is proved of a reader's result holds of every
body that can be written.
-/

namespace SqlTemplate

open Results

namespace Text

variable {mark : Char} {piece : Text}

/-- A text without the mark is one piece. -/
theorem splitOn_of_not_mem (h : mark ∉ piece) : splitOn mark piece = [piece] := by
  induction piece with
  | nil => rfl
  | cons c piece ih =>
    rw [List.mem_cons, not_or] at h
    rw [splitOn, if_neg (Ne.symm h.1), ih h.2]

/-- The first piece ends at the first mark. -/
theorem splitOn_append (h : mark ∉ piece) (rest : Text) :
    splitOn mark (piece ++ mark :: rest) = piece :: splitOn mark rest := by
  induction piece with
  | nil => rw [List.nil_append, splitOn, if_pos rfl]
  | cons c piece ih =>
    rw [List.mem_cons, not_or] at h
    rw [List.cons_append, splitOn, if_neg (Ne.symm h.1), ih h.2]

/-- There is always a first piece. -/
theorem splitOn_ne_nil (mark : Char) (text : Text) : splitOn mark text ≠ [] := by
  cases text with
  | nil => exact List.cons_ne_nil _ _
  | cons c rest =>
    rw [splitOn]
    split
    · exact List.cons_ne_nil _ _
    · split
      · exact List.cons_ne_nil _ _
      · exact List.cons_ne_nil _ _

/-- A span up to a mark ends before the first one. -/
theorem spanWhile_ne_eq_iff {text after : Text} :
    spanWhile (· ≠ mark) text = (piece, mark :: after) ↔
      text = piece ++ mark :: after ∧ mark ∉ piece := by
  constructor
  · intro h
    obtain ⟨rfl, hafter⟩ := Prod.mk.inj h
    rw [← hafter, List.takeWhile_append_dropWhile]
    exact ⟨rfl, fun hmem => by simpa using List.mem_takeWhile_imp hmem⟩
  · rintro ⟨rfl, h⟩
    have hpiece : ∀ c ∈ piece, decide (c ≠ mark) = true := by
      intro c hc
      rw [decide_eq_true_iff]
      rintro rfl
      exact h hc
    exact spanWhile_append hpiece fun c hc => by simp [(Option.mem_some.mp hc).symm]

end Text

namespace Placeholder

/-- What counts of the text of a property, a type or a key: neither the padding it starts with nor
outer blanks. -/
def core (text : Text) : Text := Text.trim (skipPadding text)

/-- The text of a property. -/
structure IsHead (text : Text) : Prop where
  core_ne_nil : core text ≠ []
  /-- It ends before the first comma or colon. -/
  chars : ∀ c ∈ text, inProperty c = true
  /-- It is no expression. -/
  plain : (skipPadding text).head? ≠ some '('

/-- The texts of attributes behind commas. Nothing need follow the last comma. -/
inductive AttributesSpelled : List (Text × Text) → Text → Prop
  | nil : AttributesSpelled [] []
  | comma {padding : Text} (h : ∀ c ∈ padding, isPadding c = true) :
    AttributesSpelled [] (',' :: padding)
  | cons {key value rest : Text} {attributes : List (Text × Text)} (hkey : core key ≠ [])
    (hkeyChars : ∀ c ∈ key, c ≠ ',' ∧ c ≠ '=') (hvalue : ',' ∉ value)
    (h : AttributesSpelled attributes rest) :
    AttributesSpelled ((core key, Text.trim value) :: attributes)
      (',' :: (key ++ '=' :: (value ++ rest)))

/-- The texts of attributes behind a property. The SQL type may stand there behind a colon. -/
inductive TailSpelled : List (Text × Text) → Text → Prop
  | plain {attributes : List (Text × Text)} {text : Text} (h : AttributesSpelled attributes text) :
    TailSpelled attributes text
  | typed {sqlType rest : Text} {attributes : List (Text × Text)} (htype : core sqlType ≠ [])
    (hchars : ',' ∉ sqlType) (h : AttributesSpelled attributes rest) :
    TailSpelled (("jdbcType".toList, core sqlType) :: attributes) (':' :: (sqlType ++ rest))

/-- The texts of bodies with a property and attributes. -/
inductive Spelled : Text → List (Text × Text) → Text → Prop
  | mk {property rest : Text} {attributes : List (Text × Text)} (hproperty : IsHead property)
    (h : TailSpelled attributes rest) : Spelled (core property) attributes (property ++ rest)

section Core

variable {text : Text}

/-- A text that counts for something is not padding alone. -/
theorem skipPadding_ne_nil (h : core text ≠ []) : skipPadding text ≠ [] := by
  intro hnil
  rw [core, hnil] at h
  exact h (Text.trim_eq_nil_iff.mpr rfl)

/-- What counts of a text is nothing exactly if blanks alone stand behind its padding. -/
theorem blank_skipPadding_iff : (skipPadding text).blank = true ↔ core text = [] :=
  Text.trim_eq_nil_iff.symm

/-- Only the start of a text is skipped. -/
theorem skipPadding_append_of_ne_nil (h : skipPadding text ≠ []) (rest : Text) :
    skipPadding (text ++ rest) = skipPadding text ++ rest := by
  rw [skipPadding] at h
  rw [skipPadding, List.dropWhile_append, if_neg (by simpa using h)]
  rfl

/-- What is left behind padding is skipped no further. -/
theorem skipPadding_takeWhile_append {rest : Text}
    (h : ∀ c ∈ rest.head?, isPadding c = false) :
    skipPadding (text.takeWhile isPadding ++ rest) = rest :=
  Text.dropWhile_append_of_head (fun _ hc => List.mem_takeWhile_imp hc) h

end Core

section Attributes

variable {piece : Text} {pieces : List Text} {entries : List (Text × Text)}

/-- A piece between commas is a key and a value, or nothing behind the last comma. -/
theorem attributes_cons_eq_ok {offset : ℕ} :
    attributes offset (piece :: pieces) = .ok entries ↔
      skipPadding piece = [] ∧ pieces = [] ∧ entries = [] ∨
      ∃ key value others, skipPadding piece = key ++ '=' :: value ∧ '=' ∉ key ∧
        Text.blank key = false ∧
        attributes (offset + Text.byteSize piece + 1) pieces = .ok others ∧
        entries = (Text.trim key, Text.trim value) :: others := by
  rw [attributes]
  by_cases hempty : skipPadding piece = [] ∧ pieces = []
  · obtain ⟨hnil, rfl⟩ := hempty
    rw [if_pos (by simp [hnil])]
    constructor
    · intro h
      exact .inl ⟨hnil, rfl, (Except.ok.inj h).symm⟩
    · rintro (⟨-, -, rfl⟩ | ⟨key, value, others, hpiece, -⟩)
      · rfl
      · rw [hnil] at hpiece
        simp at hpiece
  · rw [if_neg (by simpa using hempty)]
    cases hspan : Text.spanWhile (· ≠ '=') (skipPadding piece) with
    | mk key rest =>
      cases rest with
      | nil =>
        refine iff_of_false (fun h => by cases h) ?_
        rintro (⟨hpiece, hpieces, -⟩ | ⟨other, value, others, hpiece, hother, -⟩)
        · exact hempty ⟨hpiece, hpieces⟩
        · rw [Text.spanWhile_ne_eq_iff.mpr ⟨hpiece, hother⟩] at hspan
          cases hspan
      | cons c value =>
        have hc : c = '=' := by
          have hhead : c ∈ ((skipPadding piece).dropWhile (· ≠ '=')).head? := by
            rw [(Prod.mk.inj hspan).2]
            rfl
          simpa using Text.head?_dropWhile hhead
        subst hc
        obtain ⟨hpiece, hkey⟩ := Text.spanWhile_ne_eq_iff.mp hspan
        dsimp only
        constructor
        · intro h
          split at h
          · cases h
          · rename_i hblank
            obtain ⟨others, hothers, rfl⟩ := map_eq_ok.mp h
            exact .inr ⟨key, value, others, hpiece, hkey, by simpa using hblank, hothers, rfl⟩
        · rintro (⟨hnil, hpieces, -⟩ | ⟨other, text, others, hother, hmem, hblank, hok, rfl⟩)
          · exact absurd ⟨hnil, hpieces⟩ hempty
          · rw [Text.spanWhile_ne_eq_iff.mpr ⟨hother, hmem⟩] at hspan
            obtain ⟨rfl, htext⟩ := Prod.mk.inj hspan
            obtain rfl := (List.cons.inj htext).2
            rw [if_neg (by simp [hblank])]
            exact map_eq_ok.mpr ⟨others, hok, rfl⟩

/-- The pieces behind the first comma of a text, if there is one. -/
def piecesBehind : Text → List Text
  | [] => []
  | _ :: rest => Text.splitOn ',' rest

/-- What stands behind a comma is read piece by piece. -/
theorem trailing_eq (offset : ℕ) (text : Text) :
    trailing offset text = attributes (offset + 1) (piecesBehind text) := by
  cases text with
  | nil => rfl
  | cons c rest => rfl

/-- A piece ends at the next comma. -/
theorem piecesBehind_cons {rest : Text} (hpiece : ',' ∉ piece)
    (hrest : ∀ c ∈ rest.head?, c = ',') :
    piecesBehind (',' :: (piece ++ rest)) = piece :: piecesBehind rest := by
  cases rest with
  | nil =>
    rw [List.append_nil]
    exact Text.splitOn_of_not_mem hpiece
  | cons c rest =>
    obtain rfl := hrest c rfl
    rw [piecesBehind, Text.splitOn_append hpiece, piecesBehind]

/-- The texts of attributes start with a comma. -/
theorem AttributesSpelled.head? {text : Text} (h : AttributesSpelled entries text) :
    ∀ c ∈ text.head?, c = ',' := by
  intro c hc
  cases h with
  | nil => cases hc
  | comma => exact (Option.mem_some.mp hc).symm
  | cons => exact (Option.mem_some.mp hc).symm

/-- Attributes are read as they are spelled. -/
theorem AttributesSpelled.trailing_eq_ok {text : Text} (h : AttributesSpelled entries text)
    (offset : ℕ) : trailing offset text = .ok entries := by
  induction h generalizing offset with
  | nil => rfl
  | @comma padding h =>
    have hcomma : ',' ∉ padding := by
      intro hmem
      exact absurd (h _ hmem) (by decide)
    have hskip : skipPadding padding = [] := List.dropWhile_eq_nil_iff.mpr h
    rw [trailing_eq, piecesBehind, Text.splitOn_of_not_mem hcomma, attributes_cons_eq_ok]
    exact .inl ⟨hskip, rfl, rfl⟩
  | @cons key value rest attributes hkey hkeyChars hvalue h ih =>
    have hcomma : ',' ∉ key ++ '=' :: value := by
      simp only [List.mem_append, List.mem_cons, not_or]
      exact ⟨fun hmem => (hkeyChars _ hmem).1 rfl, by decide, hvalue⟩
    have hequals : '=' ∉ skipPadding key := by
      intro hmem
      exact (hkeyChars _ ((List.dropWhile_suffix _).subset hmem)).2 rfl
    have hblank : (skipPadding key).blank = false := by
      rw [← Bool.not_eq_true, blank_skipPadding_iff]
      exact hkey
    have htext : ',' :: (key ++ '=' :: (value ++ rest)) =
        ',' :: ((key ++ '=' :: value) ++ rest) := by
      simp
    rw [trailing_eq, htext, piecesBehind_cons hcomma h.head?, attributes_cons_eq_ok]
    refine .inr ⟨skipPadding key, value, attributes, ?_, hequals, hblank, ?_, rfl⟩
    · exact skipPadding_append_of_ne_nil (skipPadding_ne_nil hkey) _
    · rw [← trailing_eq]
      exact ih _

/-- The key that is read from a piece is what counts of the text before the equals sign. -/
theorem exists_key_text {key value : Text} (hpiece : skipPadding piece = key ++ '=' :: value)
    (hkey : '=' ∉ key) (hblank : key.blank = false) :
    ∃ text, piece = text ++ '=' :: value ∧ '=' ∉ text ∧ core text = Text.trim key ∧
      core text ≠ [] := by
  have hsplit : piece.takeWhile isPadding ++ skipPadding piece = piece :=
    List.takeWhile_append_dropWhile
  have hfirst : ∀ c ∈ key.head?, isPadding c = false := by
    intro c hc
    have hstart := Text.head?_of_start (List.prefix_append key ('=' :: value)) hc
    rw [← hpiece] at hstart
    exact Text.head?_dropWhile hstart
  have hcore : core (piece.takeWhile isPadding ++ key) = Text.trim key := by
    rw [core, skipPadding_takeWhile_append hfirst]
  refine ⟨piece.takeWhile isPadding ++ key, ?_, ?_, hcore, ?_⟩
  · rw [List.append_assoc, ← hpiece, hsplit]
  · intro hmem
    rcases List.mem_append.mp hmem with hpadding | hin
    · exact absurd (List.mem_takeWhile_imp hpadding) (by decide)
    · exact hkey hin
  · rw [hcore, Ne, Text.trim_eq_nil_iff, hblank]
    decide

/-- What is read as attributes is a text of them. -/
theorem attributesSpelled_of_trailing {text : Text} (htext : ∀ c ∈ text.head?, c = ',')
    {offset : ℕ} (h : trailing offset text = .ok entries) : AttributesSpelled entries text := by
  -- Each attribute is behind its own comma, so what is behind the next comma is shorter.
  induction hlength : text.length using Nat.strongRecOn generalizing text offset entries with
  | ind n ih =>
    cases text with
    | nil =>
      obtain rfl := Except.ok.inj h
      exact .nil
    | cons c text =>
      obtain rfl := htext c rfl
      obtain ⟨piece, rest, rfl, hcomma, hrest⟩ : ∃ piece rest, text = piece ++ rest ∧
          ',' ∉ piece ∧ ∀ c ∈ rest.head?, c = ',' := by
        refine ⟨text.takeWhile (· ≠ ','), text.dropWhile (· ≠ ','),
          List.takeWhile_append_dropWhile.symm, fun hmem => ?_, fun c hc => ?_⟩
        · simpa using List.mem_takeWhile_imp hmem
        · simpa using Text.head?_dropWhile hc
      rw [trailing_eq, piecesBehind_cons hcomma hrest, attributes_cons_eq_ok] at h
      rcases h with ⟨hnil, hpieces, rfl⟩ | ⟨key, value, others, hpiece, hkey, hblank, hok, rfl⟩
      · have hall : ∀ c ∈ piece, isPadding c = true := List.dropWhile_eq_nil_iff.mp hnil
        cases rest with
        | nil =>
          rw [List.append_nil]
          exact .comma hall
        | cons c rest => exact absurd hpieces (Text.splitOn_ne_nil _ _)
      · obtain ⟨keyText, rfl, hequals, hcore, hne⟩ := exists_key_text hpiece hkey hblank
        simp only [List.mem_append, List.mem_cons, not_or] at hcomma
        have hchars : ∀ c ∈ keyText, c ≠ ',' ∧ c ≠ '=' := by
          intro c hc
          refine ⟨?_, ?_⟩
          · rintro rfl
            exact hcomma.1 hc
          · rintro rfl
            exact hequals hc
        have hothers : AttributesSpelled others rest := by
          rw [← trailing_eq] at hok
          refine ih rest.length ?_ hrest hok rfl
          rw [← hlength, List.length_cons, List.length_append]
          omega
        rw [← hcore, List.append_assoc, List.cons_append]
        exact .cons hne hchars hcomma.2.2 hothers

end Attributes

variable {entries attributes : List (Text × Text)} {property body text : Text}

/-- The text behind a property starts with a comma or a colon. -/
theorem TailSpelled.head? (h : TailSpelled attributes text) :
    ∀ c ∈ text.head?, inProperty c = false := by
  intro c hc
  cases h with
  | plain h =>
    obtain rfl := h.head? c hc
    rfl
  | typed =>
    obtain rfl := Option.mem_some.mp hc
    rfl

/-- What stands behind a property is read as it is spelled. -/
theorem TailSpelled.tail_eq_ok (h : TailSpelled attributes text) (offset : ℕ) :
    tail offset text = .ok attributes := by
  cases h with
  | plain h =>
    unfold tail
    split
    · exact absurd (h.head? ':' rfl) (by decide)
    · exact h.trailing_eq_ok offset
  | @typed sqlType rest attributes htype hchars h =>
    have hspan : Text.spanWhile (· ≠ ',') (sqlType ++ rest) = (sqlType, rest) := by
      refine Text.spanWhile_append (fun c hc => ?_) fun c hc => by simp [h.head? c hc]
      rw [decide_eq_true_iff]
      rintro rfl
      exact hchars hc
    rw [tail, hspan]
    dsimp only
    rw [if_neg (by rw [blank_skipPadding_iff]; exact htype), h.trailing_eq_ok]
    rfl

/-- What is read behind a property is a text of attributes. -/
theorem tailSpelled_of_tail (htext : ∀ c ∈ text.head?, inProperty c = false) {offset : ℕ}
    (h : tail offset text = .ok attributes) : TailSpelled attributes text := by
  unfold tail at h
  split at h
  · rename_i rest
    dsimp only [Text.spanWhile] at h
    split at h
    · cases h
    · rename_i hblank
      obtain ⟨others, hothers, rfl⟩ := map_eq_ok.mp h
      have hrest : ∀ c ∈ (rest.dropWhile (· ≠ ',')).head?, c = ',' := by
        intro c hc
        simpa using Text.head?_dropWhile hc
      have hchars : ',' ∉ rest.takeWhile (· ≠ ',') := by
        intro hmem
        simpa using List.mem_takeWhile_imp hmem
      rw [blank_skipPadding_iff] at hblank
      have hspelled := TailSpelled.typed hblank hchars (attributesSpelled_of_trailing hrest hothers)
      rwa [List.takeWhile_append_dropWhile] at hspelled
  · rename_i hcolon
    refine .plain (attributesSpelled_of_trailing (fun c hc => ?_) h)
    have hmark : c = ',' ∨ c = ':' := by
      simpa [inProperty, or_iff_not_imp_left] using htext c hc
    rcases hmark with rfl | rfl
    · rfl
    · obtain ⟨rest, rfl⟩ := List.head?_eq_some_iff.mp hc
      exact absurd rfl (hcolon rest)

/-- A body is read as it is spelled: the property counts as the first of its attributes. -/
theorem Spelled.parse_eq_ok (h : Spelled property attributes body) :
    parse body = .ok ⟨insertAll attributes [("property".toList, property)]⟩ := by
  cases h with
  | @mk head rest _ hproperty h =>
    have hskip := skipPadding_append_of_ne_nil (skipPadding_ne_nil hproperty.core_ne_nil) rest
    have hspan : Text.spanWhile (fun c => c ≠ ',' && c ≠ ':') (skipPadding head ++ rest) =
        (skipPadding head, rest) :=
      Text.spanWhile_append
        (fun c hc => hproperty.chars c ((List.dropWhile_suffix _).subset hc)) h.head?
    have hplain : (skipPadding head ++ rest).head? ≠ some '(' := by
      rw [List.head?_append_of_ne_nil _ (skipPadding_ne_nil hproperty.core_ne_nil)]
      exact hproperty.plain
    unfold parse
    dsimp only
    rw [hskip, if_neg hplain, hspan]
    dsimp only
    rw [if_neg (by rw [blank_skipPadding_iff]; exact hproperty.core_ne_nil), h.tail_eq_ok]
    rfl

/-- A body that is read is spelled by the grammar, with the property as it is written and the
attributes that are given. -/
theorem spelled_of_parse {p : Placeholder} (h : parse body = .ok p) :
    Spelled (written body) (given body) body := by
  obtain ⟨hplain, hblank, htail, -⟩ := of_parse_eq_ok h
  have hfirst : ∀ c ∈ (head body).head?, isPadding c = false :=
    fun c hc => Text.head?_dropWhile (Text.head?_of_start (List.takeWhile_prefix _) hc)
  have hskip : skipPadding (padding body ++ head body) = head body :=
    skipPadding_takeWhile_append hfirst
  have hcore : core (padding body ++ head body) = written body := by
    rw [core, hskip, written]
  have hproperty : IsHead (padding body ++ head body) := by
    refine ⟨?_, fun c hc => ?_, ?_⟩
    · rw [hcore, written, Ne, Text.trim_eq_nil_iff, hblank]
      decide
    · rcases List.mem_append.mp hc with hpadding | hmem
      · have hpad : isPadding c = true := List.mem_takeWhile_imp hpadding
        have hcomma : c ≠ ',' := by
          rintro rfl
          exact absurd hpad (by decide)
        have hcolon : c ≠ ':' := by
          rintro rfl
          exact absurd hpad (by decide)
        simp [inProperty, hcomma, hcolon]
      · exact List.mem_takeWhile_imp hmem
    · rw [hskip]
      exact fun hopen => hplain (Text.head?_of_start (List.takeWhile_prefix _) hopen)
  have hrest : TailSpelled (given body) ((skipPadding body).dropWhile inProperty) :=
    tailSpelled_of_tail (fun _ hc => Text.head?_dropWhile hc) htail
  have hspelled := Spelled.mk hproperty hrest
  have hbody : padding body ++ head body ++ (skipPadding body).dropWhile inProperty = body := by
    rw [List.append_assoc, head, List.takeWhile_append_dropWhile, padding, skipPadding,
      List.takeWhile_append_dropWhile]
  rwa [hcore, hbody] at hspelled

/-- The reader accepts exactly the bodies of the grammar. -/
theorem exists_parse_iff : (∃ p, parse body = .ok p) ↔
    ∃ property attributes, Spelled property attributes body :=
  ⟨fun ⟨_, h⟩ => ⟨_, _, spelled_of_parse h⟩, fun ⟨_, _, h⟩ => ⟨_, h.parse_eq_ok⟩⟩

end Placeholder

end SqlTemplate
