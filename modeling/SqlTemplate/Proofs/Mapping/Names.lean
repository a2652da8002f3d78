import SqlTemplate.Proofs.Mapping.Reading
import SqlTemplate.Proofs.Render.Renaming

/-!
# Placeholders that start with a name

A placeholder is renamed before it is read. So what renaming takes for the name at the start of a
body has to be what reading takes for the first name of the property. The two agree unless the
body is padded with control characters that are no blanks.
-/

namespace SqlTemplate

open Delimiters LoopScope Placeholder

namespace LoopScope

/-- A text made of the characters of names. -/
structure IsWord (word : Text) : Prop where
  ne_nil : word ≠ []
  chars : ∀ c ∈ word, isNameChar c = true

/-- The name of a loop variable is a word. -/
theorem IsName.isWord {name : String} (h : IsName name) : IsWord name.toList := ⟨h.ne_nil, h.chars⟩

/-- A name for a pass is a word. -/
theorem IsName.isWord_passName {name : String} (h : IsName name) (id : Nat) :
    IsWord (passName name id).toList := by
  refine ⟨?_, h.chars_passName id⟩
  rw [toList_passName]
  exact List.cons_ne_nil _ _

namespace IsWord

variable {word rest blanks : Text}

/-- No other character is in a word. -/
theorem not_mem (h : IsWord word) {c : Char} (hc : isNameChar c = false) : c ∉ word := by
  intro hmem
  rw [h.chars c hmem] at hc
  cases hc

/-- A text that starts with a word starts with a character of names. -/
theorem head? (h : IsWord word) {c : Char} (hc : c ∈ (word ++ rest).head?) :
    isNameChar c = true := by
  rcases Text.head?_append_cases hc with hfirst | ⟨rfl, -⟩
  · exact h.chars c (List.mem_of_mem_head? hfirst)
  · exact absurd rfl h.ne_nil

/-- Trimming keeps a word, and the blanks before it are gone. -/
theorem trim_append (h : IsWord word) (hblanks : ∀ c ∈ blanks, isBlank c = true) (rest : Text) :
    Text.trim (blanks ++ (word ++ rest)) = word ++ Text.trimEnd rest := by
  have hstart : Text.trimStart (word ++ rest) = word ++ rest :=
    Text.trimStart_eq_self fun c hc => isBlank_of_isNameChar (h.head? hc)
  have hlast := List.getLast?_eq_some_getLast h.ne_nil
  have hblank := isBlank_of_isNameChar (h.chars _ (List.getLast_mem h.ne_nil))
  rw [Text.trim, Text.trimStart_append hblanks, hstart, Text.trimEnd_append hlast hblank]

/-- No character of a word lets a path go on. -/
theorem not_goesOn (h : IsWord word) {c : Char} (hc : c ∈ word) : (!Path.goesOn c) = true := by
  have hdot := ne_of_isNameChar (h.chars c hc) (by decide : isNameChar '.' = false)
  have hbracket := ne_of_isNameChar (h.chars c hc) (by decide : isNameChar '[' = false)
  simp [Path.goesOn, hdot, hbracket]

/-- Every character of a word belongs to the property. -/
theorem inProperty (h : IsWord word) {c : Char} (hc : c ∈ word) :
    Placeholder.inProperty c = true := by
  have hcomma := ne_of_isNameChar (h.chars c hc) (by decide : isNameChar ',' = false)
  have hcolon := ne_of_isNameChar (h.chars c hc) (by decide : isNameChar ':' = false)
  simp [Placeholder.inProperty, hcomma, hcolon]

/-- The first name of a path starts with a word that the path starts with. What else there is in it,
and what is beyond it, comes from what follows the word. -/
theorem splitRoot_append (h : IsWord word) (rest : Text) :
    Path.splitRoot (word ++ rest) =
      (word ++ Text.trimEnd (rest.trimEnd.takeWhile (!Path.goesOn ·)),
        Path.beyond rest.trimEnd) := by
  have htrim (more : Text) : Text.trim (word ++ more) = word ++ more.trimEnd :=
    h.trim_append (List.forall_mem_nil _) more
  have hroot : Path.root (word ++ rest.trimEnd) =
      word ++ Text.trimEnd (rest.trimEnd.takeWhile (!Path.goesOn ·)) := by
    rw [Path.root, List.takeWhile_append_of_pos fun c hc => h.not_goesOn hc, htrim]
  rw [Path.splitRoot_eq, htrim, hroot, Path.beyond,
    List.dropWhile_append_of_pos fun c hc => h.not_goesOn hc]
  rfl

/-- A word at the start of a body is not skipped. -/
theorem skipPadding_append (h : IsWord word) (blanks rest : Text) :
    skipPadding (blanks ++ (word ++ rest)) = blanks.dropWhile isPadding ++ (word ++ rest) :=
  skipPadding_append_of_head (fun _ hc => isPadding_of_isNameChar (h.head? hc)) blanks

/-- Padding ends before a word. -/
theorem blank_padding (h : IsWord word) (hblanks : ∀ c ∈ blanks, isBlank c = true) (rest : Text) :
    (padding (blanks ++ (word ++ rest))).blank = true := by
  have hnone : (word ++ rest).takeWhile isPadding = [] := by
    rw [List.takeWhile_eq_nil_iff]
    intro hlength
    have hhead : (word ++ rest)[0] ∈ (word ++ rest).head? := by
      rw [List.head?_eq_getElem?, List.getElem?_eq_getElem hlength]
      rfl
    simp [isPadding_of_isNameChar (h.head? hhead)]
  refine List.all_eq_true.mpr fun c hc => hblanks c ?_
  rw [padding, List.takeWhile_append, hnone, List.append_nil] at hc
  split at hc
  · exact hc
  · exact (List.takeWhile_prefix _).subset hc

/-- The property behind blanks starts with the word there. -/
theorem written_append (h : IsWord word) (hblanks : ∀ c ∈ blanks, isBlank c = true) (rest : Text) :
    written (blanks ++ (word ++ rest)) =
      word ++ Text.trimEnd (rest.takeWhile Placeholder.inProperty) := by
  have hdrop : ∀ c ∈ blanks.dropWhile isPadding, isBlank c = true := fun c hc =>
    hblanks c ((List.dropWhile_suffix _).subset hc)
  rw [written, head, h.skipPadding_append,
    List.takeWhile_append_of_pos fun c hc => inProperty_of_isBlank (hdrop c hc),
    List.takeWhile_append_of_pos fun c hc => h.inProperty hc, h.trim_append hdrop]

/-- The attributes come from what follows the word. -/
theorem given_append (h : IsWord word) (hblanks : ∀ c ∈ blanks, isBlank c = true) (rest : Text) :
    given (blanks ++ (word ++ rest)) =
      (tail 0 (rest.dropWhile Placeholder.inProperty)).toOption.getD [] := by
  have hdrop : ∀ c ∈ blanks.dropWhile isPadding, isBlank c = true := fun c hc =>
    hblanks c ((List.dropWhile_suffix _).subset hc)
  rw [given, h.skipPadding_append,
    List.dropWhile_append_of_pos fun c hc => inProperty_of_isBlank (hdrop c hc),
    List.dropWhile_append_of_pos fun c hc => h.inProperty hc]

/-- A body that consists of a word is a property without attributes. -/
theorem parse_eq (h : IsWord word) : parse word = .ok ⟨[("property".toList, word)]⟩ := by
  have hsolid : ∀ c ∈ word, isBlank c = false := fun c hc => isBlank_of_isNameChar (h.chars c hc)
  have hcontent : skipPadding word = word := by
    have hskip := h.skipPadding_append [] []
    rwa [List.append_nil] at hskip
  have hopen : word.head? ≠ some '(' := fun hhead =>
    h.not_mem (by decide : isNameChar '(' = false) (List.mem_of_mem_head? hhead)
  have hspan : Text.spanWhile (fun c => decide (c ≠ ',') && decide (c ≠ ':')) word =
      (word, []) := by
    have hnone : ∀ c ∈ ([] : Text).head?, Placeholder.inProperty c = false := fun _ hc => nomatch hc
    have hall := Text.spanWhile_append (fun c hc => h.inProperty hc) hnone
    rwa [List.append_nil] at hall
  have hblank : Text.blank word = false := by
    obtain ⟨c, hc⟩ := List.exists_mem_of_ne_nil word h.ne_nil
    exact List.all_eq_false.mpr ⟨c, hc, by simp [hsolid c hc]⟩
  simp only [parse, hcontent, if_neg hopen, hspan, hblank, Text.trim_of_solid hsolid]
  rfl

end IsWord

/-- A name that is found in a body stands behind blanks, and is followed by what is found behind
it. -/
theorem exists_of_afterName? {name : String} {body rest : Text}
    (h : afterName? name body = some rest) :
    ∃ blanks, (∀ c ∈ blanks, isBlank c = true) ∧ body = blanks ++ (name.toList ++ rest) := by
  obtain ⟨hsplit, -⟩ := afterName?_eq_some.mp h
  refine ⟨body.takeWhile isBlank, fun _ hc => List.mem_takeWhile_imp hc, ?_⟩
  rw [← hsplit]
  exact List.takeWhile_append_dropWhile.symm

/-- A body starts with one name at most. -/
theorem name_eq_of_afterName? {first second : String} (hfirst : IsName first)
    (hsecond : IsName second) {body rest more : Text} (hrest : afterName? first body = some rest)
    (hmore : afterName? second body = some more) : first = second := by
  obtain ⟨hsplit, hends⟩ := afterName?_eq_some.mp hrest
  obtain ⟨hsplit', hends'⟩ := afterName?_eq_some.mp hmore
  -- What one name has beyond the other one would have to end that one.
  have hshort {name other rest : Text} {part : Text} (hother : IsWord other)
      (hparts : other = name ++ part) (hrest : ∀ c ∈ (part ++ rest).head?, endsName c = true) :
      name = other := by
    cases part with
    | nil => rw [hparts, List.append_nil]
    | cons c part =>
      have hc := endsName_of_isNameChar (hother.chars c (by rw [hparts]; simp))
      rw [hrest c rfl] at hc
      cases hc
  rcases List.append_eq_append_iff.mp (hsplit.symm.trans hsplit') with
    ⟨part, hparts, htail⟩ | ⟨part, hparts, htail⟩
  · exact String.toList_inj.mp (hshort hsecond.isWord hparts (htail ▸ hends))
  · exact (String.toList_inj.mp (hshort hfirst.isWord hparts (htail ▸ hends'))).symm

variable {name : String} {body rest : Text}

/-- A name is found in the body that consists of it. -/
theorem IsName.afterName?_self {name : String} (h : IsName name) :
    afterName? name name.toList = some [] := by
  have hstart : Text.trimStart name.toList = name.toList :=
    Text.trimStart_eq_self fun c hc => isBlank_of_isNameChar (h.chars c (List.mem_of_mem_head? hc))
  refine afterName?_eq_some.mpr ⟨by rw [hstart, List.append_nil], fun c hc => ?_⟩
  cases hc

/-- The variables of a loop leave other names alone. -/
theorem Named.rename_of_other {scope : LoopScope} (hscope : scope.Named) {name : String}
    (hname : IsName name) (hitem : scope.item ≠ some name) (hindex : scope.index ≠ some name) :
    scope.rename name.toList = name.toList := by
  have hsame {other : String} {rest : Text} (hother : IsName other)
      (hrest : afterName? other name.toList = some rest) : other = name :=
    name_eq_of_afterName? hother hname hrest hname.afterName?_self
  rcases rename_cases scope name.toList with ⟨other, rest, hsome, hrest, -⟩ |
    ⟨-, ⟨other, rest, hsome, hrest, -⟩ | ⟨-, hrename⟩⟩
  · obtain rfl := hsame (hscope.item other hsome) hrest
    exact absurd hsome hitem
  · obtain rfl := hsame (hscope.index other hsome) hrest
    exact absurd hsome hindex
  · exact hrename

/-- A name that is found before the escapes are resolved is there afterwards, behind the same
blanks. -/
theorem IsName.exists_unescape (hname : IsName name) (h : afterName? name body = some rest) :
    ∃ blanks, (∀ c ∈ blanks, isBlank c = true) ∧
      parameter.unescape body = blanks ++ (name.toList ++ parameter.unescape rest) := by
  obtain ⟨blanks, hblanks, rfl⟩ := exists_of_afterName? h
  refine ⟨blanks, hblanks, ?_⟩
  have hslash : '\\' ∉ blanks := fun hmem => absurd (hblanks _ hmem) (by decide)
  rw [unescape_append hslash, unescape_append (hname.isWord.not_mem (by decide))]

/-- Before a name that renaming finds there is no padding but blanks. -/
theorem IsName.blank_padding (hname : IsName name) (h : afterName? name body = some rest) :
    (padding (parameter.unescape body)).blank = true := by
  obtain ⟨blanks, hblanks, hbody⟩ := hname.exists_unescape h
  rw [hbody]
  exact hname.isWord.blank_padding hblanks _

/-- Renaming finds the first name of the property, if there is no padding but blanks. -/
theorem IsName.exists_afterName? (hname : IsName name)
    (hpadding : (padding (parameter.unescape body)).blank = true)
    (hroot : (Path.splitRoot (written (parameter.unescape body))).1 = name.toList) :
    ∃ rest, afterName? name body = some rest := by
  obtain ⟨after, hbody, hends⟩ := Placeholder.exists_root_append hpadding
  rw [trimStart_unescape, hroot] at hbody
  obtain ⟨rest, hrest, rfl⟩ := exists_append_of_unescape hbody (hname.isWord.not_mem (by decide))
  refine ⟨rest, afterName?_eq_some.mpr ⟨hrest, fun c hc => ?_⟩⟩
  rcases head?_unescape rest with hsame | hbrace
  · exact hends c (hsame ▸ hc)
  · exact absurd (hends '}' hbrace) (by decide)

/-- A renamed placeholder is read like the one it comes from, with the name for the pass in place of
the first name. -/
theorem IsName.read_renamed {renamed : Text} {id : Nat} (hname : IsName name)
    (h : afterName? name body = some rest)
    (hroot : (Path.splitRoot (written (parameter.unescape body))).1 = name.toList)
    (hrenamed : renamed = (passName name id).toList ++ rest) :
    given (parameter.unescape renamed) = given (parameter.unescape body) ∧
      Path.splitRoot (written (parameter.unescape renamed)) =
        ((passName name id).toList, (Path.splitRoot (written (parameter.unescape body))).2) := by
  obtain ⟨blanks, hblanks, hbody⟩ := hname.exists_unescape h
  have hword := hname.isWord_passName id
  have hnone : ∀ c ∈ ([] : Text), isBlank c = true := List.forall_mem_nil _
  have hresolved : parameter.unescape renamed =
      [] ++ ((passName name id).toList ++ parameter.unescape rest) := by
    rw [hrenamed]
    exact unescape_append (hword.not_mem (by decide)) rest
  rw [hbody, hname.isWord.written_append hblanks, hname.isWord.splitRoot_append] at hroot
  have hmore := List.append_right_eq_self.mp hroot
  rw [hresolved, hbody]
  constructor
  · rw [hword.given_append hnone, hname.isWord.given_append hblanks]
  · rw [hword.written_append hnone, hname.isWord.written_append hblanks, hword.splitRoot_append,
      hname.isWord.splitRoot_append, hmore, List.append_nil]

end LoopScope

end SqlTemplate
