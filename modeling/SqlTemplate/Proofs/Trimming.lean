import Mathlib.Data.List.DropRight
import SqlTemplate.Text

/-!
# Trimming

Trimming leaves a text that neither starts nor ends with a blank. What stands before the last
character that is no blank does not matter at the end, and what stands after the first one does not
matter at the start.
-/

namespace SqlTemplate.Text

/-- The first character of the start of a text is that of the text. -/
theorem head?_of_start {start text : Text} (h : start <+: text) {c : Char}
    (hc : c ∈ start.head?) : c ∈ text.head? := by
  obtain ⟨rest, rfl⟩ := h
  rw [List.head?_append, Option.mem_def.mp hc]
  rfl

/-- The first character of a text in two parts is that of the first part, or of the second. -/
theorem head?_append_cases {first second : Text} {c : Char} (h : c ∈ (first ++ second).head?) :
    c ∈ first.head? ∨ first = [] ∧ c ∈ second.head? := by
  cases first with
  | nil => exact .inr ⟨rfl, h⟩
  | cons e first => exact .inl h

/-- What is dropped before a character ends there. -/
theorem head?_dropWhile {p : Char → Bool} {text : Text} {c : Char}
    (h : c ∈ (text.dropWhile p).head?) : p c = false := by
  have hnot := List.head?_dropWhile_not p text
  rw [Option.mem_def.mp h] at hnot
  simpa using hnot

/-- A text whose characters all satisfy `p` is dropped up to what follows it. -/
theorem dropWhile_append_of_head {p : Char → Bool} {before rest : Text}
    (hbefore : ∀ c ∈ before, p c = true) (hrest : ∀ c ∈ rest.head?, p c = false) :
    (before ++ rest).dropWhile p = rest := by
  rw [List.dropWhile_append_of_pos hbefore]
  cases rest with
  | nil => rfl
  | cons c rest => rw [List.dropWhile_cons_of_neg (by simp [hrest c rfl])]

/-- A span ends before what does not go on with it. -/
theorem spanWhile_append {p : Char → Bool} {before rest : Text}
    (hbefore : ∀ c ∈ before, p c = true) (hrest : ∀ c ∈ rest.head?, p c = false) :
    spanWhile p (before ++ rest) = (before, rest) := by
  rw [spanWhile, dropWhile_append_of_head hbefore hrest, List.takeWhile_append_of_pos hbefore]
  cases rest with
  | nil => simp
  | cons c rest => simp [hrest c rfl]

/-- A text that starts with no blank is not trimmed there. -/
theorem trimStart_eq_self {text : Text} (h : ∀ c ∈ text.head?, isBlank c = false) :
    trimStart text = text := dropWhile_append_of_head (List.forall_mem_nil _) h

/-- Blanks before a text are trimmed with its own. -/
theorem trimStart_append {before : Text} (h : ∀ c ∈ before, isBlank c = true) (rest : Text) :
    trimStart (before ++ rest) = trimStart rest := List.dropWhile_append_of_pos h

/-- A trimmed text starts with no blank. -/
theorem head?_trimStart {text : Text} {c : Char} (h : c ∈ (trimStart text).head?) :
    isBlank c = false := head?_dropWhile h

/-- The blanks at the end of a text stand behind what is left of it. -/
theorem exists_trimEnd_append (text : Text) :
    ∃ blanks, text = trimEnd text ++ blanks ∧ ∀ c ∈ blanks, isBlank c = true :=
  ⟨text.rtakeWhile isBlank, (List.rdropWhile_append_rtakeWhile ..).symm,
    fun _ => List.mem_rtakeWhile_imp⟩

/-- Trimming the end leaves a start of the text. -/
theorem trimEnd_start (text : Text) : trimEnd text <+: text := List.rdropWhile_prefix ..

/-- A text that ends with no blank stays when the end of what follows it is trimmed. -/
theorem trimEnd_append {start : Text} {c : Char} (hlast : start.getLast? = some c)
    (hc : isBlank c = false) (rest : Text) : trimEnd (start ++ rest) = start ++ trimEnd rest := by
  obtain ⟨start, rfl⟩ := List.getLast?_eq_some_iff.mp hlast
  have hstart : (start ++ [c]).reverse.dropWhile isBlank = (start ++ [c]).reverse := by
    rw [List.reverse_append, List.reverse_singleton, List.singleton_append,
      List.dropWhile_cons_of_neg (by simp [hc])]
  rw [trimEnd, List.reverse_append, List.dropWhile_append, hstart]
  split
  · rename_i hblank
    rw [trimEnd, List.isEmpty_iff.mp hblank]
    simp
  · rw [List.reverse_append, List.reverse_reverse]
    rfl

/-- A text whose last character is no blank. -/
def EndsSolid (text : Text) : Prop := ∃ c ∈ text.getLast?, isBlank c = false

/-- What is solid at the end stays so behind another text. -/
theorem EndsSolid.append {text : Text} (h : text.EndsSolid) (before : Text) :
    (before ++ text).EndsSolid := by
  obtain ⟨c, hc, hsolid⟩ := h
  refine ⟨c, ?_, hsolid⟩
  rw [List.getLast?_append, Option.mem_def.mp hc]
  rfl

/-- The end of a text in two parts is that of the second one, if there is one. -/
theorem EndsSolid.of_append (before : Text) {text : Text} (h : (before ++ text).EndsSolid)
    (htext : text ≠ []) : text.EndsSolid := by
  obtain ⟨c, hc, hsolid⟩ := h
  refine ⟨c, ?_, hsolid⟩
  rwa [List.getLast?_append, List.getLast?_eq_some_getLast htext, Option.some_or,
    ← List.getLast?_eq_some_getLast htext] at hc

/-- A text that is solid at the end is not trimmed there. -/
theorem EndsSolid.trimEnd_eq {text : Text} (h : text.EndsSolid) : trimEnd text = text := by
  obtain ⟨c, hc, hsolid⟩ := h
  have htrim := trimEnd_append hc hsolid []
  rw [List.append_nil] at htrim
  exact htrim.trans (List.append_nil text)

/-- A trimmed text is solid at the end, if anything is left of it. -/
theorem endsSolid_trimEnd {text : Text} (h : trimEnd text ≠ []) : (trimEnd text).EndsSolid := by
  have hlast := List.rdropWhile_last_not isBlank text h
  exact ⟨_, List.getLast?_eq_some_getLast h, Bool.not_eq_true _ ▸ hlast⟩

/-- A trimmed text starts with no blank. -/
theorem head?_of_trim {text : Text} (h : trim text = text) :
    ∀ c ∈ text.head?, isBlank c = false := by
  intro c hc
  rw [← h] at hc
  exact head?_trimStart (head?_of_start (trimEnd_start _) hc)

/-- A trimmed text ends with no blank, if anything is left of it. -/
theorem endsSolid_of_trim {text : Text} (h : trim text = text) (hne : text ≠ []) :
    text.EndsSolid := by
  rw [← h] at hne ⊢
  exact endsSolid_trimEnd hne

/-- A text that is solid at the end is not blank. -/
theorem EndsSolid.blank_eq {text : Text} (h : text.EndsSolid) : text.blank = false := by
  obtain ⟨c, hc, hsolid⟩ := h
  rw [blank, List.all_eq_false]
  exact ⟨c, List.mem_of_getLast? hc, by simp [hsolid]⟩

/-- A trimmed text is not trimmed at its start. -/
theorem trimStart_of_trim {text : Text} (h : trim text = text) : trimStart text = text :=
  trimStart_eq_self (head?_of_trim h)

/-- A trimmed text is not trimmed at its end. -/
theorem trimEnd_of_trim {text : Text} (h : trim text = text) : trimEnd text = text := by
  rwa [trim, trimStart_of_trim h] at h

/-- A text is trimmed if it has no blank at either end. -/
theorem trim_eq_self {text : Text} (hstart : ∀ c ∈ text.head?, isBlank c = false)
    (hend : text ≠ [] → text.EndsSolid) : trim text = text := by
  rw [trim, trimStart_eq_self hstart]
  by_cases hne : text = []
  · rw [hne]
    rfl
  · exact (hend hne).trimEnd_eq

/-- A text without blanks is not trimmed. -/
theorem trim_of_solid {text : Text} (h : ∀ c ∈ text, isBlank c = false) : trim text = text :=
  trim_eq_self (fun c hc => h c (List.mem_of_mem_head? hc)) fun hne =>
    ⟨_, List.getLast?_eq_some_getLast hne, h _ (List.getLast_mem hne)⟩

/-- A text is trimmed once. -/
theorem trim_trim (text : Text) : trim (trim text) = trim text :=
  trim_eq_self (fun _ hc => head?_trimStart (head?_of_start (trimEnd_start _) hc)) endsSolid_trimEnd

/-- Nothing is left of a text exactly if it holds blanks only. -/
theorem trim_eq_nil_iff {text : Text} : trim text = [] ↔ text.blank = true := by
  have hend : trim text = [] ↔ ∀ c ∈ trimStart text, isBlank c = true :=
    List.rdropWhile_eq_nil_iff
  rw [hend, blank, List.all_eq_true]
  constructor
  · intro h
    cases hstart : trimStart text with
    | nil => exact List.dropWhile_eq_nil_iff.mp hstart
    | cons c rest =>
      have hblank := h c (by simp [hstart])
      have hhead : c ∈ (trimStart text).head? := by
        rw [hstart]
        rfl
      have hsolid := head?_trimStart hhead
      rw [hblank] at hsolid
      cases hsolid
  · intro h c hc
    exact h c ((List.dropWhile_suffix _).subset hc)

/-- Blanks behind a text are trimmed at its end. -/
theorem trimEnd_append_blanks {after : Text} (h : ∀ c ∈ after, isBlank c = true) (text : Text) :
    trimEnd (text ++ after) = trimEnd text := by
  rw [trimEnd, List.reverse_append,
    List.dropWhile_append_of_pos fun c hc => h c (List.mem_reverse.mp hc), trimEnd]

/-- Blanks behind a text are trimmed with its own. -/
theorem trim_append {after : Text} (h : ∀ c ∈ after, isBlank c = true) (text : Text) :
    trim (text ++ after) = trim text := by
  rw [trim, trim, trimStart, trimStart, List.dropWhile_append]
  split
  · rename_i hempty
    rw [List.dropWhile_eq_nil_iff.mpr h, List.isEmpty_iff.mp hempty]
  · exact trimEnd_append_blanks h _

/-- Blanks stand around what trimming leaves of a text. -/
theorem exists_trim_append (text : Text) :
    ∃ leading trailing, text = leading ++ trim text ++ trailing ∧
      (∀ c ∈ leading, isBlank c = true) ∧ ∀ c ∈ trailing, isBlank c = true := by
  obtain ⟨trailing, htrailing, hblanks⟩ := exists_trimEnd_append (trimStart text)
  refine ⟨text.takeWhile isBlank, trailing, ?_, fun c hc => List.mem_takeWhile_imp hc, hblanks⟩
  rw [trim, List.append_assoc, ← htrailing]
  exact List.takeWhile_append_dropWhile.symm

end SqlTemplate.Text
