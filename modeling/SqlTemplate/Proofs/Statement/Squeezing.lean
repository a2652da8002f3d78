import SqlTemplate.Proofs.Trimming
import SqlTemplate.Statement.Prepared

/-!
# The words of a text

A text without superfluous blanks is made up of its words, with one space between them. Collapsing
every run of blanks and trimming the ends comes to the same.
-/

namespace SqlTemplate

namespace Text

/-- The words of a text: what stands between its blanks. -/
def words (text : Text) : List Text := (text.splitOnP isBlank).filter fun piece => !piece.isEmpty

/-- The text with one space for every run of blanks, and none at its ends. -/
def squeeze (text : Text) : Text := [' '].intercalate text.words

/-- Words behind another one, each of them behind a space. -/
def spaced (words : List Text) : Text := words.flatMap (' ' :: ·)

/-- Behind the first word every word stands behind a space. -/
theorem intercalate_cons (word : Text) (words : List Text) :
    [' '].intercalate (word :: words) = word ++ spaced words := by
  induction words generalizing word with
  | nil => simp [spaced]
  | cons next words ih =>
    rw [List.intercalate_cons_cons, ih next]
    simp [spaced]

/-- A character stays when the end behind it is trimmed, unless it is a blank behind which nothing
is left. -/
theorem trimEnd_cons (c : Char) (text : Text) :
    trimEnd (c :: text) =
      if (trimEnd text).isEmpty && isBlank c then [] else c :: trimEnd text := by
  rw [trimEnd, List.reverse_cons, List.dropWhile_append, trimEnd, List.isEmpty_reverse]
  cases hrest : (text.reverse.dropWhile isBlank).isEmpty with
  | false => simp
  | true =>
    have hnil := List.isEmpty_iff.mp hrest
    cases hc : isBlank c with
    | true => simp [hc]
    | false => simp [hc, hnil]

end Text

namespace Prepared

open Text

/-- Behind a space a text is collapsed to one that starts with no blank. -/
theorem head?_collapse {text : Text} {c : Char} (h : c ∈ (collapse true text).head?) :
    isBlank c = false := by
  induction text with
  | nil => cases h
  | cons e rest ih =>
    rw [collapse] at h
    split at h
    · exact ih h
    · rename_i he
      obtain rfl : e = c := by simpa using h
      simpa using he

/-- A collapsed text without its blanks at the start is one collapsed behind a space. -/
theorem trimStart_collapse (text : Text) :
    trimStart (collapse false text) = collapse true text := by
  have hstart : trimStart (collapse true text) = collapse true text :=
    trimStart_eq_self fun _ => head?_collapse
  cases text with
  | nil => rfl
  | cons c rest =>
    cases hc : isBlank c with
    | true =>
      simp only [collapse, hc, if_true, Bool.false_eq_true, if_false] at hstart ⊢
      exact (List.dropWhile_cons_of_pos isBlank_space).trans hstart
    | false =>
      simp only [collapse, hc, Bool.false_eq_true, if_false] at hstart ⊢
      exact hstart

/-- Behind a space a text is collapsed to its words, and behind anything else to what stands up to
its first blank and the words behind that. Only the end has to be trimmed. -/
theorem trimEnd_collapse (text : Text) :
    trimEnd (collapse true text) = squeeze text ∧
      ∀ first rest, text.splitOnP isBlank = first :: rest →
        trimEnd (collapse false text) =
          first ++ spaced (rest.filter fun piece => !piece.isEmpty) := by
  induction text with
  | nil =>
    refine ⟨rfl, fun first rest h => ?_⟩
    obtain ⟨rfl, rfl⟩ := List.cons.inj (List.splitOnP_nil.symm.trans h)
    rfl
  | cons c text ih =>
    obtain ⟨hbehind, hinside⟩ := ih
    rw [squeeze, words, List.splitOnP_cons_eq_if_modifyHead]
    cases hc : isBlank c with
    | true =>
      simp only [collapse, hc, if_true, Bool.false_eq_true, if_false]
      refine ⟨hbehind, fun first rest h => ?_⟩
      obtain ⟨rfl, rfl⟩ := List.cons.inj h
      change _ = spaced (words text)
      rw [trimEnd_cons, hbehind, squeeze]
      -- A word has a character, so the space goes only where there is no word behind it.
      cases hwords : words text with
      | nil => rfl
      | cons word rest =>
        have hword : word ≠ [] := by
          have hmem : word ∈ words text := hwords ▸ List.mem_cons_self
          simpa using (List.mem_filter.mp hmem).2
        rw [intercalate_cons, if_neg (by simp [hword])]
        rfl
    | false =>
      simp only [collapse, hc, Bool.false_eq_true, if_false, trimEnd_cons, Bool.and_false]
      obtain ⟨start, pieces, hsplit⟩ :=
        List.exists_cons_of_ne_nil (List.splitOnP_ne_nil isBlank text)
      rw [hsplit, List.modifyHead_cons, hinside start pieces hsplit]
      refine ⟨(intercalate_cons (c :: start) _).symm, fun first rest h => ?_⟩
      obtain ⟨rfl, rfl⟩ := List.cons.inj h
      rfl

/-- Collapsing and trimming leaves the words of a text, with one space between them. -/
theorem trim_collapse (text : Text) : trim (collapse false text) = squeeze text := by
  rw [trim, trimStart_collapse]
  exact (trimEnd_collapse text).1

end Prepared

end SqlTemplate
