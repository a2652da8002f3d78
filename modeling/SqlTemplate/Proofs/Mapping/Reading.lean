import SqlTemplate.Path
import SqlTemplate.Placeholder
import SqlTemplate.Proofs.Results
import SqlTemplate.Proofs.Trimming
import SqlTemplate.Render.Layer

/-!
# Reading placeholders

A body starts with padding, then comes the property as it is written, up to the first comma or
colon, and then the attributes that are given. The property starts with the name that its path
starts with.
-/

namespace SqlTemplate

open Results

namespace Placeholder

/-- Whether the property goes on with the character. -/
def inProperty (c : Char) : Bool := c ≠ ',' && c ≠ ':'

/-- The characters before the property. -/
def padding (body : Text) : Text := body.takeWhile isPadding

/-- The property as it is written, with the blanks behind it. -/
def head (body : Text) : Text := (skipPadding body).takeWhile inProperty

/-- The property as it is written. -/
def written (body : Text) : Text := (head body).trim

/-- The attributes that are given, none if they cannot be read. -/
def given (body : Text) : List (Text × Text) :=
  (tail 0 ((skipPadding body).dropWhile inProperty)).toOption.getD []

/-- The entries after attributes have been put in place one after the other. -/
def insertAll (attributes entries : List (Text × Text)) : List (Text × Text) :=
  attributes.foldl (fun all (key, value) => insert key value all) entries

/-- Padding ends before a character that is none. -/
theorem skipPadding_append_of_head {text : Text} (h : ∀ c ∈ text.head?, isPadding c = false)
    (before : Text) : skipPadding (before ++ text) = before.dropWhile isPadding ++ text := by
  have hstay : text.dropWhile isPadding = text :=
    Text.dropWhile_append_of_head (List.forall_mem_nil _) h
  rw [skipPadding, List.dropWhile_append, hstay]
  split
  · rename_i hempty
    rw [List.isEmpty_iff.mp hempty, List.nil_append]
  · rfl

/-- Attributes are read alike wherever they stand. -/
theorem attributes_of_ok {m n : Nat} {pieces : List Text} {entries : List (Text × Text)}
    (h : attributes m pieces = .ok entries) : attributes n pieces = .ok entries := by
  induction pieces generalizing m n entries with
  | nil => exact h
  | cons piece more ih =>
    rw [attributes] at h ⊢
    by_cases hempty : ((skipPadding piece).isEmpty && more.isEmpty) = true
    · rw [if_pos hempty] at h ⊢
      exact h
    · rw [if_neg hempty] at h ⊢
      cases hspan : Text.spanWhile (· ≠ '=') (skipPadding piece) with
      | mk key rest =>
        rw [hspan] at h
        cases rest with
        | nil => cases h
        | cons c value =>
          by_cases hblank : key.blank = true
          · simp only [hblank, if_true] at h
            cases h
          · simp only [hblank] at h ⊢
            obtain ⟨others, hothers, rfl⟩ := map_eq_ok.mp h
            exact map_eq_ok.mpr ⟨others, ih hothers, rfl⟩

/-- What stands behind a comma is read alike wherever it stands. -/
theorem trailing_of_ok {m n : Nat} {text : Text} {entries : List (Text × Text)}
    (h : trailing m text = .ok entries) : trailing n text = .ok entries := by
  cases text with
  | nil => exact h
  | cons c rest => exact attributes_of_ok h

/-- What follows the property is read alike wherever it stands. -/
theorem tail_of_ok {m n : Nat} {text : Text} {entries : List (Text × Text)}
    (h : tail m text = .ok entries) : tail n text = .ok entries := by
  unfold tail at h ⊢
  split at h
  · rename_i rest
    dsimp only at h ⊢
    split at h
    · cases h
    · rename_i hblank
      rw [if_neg hblank]
      obtain ⟨others, hothers, rfl⟩ := map_eq_ok.mp h
      exact map_eq_ok.mpr ⟨others, trailing_of_ok hothers, rfl⟩
  · exact trailing_of_ok h

/-- The first entry counts if it has the key. -/
theorem lookup_cons (key other value : Text) (rest : List (Text × Text)) :
    List.lookup other ((key, value) :: rest) =
      if other = key then some value else rest.lookup other := by
  by_cases h : other = key
  · simp [h]
  · rw [List.lookup_cons, beq_eq_false_iff_ne.mpr h, if_neg h]

/-- The value put in place is found, and no value under another key is touched. -/
theorem lookup_insert (key other value : Text) (entries : List (Text × Text)) :
    (insert key value entries).lookup other =
      if other = key then some value else entries.lookup other := by
  induction entries with
  | nil => exact lookup_cons key other value []
  | cons entry rest ih =>
    obtain ⟨first, old⟩ := entry
    rw [insert]
    by_cases hfirst : first = key
    · rw [if_pos hfirst, lookup_cons, lookup_cons, hfirst]
      by_cases h : other = key
      · rw [if_pos h, if_pos h]
      · rw [if_neg h, if_neg h, if_neg h]
    · rw [if_neg hfirst, lookup_cons, lookup_cons, ih]
      by_cases h : other = first
      · rw [if_pos h, if_pos h, if_neg (fun hkey => hfirst (h.symm.trans hkey))]
      · rw [if_neg h, if_neg h]

/-- A value under a new key goes behind the others. -/
theorem insert_of_not_mem {key : Text} {entries : List (Text × Text)}
    (h : key ∉ entries.map Prod.fst) (value : Text) :
    insert key value entries = entries ++ [(key, value)] := by
  induction entries with
  | nil => rfl
  | cons entry rest ih =>
    rw [List.map_cons, List.mem_cons, not_or] at h
    rw [insert, if_neg (Ne.symm h.1), ih h.2, List.cons_append]

/-- Attributes with other keys do not touch a value. -/
theorem lookup_insertAll_of_ne {key : Text} {attributes : List (Text × Text)}
    (h : ∀ entry ∈ attributes, entry.1 ≠ key) (entries : List (Text × Text)) :
    (insertAll attributes entries).lookup key = entries.lookup key := by
  induction attributes generalizing entries with
  | nil => rfl
  | cons entry rest ih =>
    obtain ⟨other, value⟩ := entry
    obtain ⟨hother, hrest⟩ := List.forall_mem_cons.mp h
    have hstep : insertAll ((other, value) :: rest) entries =
        insertAll rest (insert other value entries) := rfl
    rw [hstep, ih hrest, lookup_insert, if_neg (Ne.symm hother)]

/-- A body that is read is no expression, has a property, and has its attributes behind it. The
property is the first entry, and the attributes are put in place one after the other. -/
theorem of_parse_eq_ok {body : Text} {p : Placeholder} (h : parse body = .ok p) :
    (skipPadding body).head? ≠ some '(' ∧ (head body).blank = false ∧
      tail 0 ((skipPadding body).dropWhile inProperty) = .ok (given body) ∧
      p = ⟨insertAll (given body) [("property".toList, written body)]⟩ := by
  unfold parse at h
  dsimp only [Text.spanWhile] at h
  split at h
  · cases h
  · rename_i hplain
    split at h
    · cases h
    · rename_i hblank
      split at h
      · cases h
      · rename_i entries htail
        obtain rfl := Except.ok.inj h
        have hread := tail_of_ok (n := 0) htail
        have hgiven : given body = entries := by
          rw [given]
          exact congrArg (fun read => (Except.toOption read).getD []) hread
        rw [hgiven]
        exact ⟨hplain, (Bool.not_eq_true _).mp hblank, hread, rfl⟩

/-- The property is what is written, unless an attribute says something else. -/
theorem property_of_parse {body : Text} {p : Placeholder} (h : parse body = .ok p)
    (hgiven : ∀ entry ∈ given body, entry.1 ≠ "property".toList) : p.property = written body := by
  obtain ⟨-, -, -, rfl⟩ := of_parse_eq_ok h
  rw [property, get?, lookup_insertAll_of_ne hgiven]
  rfl

/-- Behind padding that is blank a body starts with its property, if blanks do not count. -/
theorem trimStart_skipPadding {body : Text} (h : (padding body).blank = true) :
    (skipPadding body).trimStart = body.trimStart := by
  have hsplit : padding body ++ skipPadding body = body := List.takeWhile_append_dropWhile
  have hblank := List.all_eq_true.mp h
  rw [← Text.trimStart_append hblank, hsplit]

/-- Blanks belong to the property. -/
theorem inProperty_of_isBlank {c : Char} (h : isBlank c = true) : inProperty c = true := by
  have hcomma : c ≠ ',' := by
    rintro rfl
    cases h
  have hcolon : c ≠ ':' := by
    rintro rfl
    cases h
  simp [inProperty, hcomma, hcolon]

/-- The property without the blanks before it. -/
theorem trimStart_head (body : Text) :
    (head body).trimStart = (skipPadding body).trimStart.takeWhile inProperty := by
  have hsplit : (skipPadding body).takeWhile isBlank ++ (skipPadding body).trimStart =
      skipPadding body := List.takeWhile_append_dropWhile
  have hblank : ∀ c ∈ (skipPadding body).takeWhile isBlank, isBlank c = true :=
    fun _ hc => List.mem_takeWhile_imp hc
  have hstart : Text.trimStart ((skipPadding body).trimStart.takeWhile inProperty) =
      (skipPadding body).trimStart.takeWhile inProperty :=
    Text.trimStart_eq_self fun _ hc =>
      Text.head?_trimStart (Text.head?_of_start (List.takeWhile_prefix _) hc)
  calc (head body).trimStart
      = Text.trimStart (((skipPadding body).takeWhile isBlank ++
          (skipPadding body).trimStart).takeWhile inProperty) := by rw [hsplit]; rfl
    _ = (skipPadding body).trimStart.takeWhile inProperty := by
        rw [List.takeWhile_append_of_pos fun c hc => inProperty_of_isBlank (hblank c hc),
          Text.trimStart_append hblank, hstart]

/-- A body starts with its property as it is written, blanks before it apart, and the end of the
property is next. -/
theorem exists_written_append {body : Text} (h : (padding body).blank = true) :
    ∃ rest, body.trimStart = written body ++ rest ∧
      ∀ c ∈ rest.head?, isBlank c = true ∨ inProperty c = false := by
  obtain ⟨blanks, hblanks, hall⟩ := Text.exists_trimEnd_append (head body).trimStart
  refine ⟨blanks ++ (skipPadding body).trimStart.dropWhile inProperty, ?_, fun c hc => ?_⟩
  · have hwritten : written body = Text.trimEnd (head body).trimStart := rfl
    rw [hwritten, ← List.append_assoc, ← hblanks, trimStart_head,
      List.takeWhile_append_dropWhile, trimStart_skipPadding h]
  · rcases Text.head?_append_cases hc with hfirst | ⟨-, hsecond⟩
    · exact .inl (hall c (List.mem_of_mem_head? hfirst))
    · exact .inr (Text.head?_dropWhile hsecond)

end Placeholder

namespace Path

/-- How a path goes on behind its first name. -/
def beyond (path : Text) : Option Text :=
  let rest := path.dropWhile (!goesOn ·)
  if rest.isEmpty then none else some (if rest.head? = some '.' then rest.tail else rest)

/-- A path is split into its first name and what is beyond it. -/
theorem splitRoot_eq (path : Text) : splitRoot path = (root path.trim, beyond path.trim) := by
  have hwhole (h : path.trim.dropWhile (!goesOn ·) = []) : root path.trim = path.trim := by
    have hsplit := List.takeWhile_append_dropWhile (p := (!goesOn ·)) (l := path.trim)
    rw [h, List.append_nil] at hsplit
    rw [root, hsplit, Text.trim_trim]
  unfold splitRoot
  dsimp only
  split
  · rename_i hdrop
    simp [beyond, hdrop, hwhole hdrop]
  · rename_i hdrop
    simp [beyond, hdrop]
  · rename_i hnil hdot
    cases hdrop : path.trim.dropWhile (!goesOn ·) with
    | nil => exact absurd hdrop hnil
    | cons c rest =>
      have hc : c ≠ '.' := by
        rintro rfl
        exact hdot rest hdrop
      simp [beyond, hdrop, hc]

/-- A path without blanks at its start starts with its first name, and a blank is next, or it goes
on there. -/
theorem exists_root_append {path : Text} (h : ∀ c ∈ path.head?, isBlank c = false) :
    ∃ rest, path = root path ++ rest ∧ ∀ c ∈ rest.head?, isBlank c = true ∨ goesOn c = true := by
  have hstart : Text.trimStart (path.takeWhile (!goesOn ·)) = path.takeWhile (!goesOn ·) :=
    Text.trimStart_eq_self fun c hc =>
      h c (Text.head?_of_start (List.takeWhile_prefix _) hc)
  obtain ⟨blanks, hblanks, hall⟩ := Text.exists_trimEnd_append (path.takeWhile (!goesOn ·))
  refine ⟨blanks ++ path.dropWhile (!goesOn ·), ?_, fun c hc => ?_⟩
  · rw [root, Text.trim, hstart, ← List.append_assoc, ← hblanks, List.takeWhile_append_dropWhile]
  · rcases Text.head?_append_cases hc with hfirst | ⟨-, hsecond⟩
    · exact .inl (hall c (List.mem_of_mem_head? hfirst))
    · right
      simpa using Text.head?_dropWhile hsecond

end Path

/-- A body starts with the first name of its property, blanks before it apart. -/
theorem Placeholder.exists_root_append {body : Text} (h : (padding body).blank = true) :
    ∃ rest, body.trimStart = (Path.splitRoot (written body)).1 ++ rest ∧
      ∀ c ∈ rest.head?, LoopScope.endsName c = true := by
  obtain ⟨after, hbody, hafter⟩ := exists_written_append h
  have htrimmed : (written body).trim = written body := Text.trim_trim _
  have hstart : ∀ c ∈ (written body).head?, isBlank c = false := by
    intro c hc
    have hmem : c ∈ body.trimStart.head? := by
      rw [hbody]
      exact Text.head?_of_start (List.prefix_append _ _) hc
    exact Text.head?_trimStart hmem
  obtain ⟨more, hwritten, hmore⟩ := Path.exists_root_append hstart
  refine ⟨more ++ after, ?_, fun c hc => ?_⟩
  · rw [hbody, Path.splitRoot_eq, htrimmed, ← List.append_assoc, ← hwritten]
  · rcases Text.head?_append_cases hc with hfirst | ⟨-, hsecond⟩
    · rcases hmore c hfirst with hblank | hgoes
      · simp [LoopScope.endsName, hblank]
      · rcases Bool.or_eq_true_iff.mp hgoes with hdot | hbracket
        · simp [LoopScope.endsName, hdot]
        · simp [LoopScope.endsName, hbracket]
    · rcases hafter c hsecond with hblank | hend
      · simp [LoopScope.endsName, hblank]
      · have hmark : c = ',' ∨ c = ':' := by simpa [inProperty, or_iff_not_imp_left] using hend
        rcases hmark with rfl | rfl
        · rfl
        · rfl

end SqlTemplate
