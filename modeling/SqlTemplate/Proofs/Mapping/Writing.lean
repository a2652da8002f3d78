import Mathlib.Data.List.Nodup
import SqlTemplate.Proofs.Mapping.Grammar

/-!
# Writing placeholders

A property and attributes are written behind each other, with blanks around each part. What is read
of that text is the property and the attributes, in order: nothing is lost, merged or changed on the
way. The SQL type may be written behind a colon if it comes first.
-/

namespace SqlTemplate

/-- A text with blanks around it. -/
def Text.AmidBlanks (text whole : Text) : Prop :=
  ∃ before after, (∀ c ∈ before, isBlank c = true) ∧ (∀ c ∈ after, isBlank c = true) ∧
    whole = before ++ (text ++ after)

namespace Placeholder

open Text

/-- The properties that can be written. -/
structure IsProperty (property : Text) : Prop where
  ne_nil : property ≠ []
  trimmed : property.trim = property
  chars : ∀ c ∈ property, c ≠ ',' ∧ c ≠ ':'
  first : ∀ c ∈ property.head?, 0x20 < c.toNat ∧ c ≠ '('

/-- The keys that can be written. -/
structure IsKey (key : Text) : Prop where
  ne_nil : key ≠ []
  trimmed : key.trim = key
  chars : ∀ c ∈ key, c ≠ ',' ∧ c ≠ '='
  first : ∀ c ∈ key.head?, 0x20 < c.toNat

/-- The values that can be written. -/
structure IsValue (value : Text) : Prop where
  trimmed : value.trim = value
  chars : ',' ∉ value

/-- An attribute as it is written behind other parts. -/
inductive AttributeWritten : Text × Text → Text → Prop
  | mk {key value keyText valueText : Text} (hkey : key.AmidBlanks keyText)
    (hvalue : value.AmidBlanks valueText) :
    AttributeWritten (key, value) (',' :: (keyText ++ '=' :: valueText))

/-- The bodies with a property and attributes. An SQL type that comes first may stand behind a
colon, without its key. -/
inductive BodyWritten (property : Text) : List (Text × Text) → Text → Prop
  | plain {attributes : List (Text × Text)} {propertyText : Text} {texts : List Text}
    (hproperty : property.AmidBlanks propertyText)
    (h : List.Forall₂ AttributeWritten attributes texts) :
    BodyWritten property attributes (propertyText ++ texts.flatten)
  | typed {attributes : List (Text × Text)} {sqlType propertyText typeText : Text}
    {texts : List Text} (hproperty : property.AmidBlanks propertyText) (hne : sqlType ≠ [])
    (hfirst : ∀ c ∈ sqlType.head?, 0x20 < c.toNat) (htype : sqlType.AmidBlanks typeText)
    (h : List.Forall₂ AttributeWritten attributes texts) :
    BodyWritten property (("jdbcType".toList, sqlType) :: attributes)
      (propertyText ++ ':' :: (typeText ++ texts.flatten))

section AmidBlanks

variable {text whole : Text}

/-- Blanks around a text are trimmed with its own. -/
theorem trim_of_amidBlanks (h : text.AmidBlanks whole) : whole.trim = text.trim := by
  obtain ⟨before, after, hbefore, hafter, rfl⟩ := h
  have hstart : trim (before ++ (text ++ after)) = trim (text ++ after) := by
    rw [trim, trimStart_append hbefore, trim]
  rw [hstart, Text.trim_append hafter]

/-- A character that is no blank is amid blanks only where the text has it. -/
theorem mem_of_amidBlanks (h : text.AmidBlanks whole) {c : Char} (hblank : isBlank c = false)
    (hc : c ∈ whole) : c ∈ text := by
  obtain ⟨before, after, hbefore, hafter, rfl⟩ := h
  have hnot : c ∉ before ∧ c ∉ after := by
    refine ⟨fun hmem => ?_, fun hmem => ?_⟩
    · rw [hbefore c hmem] at hblank
      cases hblank
    · rw [hafter c hmem] at hblank
      cases hblank
  simpa [hnot] using hc

/-- Characters above the space are no padding. -/
theorem isPadding_of_lt {c : Char} (h : 0x20 < c.toNat) : isPadding c = false := by
  simpa [isPadding] using h

/-- Where a text starts above the space, what is left behind padding has the text amid blanks. -/
theorem amidBlanks_skipPadding (h : text.AmidBlanks whole) (hne : text ≠ [])
    (hfirst : ∀ c ∈ text.head?, 0x20 < c.toNat) : text.AmidBlanks (skipPadding whole) := by
  obtain ⟨before, after, hbefore, hafter, rfl⟩ := h
  have hhead : ∀ c ∈ (text ++ after).head?, isPadding c = false := by
    intro c hc
    rcases head?_append_cases hc with hc | ⟨hnil, -⟩
    · exact isPadding_of_lt (hfirst c hc)
    · exact absurd hnil hne
  rw [skipPadding_append_of_head hhead]
  refine ⟨before.dropWhile isPadding, after, fun c hc => ?_, hafter, rfl⟩
  exact hbefore c ((List.dropWhile_suffix _).subset hc)

/-- A trimmed text that starts above the space is what counts of it amid blanks. -/
theorem core_of_amidBlanks (h : text.AmidBlanks whole) (hne : text ≠ [])
    (htrimmed : text.trim = text) (hfirst : ∀ c ∈ text.head?, 0x20 < c.toNat) :
    core whole = text := by
  rw [core, trim_of_amidBlanks (amidBlanks_skipPadding h hne hfirst), htrimmed]

end AmidBlanks

variable {property body : Text} {attributes entries : List (Text × Text)}

/-- The text of a property belongs to it up to the comma or colon behind it. -/
theorem IsProperty.isHead (h : IsProperty property) {text : Text}
    (htext : property.AmidBlanks text) : IsHead text ∧ core text = property := by
  have hfirst : ∀ c ∈ property.head?, 0x20 < c.toNat := fun c hc => (h.first c hc).1
  have hcore : core text = property := core_of_amidBlanks htext h.ne_nil h.trimmed hfirst
  refine ⟨⟨?_, fun c hc => ?_, fun hopen => ?_⟩, hcore⟩
  · rw [hcore]
    exact h.ne_nil
  · cases hblank : isBlank c with
    | true => exact inProperty_of_isBlank hblank
    | false =>
      have hchars := h.chars c (mem_of_amidBlanks htext hblank hc)
      simp [inProperty, hchars]
  · obtain ⟨before, after, hbefore, -, hskip⟩ := amidBlanks_skipPadding htext h.ne_nil hfirst
    rw [hskip] at hopen
    rcases head?_append_cases hopen with hmem | ⟨-, hrest⟩
    · exact absurd (hbefore _ (List.mem_of_mem_head? hmem)) (by decide)
    · rcases head?_append_cases hrest with hmem | ⟨hnil, -⟩
      · exact (h.first _ hmem).2 rfl
      · exact h.ne_nil hnil

/-- Attributes are spelled as they are written. -/
theorem attributesSpelled_of_written {texts : List Text}
    (hattributes : ∀ entry ∈ attributes, IsKey entry.1 ∧ IsValue entry.2)
    (h : List.Forall₂ AttributeWritten attributes texts) :
    AttributesSpelled attributes texts.flatten := by
  induction h with
  | nil => exact .nil
  | cons hwritten _ ih =>
    obtain ⟨⟨hkey, hvalue⟩, hrest⟩ := List.forall_mem_cons.mp hattributes
    cases hwritten with
    | @mk key value keyText valueText hkeyText hvalueText =>
      have hcore : core keyText = key :=
        core_of_amidBlanks hkeyText hkey.ne_nil hkey.trimmed hkey.first
      have hne : core keyText ≠ [] := by
        rw [hcore]
        exact hkey.ne_nil
      have hchars : ∀ c ∈ keyText, c ≠ ',' ∧ c ≠ '=' := by
        intro c hc
        refine ⟨?_, ?_⟩
        · rintro rfl
          exact (hkey.chars _ (mem_of_amidBlanks hkeyText (by decide) hc)).1 rfl
        · rintro rfl
          exact (hkey.chars _ (mem_of_amidBlanks hkeyText (by decide) hc)).2 rfl
      have hcomma : ',' ∉ valueText := fun hmem =>
        hvalue.chars (mem_of_amidBlanks hvalueText (by decide) hmem)
      have hspelled := AttributesSpelled.cons hne hchars hcomma (ih hrest)
      rw [hcore, trim_of_amidBlanks hvalueText, hvalue.trimmed] at hspelled
      simpa using hspelled

/-- A body is spelled as it is written. -/
theorem spelled_of_bodyWritten (hproperty : IsProperty property)
    (hattributes : ∀ entry ∈ attributes, IsKey entry.1 ∧ IsValue entry.2)
    (h : BodyWritten property attributes body) : Spelled property attributes body := by
  cases h with
  | plain htext h =>
    obtain ⟨hhead, hcore⟩ := hproperty.isHead htext
    have hspelled := Spelled.mk hhead (.plain (attributesSpelled_of_written hattributes h))
    rwa [hcore] at hspelled
  | @typed others sqlType _ typeText _ htext hne hfirst htype h =>
    obtain ⟨⟨-, hvalue⟩, hrest⟩ := List.forall_mem_cons.mp hattributes
    obtain ⟨hhead, hcore⟩ := hproperty.isHead htext
    have htypeCore : core typeText = sqlType :=
      core_of_amidBlanks htype hne hvalue.trimmed hfirst
    have htypeNe : core typeText ≠ [] := by
      rw [htypeCore]
      exact hne
    have hcomma : ',' ∉ typeText := fun hmem =>
      hvalue.chars (mem_of_amidBlanks htype (by decide) hmem)
    have htail := TailSpelled.typed htypeNe hcomma (attributesSpelled_of_written hrest h)
    rw [htypeCore] at htail
    have hspelled := Spelled.mk hhead htail
    rwa [hcore] at hspelled

/-- Attributes with keys of their own stay in order. -/
theorem insertAll_of_nodup (h : ((entries ++ attributes).map Prod.fst).Nodup) :
    insertAll attributes entries = entries ++ attributes := by
  induction attributes generalizing entries with
  | nil => exact (List.append_nil entries).symm
  | cons entry rest ih =>
    obtain ⟨key, value⟩ := entry
    have hkey : key ∉ entries.map Prod.fst := by
      rw [List.map_append, List.map_cons, List.nodup_middle, List.nodup_cons] at h
      exact fun hmem => h.1 (List.mem_append_left _ hmem)
    have hstep : insertAll ((key, value) :: rest) entries =
        insertAll rest (insert key value entries) := rfl
    have happend : entries ++ [(key, value)] ++ rest = entries ++ (key, value) :: rest := by simp
    rw [hstep, insert_of_not_mem hkey, ih (by rwa [happend]), happend]

/-- What is read of a body is what is written in it: the property, and then the attributes in
order. -/
theorem parse_of_bodyWritten (hproperty : IsProperty property)
    (hattributes : ∀ entry ∈ attributes, IsKey entry.1 ∧ IsValue entry.2)
    (hkeys : (attributes.map Prod.fst).Nodup)
    (hothers : ∀ entry ∈ attributes, entry.1 ≠ "property".toList)
    (h : BodyWritten property attributes body) :
    parse body = .ok ⟨("property".toList, property) :: attributes⟩ := by
  have hnodup : (([("property".toList, property)] ++ attributes).map Prod.fst).Nodup := by
    rw [List.singleton_append, List.map_cons, List.nodup_cons]
    refine ⟨fun hmem => ?_, hkeys⟩
    obtain ⟨entry, hentry, hkey⟩ := List.mem_map.mp hmem
    exact hothers entry hentry hkey
  have hspelled := spelled_of_bodyWritten hproperty hattributes h
  rw [hspelled.parse_eq_ok, insertAll_of_nodup hnodup]
  rfl

/-- The SQL type behind a colon, an empty value, and marks within values. -/
theorem parse_of_typed_body :
    let property := "user.names[0]".toList
    let attributes := [("jdbcType", "NUMERIC"), ("typeHandler", "a=b:c"), ("mode", "")].map
      fun (key, value) => (key.toList, value.toList)
    let body := " user.names[0] :\tNUMERIC ,\ntypeHandler = a=b:c\r,mode=".toList
    IsProperty property ∧ (∀ entry ∈ attributes, IsKey entry.1 ∧ IsValue entry.2) ∧
      BodyWritten property attributes body ∧
      parse body = .ok ⟨("property".toList, property) :: attributes⟩ := by
  intro property attributes body
  have hproperty : IsProperty property :=
    ⟨by decide, by decide, by simp [property], by simp [property]⟩
  have hattributes : ∀ entry ∈ attributes, IsKey entry.1 ∧ IsValue entry.2 := by
    simp only [attributes, List.map_cons, List.map_nil, List.forall_mem_cons]
    exact ⟨⟨⟨by decide, by decide, by simp, by simp⟩, by decide, by decide⟩,
      ⟨⟨by decide, by decide, by simp, by simp⟩, by decide, by decide⟩,
      ⟨⟨by decide, by decide, by simp, by simp⟩, by decide, by decide⟩, List.forall_mem_nil _⟩
  have hnone : ∀ c ∈ [], isBlank c = true := List.forall_mem_nil _
  have hone (c : Char) (h : isBlank c = true) : ∀ e ∈ [c], isBlank e = true :=
    List.forall_mem_singleton.mpr h
  have hhandler : AttributeWritten ("typeHandler".toList, "a=b:c".toList)
      ",\ntypeHandler = a=b:c\r".toList :=
    @AttributeWritten.mk _ _ "\ntypeHandler ".toList " a=b:c\r".toList
      ⟨['\n'], [' '], hone '\n' rfl, hone ' ' rfl, rfl⟩
      ⟨[' '], ['\r'], hone ' ' rfl, hone '\r' rfl, rfl⟩
  have hmode : AttributeWritten ("mode".toList, []) ",mode=".toList :=
    @AttributeWritten.mk _ _ "mode".toList []
      ⟨[], [], hnone, hnone, rfl⟩ ⟨[], [], hnone, hnone, rfl⟩
  have hbody : BodyWritten property attributes body :=
    @BodyWritten.typed _ _ _ " user.names[0] ".toList "\tNUMERIC ".toList _
      ⟨[' '], [' '], hone ' ' rfl, hone ' ' rfl, rfl⟩ (by decide) (by simp)
      ⟨['\t'], [' '], hone '\t' rfl, hone ' ' rfl, rfl⟩ (.cons hhandler (.cons hmode .nil))
  exact ⟨hproperty, hattributes, hbody,
    parse_of_bodyWritten hproperty hattributes (by decide) (by decide) hbody⟩

end Placeholder

end SqlTemplate
