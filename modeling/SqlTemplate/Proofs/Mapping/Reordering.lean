import Mathlib.Data.List.Nodup
import SqlTemplate.Proofs.Mapping.Attributes
import SqlTemplate.Proofs.Mapping.Grammar

/-!
# The order of attributes

What the attributes of a placeholder say is looked up by their keys. So their order does not count:
two bodies with the same property and the same attributes have the same mapping, in whatever order
the attributes stand, or none of them has one.
-/

namespace SqlTemplate

open Results

namespace Placeholder

variable {attributes others entries : List (Text × Text)} {key value : Text}

/-- Where no key stands twice, the value of an entry is found. -/
theorem lookup_eq_some_iff (hkeys : (entries.map Prod.fst).Nodup) :
    entries.lookup key = some value ↔ (key, value) ∈ entries := by
  induction entries with
  | nil => simp
  | cons entry rest ih =>
    obtain ⟨first, old⟩ := entry
    rw [List.map_cons, List.nodup_cons] at hkeys
    rw [lookup_cons, List.mem_cons, Prod.mk.injEq]
    by_cases hfirst : key = first
    · subst hfirst
      have hrest : (key, value) ∉ rest :=
        fun hmem => hkeys.1 (List.mem_map.mpr ⟨_, hmem, rfl⟩)
      simp [hrest, eq_comm]
    · simp [hfirst, ih hkeys.2]

/-- Where no key stands twice, the order of entries does not count when one is looked up. -/
theorem lookup_of_perm (h : attributes.Perm others) (hkeys : (attributes.map Prod.fst).Nodup)
    (key : Text) : attributes.lookup key = others.lookup key := by
  have hothers : (others.map Prod.fst).Nodup := (h.map Prod.fst).nodup_iff.mp hkeys
  refine Option.ext fun value => ?_
  rw [lookup_eq_some_iff hkeys, lookup_eq_some_iff hothers, h.mem_iff]

/-- Nothing is found under a key that has no entry. -/
theorem lookup_eq_none (h : key ∉ entries.map Prod.fst) : entries.lookup key = none := by
  induction entries with
  | nil => rfl
  | cons entry rest ih =>
    obtain ⟨first, old⟩ := entry
    rw [List.map_cons, List.mem_cons, not_or] at h
    rw [lookup_cons, if_neg h.1, ih h.2]

/-- A value that is put in place of another one leaves the keys as they are. -/
theorem keys_insert_of_mem (h : key ∈ entries.map Prod.fst) (value : Text) :
    (insert key value entries).map Prod.fst = entries.map Prod.fst := by
  induction entries with
  | nil => cases h
  | cons entry rest ih =>
    obtain ⟨first, old⟩ := entry
    rw [insert]
    split
    · rfl
    · rename_i hfirst
      have hrest : key ∈ rest.map Prod.fst := by simpa [Ne.symm hfirst] using h
      rw [List.map_cons, ih hrest, List.map_cons]

/-- No key stands twice after attributes have been put in place. -/
theorem nodup_insertAll (hkeys : (entries.map Prod.fst).Nodup) :
    ((insertAll attributes entries).map Prod.fst).Nodup := by
  induction attributes generalizing entries with
  | nil => exact hkeys
  | cons entry rest ih =>
    obtain ⟨key, value⟩ := entry
    have hnext : ((insert key value entries).map Prod.fst).Nodup := by
      by_cases hmem : key ∈ entries.map Prod.fst
      · rwa [keys_insert_of_mem hmem]
      · rw [insert_of_not_mem hmem, List.map_append]
        refine List.nodup_append.mpr ⟨hkeys, by simp, ?_⟩
        rintro old hold new hnew rfl
        obtain rfl : old = key := by simpa using hnew
        exact hmem hold
    exact ih hnext

/-- Where no key stands twice among attributes, the value of one is found after they have been put
in place, and other values are as before. -/
theorem lookup_insertAll (hkeys : (attributes.map Prod.fst).Nodup) (key : Text) :
    (insertAll attributes entries).lookup key =
      (attributes.lookup key).or (entries.lookup key) := by
  induction attributes generalizing entries with
  | nil => rfl
  | cons entry rest ih =>
    obtain ⟨first, value⟩ := entry
    rw [List.map_cons, List.nodup_cons] at hkeys
    have hstep : insertAll ((first, value) :: rest) entries =
        insertAll rest (insert first value entries) := rfl
    rw [hstep, ih hkeys.2, lookup_insert, lookup_cons]
    by_cases hfirst : key = first
    · rw [if_pos hfirst, if_pos hfirst, hfirst, lookup_eq_none hkeys.1]
      rfl
    · rw [if_neg hfirst, if_neg hfirst]

/-- Bodies with the same property and the same attributes say the same for every key. -/
theorem get?_of_spelled {property body other : Text} {p q : Placeholder}
    (hbody : Spelled property attributes body) (hother : Spelled property others other)
    (hkeys : (attributes.map Prod.fst).Nodup) (hperm : attributes.Perm others)
    (hp : parse body = .ok p) (hq : parse other = .ok q) (key : Text) :
    p.get? key = q.get? key := by
  have hothers : (others.map Prod.fst).Nodup := (hperm.map Prod.fst).nodup_iff.mp hkeys
  obtain rfl := Except.ok.inj (hp.symm.trans hbody.parse_eq_ok)
  obtain rfl := Except.ok.inj (hq.symm.trans hother.parse_eq_ok)
  rw [get?, get?, lookup_insertAll hkeys, lookup_insertAll hothers, lookup_of_perm hperm hkeys]

/-- An attribute that can be spelled. -/
inductive IsAttribute : Text × Text → Prop
  | mk {key value : Text} (hkey : core key ≠ []) (hkeyChars : ∀ c ∈ key, c ≠ ',' ∧ c ≠ '=')
    (hvalue : ',' ∉ value) : IsAttribute (core key, Text.trim value)

/-- What is spelled behind commas can be spelled. -/
theorem AttributesSpelled.isAttribute {text : Text} (h : AttributesSpelled attributes text) :
    ∀ entry ∈ attributes, IsAttribute entry := by
  induction h with
  | nil => exact List.forall_mem_nil _
  | comma => exact List.forall_mem_nil _
  | cons hkey hkeyChars hvalue _ ih =>
    exact List.forall_mem_cons.mpr ⟨.mk hkey hkeyChars hvalue, ih⟩

/-- What is spelled behind a property can be spelled. A type behind a colon can be spelled as an
attribute. -/
theorem TailSpelled.isAttribute {text : Text} (h : TailSpelled attributes text) :
    ∀ entry ∈ attributes, IsAttribute entry := by
  cases h with
  | plain h => exact h.isAttribute
  | @typed sqlType rest others htype hchars h =>
    refine List.forall_mem_cons.mpr ⟨?_, h.isAttribute⟩
    have hvalue : ',' ∉ skipPadding sqlType :=
      fun hmem => hchars ((List.dropWhile_suffix _).subset hmem)
    exact @IsAttribute.mk "jdbcType".toList (skipPadding sqlType) (by decide) (by simp) hvalue

/-- There is a text for attributes that can be spelled. -/
theorem exists_attributesSpelled (h : ∀ entry ∈ attributes, IsAttribute entry) :
    ∃ text, AttributesSpelled attributes text := by
  induction attributes with
  | nil => exact ⟨[], .nil⟩
  | cons entry rest ih =>
    obtain ⟨hentry, hrest⟩ := List.forall_mem_cons.mp h
    obtain ⟨text, htext⟩ := ih hrest
    cases hentry with
    | mk hkey hkeyChars hvalue => exact ⟨_, .cons hkey hkeyChars hvalue htext⟩

/-- The attributes of a body can be written in any order. -/
theorem Spelled.exists_of_perm {property body : Text} (h : Spelled property attributes body)
    (hperm : others.Perm attributes) : ∃ other, Spelled property others other := by
  cases h with
  | @mk head rest _ hproperty htail =>
    obtain ⟨text, htext⟩ :=
      exists_attributesSpelled fun entry hentry => htail.isAttribute entry (hperm.mem_iff.mp hentry)
    exact ⟨head ++ text, .mk hproperty (.plain htext)⟩

/-- No key stands twice in what is read of a body. -/
theorem nodup_of_parse {body : Text} {p : Placeholder} (h : parse body = .ok p) :
    (p.entries.map Prod.fst).Nodup := by
  obtain ⟨-, -, -, rfl⟩ := of_parse_eq_ok h
  exact nodup_insertAll (by simp)

end Placeholder

namespace Mapping

open Placeholder

/-- Whether an attribute can be set: its key is known, and its value can be read. -/
def settable (key value : Text) : Bool :=
  match String.ofList key with
  | "property" => true
  | "javaType" => (ValueType.ofAlias? value).isSome
  | "jdbcType" => (SqlType.ofName? value).isSome
  | "mode" => (ParameterMode.ofName? value).isSome
  | "numericScale" => (Text.toNatBelow? UInt32.size value).isSome
  | "resultMap" => true
  | "typeHandler" => true
  | "jdbcTypeName" => true
  | _ => false

/-- A draft after attributes whose values are looked up by their keys. -/
def Draft.after (draft : Draft) (value? : Text → Option Text) : Draft where
  valueType := ((value? "javaType".toList).bind ValueType.ofAlias?).getD draft.valueType
  sqlType := ((value? "jdbcType".toList).bind SqlType.ofName?).or draft.sqlType
  sqlTypeName := (value? "jdbcTypeName".toList).or draft.sqlTypeName
  mode := ((value? "mode".toList).bind ParameterMode.ofName?).getD draft.mode
  scale := ((value? "numericScale".toList).bind (Text.toNatBelow? UInt32.size)).or draft.scale
  resultMap := (value? "resultMap".toList).or draft.resultMap
  handlerName := (value? "typeHandler".toList).or draft.handlerName

/-- A value that has to be read is set exactly if it is read. -/
theorem read_eq_ok {α β : Type} {found : Option α} {fault : Error} {make : α → β}
    {result next : β} (hresult : ∀ a ∈ found, make a = result) :
    ((match found with
      | some a => Except.ok a
      | none => Except.error fault) >>= fun a => pure (make a)) = .ok next ↔
      found.isSome = true ∧ result = next := by
  cases found with
  | none => exact iff_of_false (fun h => by cases h) fun h => by cases h.1
  | some a =>
    rw [← hresult a rfl]
    exact ⟨fun h => ⟨rfl, Except.ok.inj h⟩, fun h => congrArg Except.ok h.2⟩

/-- One attribute is set if it can be, and what it says is then in the draft. -/
theorem Draft.set_eq_ok {body key value : Text} {draft next : Draft} :
    draft.set body key value = .ok next ↔
      settable key value = true ∧
        draft.after (fun other => if other = key then some value else none) = next := by
  have hkey (name : String) (h : String.ofList key = name) : key = name.toList := by
    rw [← h, String.toList_ofList]
  unfold Draft.set settable
  split <;> rename_i h <;> simp only [h]
  case h_1 | h_6 | h_7 | h_8 =>
    rw [hkey _ h]
    simp [Draft.after]
  case h_2 | h_3 | h_4 | h_5 =>
    refine read_eq_ok fun a ha => ?_
    rw [hkey _ h]
    simp [Draft.after, Option.mem_def.mp ha]
  case h_9 | h_10 => exact iff_of_false (fun h => by cases h) fun h => by cases h.1

/-- Attributes may be looked up one after the other if no key has two of them. -/
theorem Draft.after_after {f g : Text → Option Text} (h : ∀ key, f key = none ∨ g key = none)
    (draft : Draft) : (draft.after f).after g = draft.after fun key => (f key).or (g key) := by
  have hread {α : Type} (key : Text) (read : Text → Option α) (before : Option α) :
      ((g key).bind read).or (((f key).bind read).or before) =
        (((f key).or (g key)).bind read).or before := by
    rcases h key with hkey | hkey <;> simp [hkey]
  have hreadD {α : Type} (key : Text) (read : Text → Option α) (before : α) :
      ((g key).bind read).getD (((f key).bind read).getD before) =
        (((f key).or (g key)).bind read).getD before := by
    rcases h key with hkey | hkey <;> simp [hkey]
  have htext (key : Text) (before : Option Text) :
      (g key).or ((f key).or before) = ((f key).or (g key)).or before := by
    rcases h key with hkey | hkey <;> simp [hkey]
  simp only [Draft.after, hread, hreadD, htext]

/-- Attributes with keys of their own are set if each of them can be, and what they say is then in
the draft. -/
theorem Draft.setAll_eq_ok {body : Text} {entries : List (Text × Text)} {draft next : Draft}
    (hkeys : (entries.map Prod.fst).Nodup) :
    draft.setAll body entries = .ok next ↔
      (∀ entry ∈ entries, settable entry.1 entry.2 = true) ∧
        draft.after (fun key => entries.lookup key) = next := by
  induction entries generalizing draft with
  | nil => simp [Draft.setAll, Draft.after, pure, Except.pure]
  | cons entry rest ih =>
    obtain ⟨key, value⟩ := entry
    rw [List.map_cons, List.nodup_cons] at hkeys
    have hstep : draft.setAll body ((key, value) :: rest) =
        draft.set body key value >>= fun next => next.setAll body rest := rfl
    -- The first attribute has a key of its own, so it may be looked up together with the others.
    have hown : ∀ other, (if other = key then some value else none) = none ∨
        rest.lookup other = none := by
      intro other
      by_cases hother : other = key
      · exact .inr (hother ▸ lookup_eq_none hkeys.1)
      · exact .inl (if_neg hother)
    have hlookup : (fun other => List.lookup other ((key, value) :: rest)) =
        fun other => (if other = key then some value else none).or (rest.lookup other) := by
      funext other
      rw [lookup_cons]
      by_cases hother : other = key <;> simp [hother]
    rw [hstep, bind_eq_ok, List.forall_mem_cons, hlookup, ← Draft.after_after hown]
    simp only [Draft.set_eq_ok, ih hkeys.2]
    constructor
    · rintro ⟨_, ⟨hset, rfl⟩, hrest, hnext⟩
      exact ⟨⟨hset, hrest⟩, hnext⟩
    · rintro ⟨⟨hset, hrest⟩, hnext⟩
      exact ⟨_, ⟨hset, rfl⟩, hrest, hnext⟩

/-- Only the message about a handler that is not known depends on the body. -/
theorem Draft.handler_of_body {body : Text} {handlers : Handlers} {draft : Draft}
    {handler : Handler} (h : draft.handler body handlers = .ok handler) (other : Text) :
    draft.handler other handlers = .ok handler := by
  unfold Draft.handler at h ⊢
  cases hname : draft.handlerName with
  | none =>
    rw [hname] at h
    exact h
  | some name =>
    simp only [hname] at h ⊢
    cases hfound : handlers.resolve? name with
    | none =>
      rw [hfound] at h
      cases h
    | some found =>
      rw [hfound] at h
      exact h

/-- The type of a property depends only on what is said for each key. -/
theorem resolveType_of_get? {p q : Placeholder} (h : ∀ key, p.get? key = q.get? key)
    (known : Surroundings) : resolveType known p = resolveType known q := by
  unfold resolveType Placeholder.property
  rw [h, h]

/-- Bodies that say the same for every key have the same mapping. -/
theorem ofBody_of_get? {known : Surroundings} {body other : Text} {p q : Placeholder} {m : Mapping}
    (hp : parse body = .ok p) (hq : parse other = .ok q) (h : ∀ key, p.get? key = q.get? key)
    (hm : ofBody known body = .ok m) : ofBody known other = .ok m := by
  obtain ⟨p', valueType, draft, handler, hp', htype, hdraft, hhandler, hcursor, rfl⟩ :=
    ofBody_eq_ok.mp hm
  obtain rfl : p' = p := Except.ok.inj (hp'.symm.trans hp)
  have hkeys := nodup_of_parse hp
  have hothers := nodup_of_parse hq
  have hmem : ∀ entry, entry ∈ p'.entries ↔ entry ∈ q.entries := by
    rintro ⟨key, value⟩
    have hkey : p'.entries.lookup key = q.entries.lookup key := h key
    rw [← lookup_eq_some_iff hkeys, ← lookup_eq_some_iff hothers, hkey]
  have hdraft' : Draft.setAll other { valueType } q.entries = .ok draft := by
    rw [Draft.setAll_eq_ok hkeys] at hdraft
    rw [Draft.setAll_eq_ok hothers]
    obtain ⟨hset, rfl⟩ := hdraft
    refine ⟨fun entry hentry => hset entry ((hmem entry).mpr hentry), ?_⟩
    exact congrArg _ (funext fun key => (h key).symm)
  have hmapping : draft.mapping p' handler = draft.mapping q handler := by
    have hproperty : p'.property = q.property := by
      rw [Placeholder.property, Placeholder.property, h]
    rw [Draft.mapping, Draft.mapping, hproperty]
  rw [resolveType_of_get? h] at htype
  exact ofBody_eq_ok.mpr ⟨q, valueType, draft, handler, hq, htype, hdraft',
    Draft.handler_of_body hhandler other, hcursor, hmapping⟩

/-- Bodies with the same property and the same attributes have the same mapping. -/
theorem ofBody_of_perm {property body other : Text} {attributes others : List (Text × Text)}
    (hbody : Spelled property attributes body) (hother : Spelled property others other)
    (hkeys : (attributes.map Prod.fst).Nodup) (hperm : attributes.Perm others)
    (known : Surroundings) (m : Mapping) :
    ofBody known body = .ok m ↔ ofBody known other = .ok m := by
  have hsame := get?_of_spelled hbody hother hkeys hperm hbody.parse_eq_ok hother.parse_eq_ok
  constructor
  · exact ofBody_of_get? hbody.parse_eq_ok hother.parse_eq_ok hsame
  · exact ofBody_of_get? hother.parse_eq_ok hbody.parse_eq_ok fun key => (hsame key).symm

end Mapping

end SqlTemplate
