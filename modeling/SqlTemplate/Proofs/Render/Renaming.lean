import SqlTemplate.Proofs.Render.Chunks
import SqlTemplate.Proofs.Render.Names

/-!
# Renaming loop variables

A placeholder that starts with the name of a loop variable gets the name for the pass instead, and
keeps everything behind the name. The name for a pass is safe from the loops around it.
-/

namespace SqlTemplate

open Delimiters

/-- A start of a body may be exchanged for a text without braces and backslashes, if no brace is
next. -/
theorem Delimiters.IsBody.exchange {start other rest : Text} (h : IsBody (start ++ rest))
    (hrest : rest.head? ≠ some '}') (hbrace : '}' ∉ other) (hslash : '\\' ∉ other) :
    IsBody (other ++ rest) := by
  obtain ⟨hend, hbraces⟩ := h
  refine ⟨?_, fun before after hsplit => ?_⟩
  · cases rest with
    | nil =>
      rw [List.append_nil]
      cases hesc : escapes other with
      | false => rfl
      | true =>
        have hlast : other.getLast? = some '\\' := by simpa [escapes] using hesc
        exact absurd (List.mem_of_getLast? hlast) hslash
    | cons c rest =>
      rw [escapes_append (List.cons_ne_nil c rest)] at hend ⊢
      exact hend
  · rcases List.append_eq_append_iff.mp hsplit with ⟨more, rfl, hmore⟩ | ⟨more, rfl, hmore⟩
    · cases more with
      | nil => exact absurd (by rw [hmore]; rfl) hrest
      | cons c more =>
        have hesc := hbraces (start ++ c :: more) after (by rw [hmore]; simp)
        rw [escapes_append (List.cons_ne_nil c more)] at hesc ⊢
        exact hesc
    · cases more with
      | nil => exact absurd (by rw [← List.nil_append rest, ← hmore]; rfl) hrest
      | cons c more =>
        obtain ⟨rfl, -⟩ := List.cons.inj hmore
        exact absurd (by simp) hbrace

namespace LoopScope

/-- A name stands at the start of a body, blanks before it apart, and nothing that could go on with
it is next. -/
theorem afterName?_eq_some {name : String} {body rest : Text} :
    afterName? name body = some rest ↔
      body.trimStart = name.toList ++ rest ∧ ∀ c ∈ rest.head?, endsName c = true := by
  unfold afterName?
  split
  · rename_i hlead
    rw [Text.dropLead?_eq_some] at hlead
    constructor
    · intro h
      obtain rfl := Option.some.inj h
      exact ⟨hlead, fun c hc => by cases hc⟩
    · rintro ⟨hsplit, -⟩
      exact congrArg some (List.append_cancel_left (hlead.symm.trans hsplit))
  · rename_i c tail hlead
    rw [Text.dropLead?_eq_some] at hlead
    split
    · rename_i hends
      constructor
      · intro h
        obtain rfl := Option.some.inj h
        exact ⟨hlead, fun e he => Option.some.inj he ▸ hends⟩
      · rintro ⟨hsplit, -⟩
        exact congrArg some (List.append_cancel_left (hlead.symm.trans hsplit))
    · rename_i hends
      constructor
      · intro h
        cases h
      · rintro ⟨hsplit, hall⟩
        obtain rfl := List.append_cancel_left (hlead.symm.trans hsplit)
        exact absurd (hall c rfl) hends
  · rename_i hlead
    constructor
    · intro h
      cases h
    · rintro ⟨hsplit, -⟩
      rw [Text.dropLead?_eq_some.mpr hsplit] at hlead
      cases hlead

/-- A body starts with the item, else with the index, else with none of them and is left as it
is. -/
theorem rename_cases (scope : LoopScope) (body : Text) :
    (∃ name rest, scope.item = some name ∧ afterName? name body = some rest ∧
        scope.rename body = (passName name scope.id).toList ++ rest) ∨
      (∀ name ∈ scope.item, afterName? name body = none) ∧
        ((∃ name rest, scope.index = some name ∧ afterName? name body = some rest ∧
            scope.rename body = (passName name scope.id).toList ++ rest) ∨
          (∀ name ∈ scope.index, afterName? name body = none) ∧ scope.rename body = body) := by
  obtain ⟨item, index, id⟩ := scope
  -- The index counts if the item does not.
  have hindex (hitem : ∀ name ∈ item, afterName? name body = none) :
      (∃ name rest, index = some name ∧ afterName? name body = some rest ∧
          rename ⟨item, index, id⟩ body = (passName name id).toList ++ rest) ∨
        (∀ name ∈ index, afterName? name body = none) ∧ rename ⟨item, index, id⟩ body = body := by
    have hskip : rename ⟨item, index, id⟩ body = rename ⟨none, index, id⟩ body := by
      cases item with
      | none => rfl
      | some name => simp [rename, hitem name rfl]
    rw [hskip]
    cases index with
    | none => exact .inr ⟨(fun _ h => by cases h), rfl⟩
    | some name =>
      cases hrest : afterName? name body with
      | some rest => exact .inl ⟨name, rest, rfl, hrest, by simp [rename, hrest]⟩
      | none =>
        refine .inr ⟨fun other h => ?_, by simp [rename, hrest]⟩
        obtain rfl := Option.some.inj h
        exact hrest
  cases item with
  | none => exact .inr ⟨(fun _ h => by cases h), hindex fun _ h => by cases h⟩
  | some name =>
    cases hrest : afterName? name body with
    | some rest => exact .inl ⟨name, rest, rfl, hrest, by simp [rename, hrest]⟩
    | none =>
      have hitem : ∀ other ∈ some name, afterName? other body = none := by
        intro other h
        obtain rfl := Option.some.inj h
        exact hrest
      exact .inr ⟨hitem, hindex hitem⟩

/-- Scopes whose variables have proper names. -/
structure Named (scope : LoopScope) : Prop where
  item : ∀ name ∈ scope.item, IsName name
  index : ∀ name ∈ scope.index, IsName name

/-- A name for a pass at the start of a body is the name of no loop variable. -/
theorem IsName.afterName?_passName {name : String} (h : IsName name) (other : String) (id : Nat)
    (rest : Text) : afterName? name ((passName other id).toList ++ rest) = none := by
  cases hfound : afterName? name ((passName other id).toList ++ rest) with
  | none => rfl
  | some tail =>
    obtain ⟨hsplit, hends⟩ := afterName?_eq_some.mp hfound
    have hstart : Text.trimStart ((passName other id).toList ++ rest) =
        (passName other id).toList ++ rest := by
      rw [toList_passName]
      rfl
    rw [hstart, toList_passName, List.append_assoc] at hsplit
    rcases List.append_eq_append_iff.mp hsplit with ⟨more, hmore, -⟩ | ⟨more, hmore, htail⟩
    · exact absurd ⟨more, hmore.symm⟩ h.plain
    · cases more with
      | nil => exact absurd ⟨[], by rw [hmore]; simp⟩ h.plain
      | cons c more =>
        -- The name would go on with a character of the prefix.
        have hmem : c ∈ "__frch_".toList := by
          rw [hmore]
          simp
        have hc := endsName_of_isNameChar (isNameChar_of_mem_lead hmem)
        rw [hends c (by rw [htail]; rfl)] at hc
        cases hc

/-- A name for a pass is safe from other loops. -/
theorem Named.rename_passName {scope : LoopScope} (h : scope.Named) (name : String) (id : Nat)
    (rest : Text) :
    scope.rename ((passName name id).toList ++ rest) = (passName name id).toList ++ rest := by
  rcases rename_cases scope ((passName name id).toList ++ rest) with
    ⟨other, tail, hother, htail, -⟩ | ⟨-, ⟨other, tail, hother, htail, -⟩ | ⟨-, hsame⟩⟩
  · rw [(h.item other hother).afterName?_passName] at htail
    cases htail
  · rw [(h.index other hother).afterName?_passName] at htail
    cases htail
  · exact hsame

/-- A body with a name for a pass in place of the name at its start is one. -/
theorem isBody_of_afterName? {name : String} (hname : IsName name) (id : Nat) {body rest : Text}
    (hbody : IsBody body) (hrest : afterName? name body = some rest) :
    IsBody ((passName name id).toList ++ rest) := by
  obtain ⟨hsplit, hends⟩ := afterName?_eq_some.mp hrest
  have hwhole : body = body.takeWhile isBlank ++ name.toList ++ rest := by
    rw [List.append_assoc, ← hsplit]
    exact List.takeWhile_append_dropWhile.symm
  refine (hwhole ▸ hbody).exchange ?_ ?_ ?_
  · intro hhead
    cases hends '}' hhead
  · intro hmem
    exact absurd rfl (ne_of_isNameChar (hname.chars_passName id _ hmem) (by decide))
  · intro hmem
    exact absurd rfl (ne_of_isNameChar (hname.chars_passName id _ hmem) (by decide))

/-- Renaming turns bodies into bodies. -/
theorem Named.isBody_rename {scope : LoopScope} (h : scope.Named) {body : Text}
    (hbody : IsBody body) : IsBody (scope.rename body) := by
  rcases rename_cases scope body with
    ⟨name, rest, hname, hrest, hsame⟩ | ⟨-, ⟨name, rest, hname, hrest, hsame⟩ | ⟨-, hsame⟩⟩
  · rw [hsame]
    exact isBody_of_afterName? (h.item name hname) scope.id hbody hrest
  · rw [hsame]
    exact isBody_of_afterName? (h.index name hname) scope.id hbody hrest
  · rw [hsame]
    exact hbody

/-- Chunks are renamed body by body. -/
theorem Named.closedAll_renameAll {scope : LoopScope} (h : scope.Named)
    {chunks bodies : List Text} (hchunks : ClosedAll chunks bodies) :
    ClosedAll (chunks.map scope.renameAll) (bodies.map scope.rename) :=
  hchunks.substitute fun _ hbody => h.isBody_rename hbody

end LoopScope

end SqlTemplate
