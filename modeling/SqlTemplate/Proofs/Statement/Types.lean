import SqlTemplate.Proofs.Mapping.Attributes
import SqlTemplate.Proofs.Statement.Lookup
import SqlTemplate.Proofs.Statement.Rendering
import SqlTemplate.Proofs.Statement.Wire

/-!
# Types of bound values

A statement that is bound to a parameter has a value for each of its markers, and the type in the
mapping of a marker is that of its value. So no value is refused for its type when it is sent.
-/

namespace SqlTemplate

open Results

/-- A placeholder leaves its type to be resolved: it declares none, and it is no cursor. -/
def Placeholder.Untyped (p : Placeholder) : Prop :=
  p.get? "javaType".toList = none ∧
    p.get? "jdbcType".toList ≠ some SqlType.cursor.name.toList

instance (p : Placeholder) : Decidable p.Untyped := inferInstanceAs (Decidable (_ ∧ _))

/-- The placeholders of some bodies are untyped if a check of each body says so. -/
theorem Placeholder.untyped_of_all {bodies : List Text}
    (hall : bodies.all (fun body =>
      (Placeholder.parse body).toOption.all fun p => decide p.Untyped) = true) :
    ∀ body ∈ bodies, ∀ p, Placeholder.parse body = .ok p → p.Untyped := by
  intro body hbody p hp
  have huntyped := List.all_eq_true.mp hall body hbody
  rw [hp] at huntyped
  exact of_decide_eq_true huntyped

namespace Bound

/-- The type that is resolved for a marker suits the value that is looked up for it. -/
theorem suits_of_resolveType {bound : Bound} {handlers : Handlers} {p : Placeholder} {m : Mapping}
    {value : Value} (htypes : bound.accessor.TypesDerived) (hproperty : m.property = p.property)
    (htype : Mapping.resolveType ⟨bound.accessor, handlers, .of bound.parameter, bound.parameter,
      bound.additional⟩ p = .ok m.valueType)
    (hvalue : bound.value m = .ok value) : m.valueType.Suits value := by
  intro hscalar
  unfold Bound.value at hvalue
  split at hvalue
  · obtain ⟨found, hfound, rfl⟩ := map_eq_ok.mp hvalue
    obtain ⟨hcursor, -⟩ | ⟨other, hother, hagree⟩ := find?_of_resolveType htypes hproperty htype
    · rw [hcursor] at hscalar
      cases hscalar
    · obtain rfl := Except.ok.inj (hfound.symm.trans hother)
      rcases hagree with hagree | ⟨-, rfl, -⟩
      · exact .inr hagree
      · exact .inl rfl
  · exact .inl (Except.ok.inj hvalue).symm

/-- A marker of an untyped placeholder has a value. The type in its mapping suits the value, and it
is the type of the value unless the marker is an output. -/
theorem exists_value {bound : Bound} {handlers : Handlers} {body : Text} {m : Mapping}
    (htypes : bound.accessor.TypesDerived)
    (hm : Mapping.ofBody ⟨bound.accessor, handlers, .of bound.parameter, bound.parameter,
      bound.additional⟩ body = .ok m)
    (huntyped : ∀ p, Placeholder.parse body = .ok p → p.Untyped) :
    ∃ value, bound.value m = .ok value ∧ m.valueType.Suits value ∧
      ((bound.parameter = .null → bound.accessor.NullIsEmpty) → m.mode.isInput = true →
        m.valueType = .of value) := by
  obtain ⟨p, valueType, hp, hproperty, htype, hdeclared⟩ := Mapping.valueType_of_ofBody hm
  obtain ⟨hjava, hjdbc⟩ := huntyped p hp
  obtain rfl := hdeclared (Placeholder.declaresType_eq_false hjava)
  obtain ⟨-, hcursor⟩ | ⟨found, hfound, hagree⟩ := find?_of_resolveType htypes hproperty htype
  · exact absurd hcursor hjdbc
  cases hinput : m.mode.isInput with
  | false =>
    have hvalue : bound.value m = .ok .null := by rw [Bound.value, hinput]; rfl
    exact ⟨.null, hvalue, suits_of_resolveType htypes hproperty htype hvalue, fun _ h => by cases h⟩
  | true =>
    have hvalue : bound.value m = .ok (found.getD .null) := by
      rw [Bound.value, hinput, if_pos rfl, hfound]
      rfl
    refine ⟨found.getD .null, hvalue, suits_of_resolveType htypes hproperty htype hvalue, ?_⟩
    rintro hnull -
    rcases hagree with hagree | ⟨hparameter, rfl, value, hfollow, hagree⟩
    · exact hagree
    · rw [hagree, hnull hparameter _ _ hfollow]
      rfl

end Bound

namespace Engine

end Engine

end SqlTemplate
