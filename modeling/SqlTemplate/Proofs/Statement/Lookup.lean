import SqlTemplate.Proofs.Mapping.Attributes
import SqlTemplate.Proofs.Statement.Rendering

/-!
# Look-ups of types and values

The type of a marker is resolved when the statement is prepared, its value is looked up when the
statement is bound. The two look-ups go through the same places in the same order, so where the
first succeeds the second does, and the type is that of the value.
-/

namespace SqlTemplate

open Results

/-- What is found in a value where a path goes on with `rest`, if it does. -/
def Accessor.follow? (accessor : Accessor) (value : Value) :
    (rest : Option Text) → Except Error (Option Value)
  | none => .ok (some value)
  | some rest => accessor.get? value rest

/-- An accessor with no way of its own for types: they are those of the values it finds. -/
def Accessor.TypesDerived (accessor : Accessor) : Prop :=
  ∀ root path, accessor.typeAt? root path = (accessor.get? root path).map (·.map ValueType.of)

/-- Paths have the types of the values that they find. -/
theorem Accessor.byPath_typesDerived : Accessor.byPath.TypesDerived := fun _ _ => rfl

/-- Nothing but `null` is found in `null`. The markers of a `null` parameter are `null` without
asking the accessor, which may find something there all the same. -/
def Accessor.NullIsEmpty (accessor : Accessor) : Prop :=
  ∀ path value, accessor.get? .null path = .ok (some value) → value = .null

/-- No step of a path finds anything in `null`. -/
theorem Value.walk?_null {steps : List PathStep} {value : Value}
    (h : Value.walk? steps .null = some value) : value = .null := by
  cases steps with
  | nil => exact (Option.some.inj h).symm
  | cons step steps =>
    have hstep : Value.step? step .null = none := by cases step <;> rfl
    rw [Value.walk?, List.foldlM_cons, hstep] at h
    cases h

/-- Paths find nothing in `null`. -/
theorem Accessor.byPath_nullIsEmpty : Accessor.byPath.NullIsEmpty := by
  intro path value h
  obtain ⟨steps, _, hsteps⟩ := map_eq_ok.mp h
  exact Value.walk?_null hsteps

/-- No attribute declares a type if a look-up finds no declaration. -/
theorem Placeholder.declaresType_eq_false {p : Placeholder}
    (h : p.get? "javaType".toList = none) : Mapping.declaresType p.entries = false := by
  rw [Placeholder.get?, List.lookup_eq_none_iff] at h
  rw [Mapping.declaresType, List.any_eq_false]
  rintro ⟨key, value⟩ hentry hkey
  have hname : String.ofList key = "javaType" := by simpa using hkey
  have hne := h (key, value) hentry
  simp [← hname] at hne

/-- A value is `null` if it counts as that. -/
theorem Value.eq_null_of_isNull {value : Value} (h : value.isNull = true) : value = .null := by
  cases value <;> first | rfl | cases h

/-- A value of a scalar type is not `null`. -/
theorem Value.isNull_of_isScalar {value : Value} (h : (ValueType.of value).isScalar = true) :
    value.isNull = false := by
  cases value <;> first | rfl | cases h

/-- The type of what is found, `any` if nothing is, is that of the value that stands for it. -/
theorem ValueType.getD_map_of (found : Option Value) :
    (found.map ValueType.of).getD .any = .of (found.getD .null) := by
  cases found <;> rfl

/-- No value is a cursor. -/
theorem ValueType.of_ne_cursor (value : Value) : ValueType.of value ≠ .cursor := by
  intro h
  cases value with
  | num n => cases n <;> cases h
  | _ => cases h

namespace Bound

/-- An additional value comes first. -/
theorem find?_of_additional {bound : Bound} {m : Mapping} {value : Value}
    (h : bound.additional.get? (String.ofList (Path.splitRoot m.property).1) = some value) :
    bound.find? m = bound.accessor.follow? value (Path.splitRoot m.property).2 := by
  simp only [find?, hasAdditional, Fields.contains, additional?, h, Option.isSome_some, if_true]
  cases (Path.splitRoot m.property).2 <;> rfl

/-- Without an additional value the parameter answers, or some property of it. -/
theorem find?_of_parameter {bound : Bound} {m : Mapping}
    (h : bound.additional.get? (String.ofList (Path.splitRoot m.property).1) = none) :
    bound.find? m =
      if bound.parameter.isNull then .ok none
      else if (ValueType.of bound.parameter).isScalar then .ok (some bound.parameter)
      else bound.accessor.get? bound.parameter m.property := by
  simp [find?, hasAdditional, Fields.contains, h]

/-- What the type of a marker is resolved to, the look-up of its value finds. Two cases have no
value to compare with: a cursor, which is no value, and a `null` parameter in which the accessor
finds something. -/
theorem find?_of_resolveType {bound : Bound} {handlers : Handlers} {p : Placeholder} {m : Mapping}
    {valueType : ValueType} (htypes : bound.accessor.TypesDerived)
    (hproperty : m.property = p.property)
    (htype : Mapping.resolveType ⟨bound.accessor, handlers, .of bound.parameter, bound.parameter,
      bound.additional⟩ p = .ok valueType) :
    (valueType = .cursor ∧ p.get? "jdbcType".toList = some SqlType.cursor.name.toList) ∨
      ∃ found, bound.find? m = .ok found ∧
        (valueType = .of (found.getD .null) ∨
          bound.parameter = .null ∧ found = none ∧
            ∃ value, bound.accessor.get? .null m.property = .ok (some value) ∧
              valueType = .of value) := by
  unfold Mapping.resolveType at htype
  simp only [← hproperty] at htype
  cases hentry : bound.additional.get? (String.ofList (Path.splitRoot m.property).1) with
  | some value =>
    right
    rw [find?_of_additional hentry]
    rw [hentry] at htype
    cases hrest : (Path.splitRoot m.property).2 with
    | none =>
      rw [hrest] at htype
      exact ⟨some value, rfl, .inl (Except.ok.inj htype).symm⟩
    | some rest =>
      rw [hrest] at htype
      obtain ⟨type?, hget, rfl⟩ := map_eq_ok.mp htype
      obtain ⟨found, hfound, rfl⟩ := map_eq_ok.mp ((htypes _ _).symm.trans hget)
      exact ⟨found, hfound, .inl (ValueType.getD_map_of found)⟩
  | none =>
    rw [find?_of_parameter hentry]
    simp only [hentry] at htype
    split at htype
    · rename_i hscalar
      right
      refine ⟨some bound.parameter, ?_, .inl (Except.ok.inj htype).symm⟩
      rw [Value.isNull_of_isScalar hscalar, if_neg (by decide), if_pos hscalar]
    · rename_i hscalar
      split at htype
      · rename_i hcursor
        exact .inl ⟨(Except.ok.inj htype).symm, hcursor⟩
      · right
        obtain ⟨type?, hget, rfl⟩ := map_eq_ok.mp htype
        obtain ⟨found, hfound, rfl⟩ := map_eq_ok.mp ((htypes _ _).symm.trans hget)
        by_cases hnull : bound.parameter.isNull = true
        · have hparameter := Value.eq_null_of_isNull hnull
          rw [hparameter] at hfound
          refine ⟨none, if_pos hnull, ?_⟩
          cases found with
          | none => exact .inl rfl
          | some value => exact .inr ⟨hparameter, rfl, value, hfound, rfl⟩
        · refine ⟨found, ?_, .inl (ValueType.getD_map_of found)⟩
          rw [if_neg hnull, if_neg hscalar]
          exact hfound

end Bound

end SqlTemplate
