import SqlTemplate.Mapping.Basic
import SqlTemplate.Proofs.Results

/-!
# What the attributes of a placeholder settle

Everything in a mapping but the type of the value, and the handler that stands for that type, is
settled by the body of the placeholder alone. So two statements that share their text share these
parts of their mappings, whatever their parameters are.
-/

namespace SqlTemplate.Mapping

open Results

/-- Whether one of the attributes declares the type of the value. -/
def declaresType (entries : List (Text × Text)) : Bool :=
  entries.any fun (key, _) => String.ofList key == "javaType"

/-- The draft with another type of the value. -/
def Draft.withType (draft : Draft) (valueType : ValueType) : Draft := { draft with valueType }

/-- The mapping that a draft comes to. -/
def Draft.mapping (draft : Draft) (p : Placeholder) (handler : Handler) : Mapping where
  property := p.property
  valueType := draft.valueType
  handler
  sqlType := draft.sqlType
  sqlTypeName := draft.sqlTypeName
  mode := draft.mode
  scale := draft.scale
  resultMap := draft.resultMap

/-- A mapping is made in steps: the placeholder is read, the type of its property resolved, its
attributes are set and its handler is found. A cursor needs a result map. -/
theorem ofBody_eq_ok {known : Surroundings} {body : Text} {m : Mapping} :
    ofBody known body = .ok m ↔
      ∃ p valueType draft handler, Placeholder.parse body = .ok p ∧
        resolveType known p = .ok valueType ∧
        Draft.setAll body { valueType } p.entries = .ok draft ∧
        draft.handler body known.handlers = .ok handler ∧
        ¬(draft.valueType = .cursor ∧ draft.resultMap = none) ∧ m = draft.mapping p handler := by
  unfold ofBody
  simp only [bind_eq_ok]
  constructor
  · rintro ⟨p, hp, valueType, htype, draft, hdraft, handler, hhandler, h⟩
    split at h
    · cases h
    · rename_i hcursor
      refine ⟨p, valueType, draft, handler, hp, htype, hdraft, hhandler, ?_,
        (Except.ok.inj h).symm⟩
      simpa using hcursor
  · rintro ⟨p, valueType, draft, handler, hp, htype, hdraft, hhandler, hcursor, rfl⟩
    refine ⟨p, hp, valueType, htype, draft, hdraft, handler, hhandler, ?_⟩
    rw [if_neg (by simpa using hcursor)]
    rfl

/-- One attribute is set in the same way whatever type the draft has; only a declared type takes
the place of that type. -/
theorem Draft.set_withType (body key value : Text) (draft : Draft) (valueType : ValueType) :
    (draft.withType valueType).set body key value =
      (draft.set body key value).map fun d =>
        d.withType (if String.ofList key == "javaType" then d.valueType else valueType) := by
  unfold Draft.set
  split <;> rename_i hkey <;> simp only [hkey]
  · rfl
  · cases ValueType.ofAlias? value <;> rfl
  · cases SqlType.ofName? value <;> rfl
  · cases ParameterMode.ofName? value <;> rfl
  · cases Text.toNatBelow? UInt32.size value <;> rfl
  · rfl
  · rfl
  · rfl
  · rfl
  · rfl

/-- Attributes are set in the same way whatever type the draft has; only a declared type takes the
place of that type. -/
theorem Draft.setAll_withType (body : Text) (entries : List (Text × Text)) (draft : Draft)
    (valueType : ValueType) :
    (draft.withType valueType).setAll body entries =
      (draft.setAll body entries).map fun d =>
        d.withType (if declaresType entries then d.valueType else valueType) := by
  induction entries generalizing draft valueType with
  | nil => rfl
  | cons entry entries ih =>
    obtain ⟨key, value⟩ := entry
    have hstep (d : Draft) : d.setAll body ((key, value) :: entries) =
        d.set body key value >>= fun next => next.setAll body entries := rfl
    rw [hstep, hstep, set_withType]
    cases hset : draft.set body key value with
    | error e => rfl
    | ok next =>
      simp only [Except.map, bind, Except.bind]
      by_cases hkey : (String.ofList key == "javaType") = true
      · have hsame : next.withType next.valueType = next := rfl
        simp only [hkey, if_true, declaresType, List.any_cons, Bool.true_or, hsame]
        cases next.setAll body entries <;> rfl
      · simp only [hkey, declaresType, List.any_cons, Bool.false_or, Bool.false_eq_true, if_false]
        exact ih next valueType

/-- Without a declared type the draft keeps the type it started with. -/
theorem Draft.valueType_of_setAll {body : Text} {entries : List (Text × Text)}
    {draft result : Draft} (h : draft.setAll body entries = .ok result)
    (hdeclared : declaresType entries = false) : result.valueType = draft.valueType := by
  have hsame := setAll_withType body entries draft draft.valueType
  have hdraft : draft.withType draft.valueType = draft := rfl
  rw [hdraft, h, hdeclared] at hsame
  have hresult : result = result.withType draft.valueType := Except.ok.inj hsame
  rw [hresult]
  rfl

/-- A handler that is named is found in the same way whatever type the draft has; without a name
it is the standard one for the type. -/
theorem Draft.handler_withType {body : Text} {handlers : Handlers} {draft : Draft}
    {handler : Handler} (h : draft.handler body handlers = .ok handler) (valueType : ValueType) :
    ∃ other, (draft.withType valueType).handler body handlers = .ok other ∧
      (handler = other ∨ handler = handlers.defaultFor draft.valueType ∧
        other = handlers.defaultFor valueType) := by
  obtain ⟨own, sqlType, sqlTypeName, mode, scale, resultMap, handlerName⟩ := draft
  cases handlerName with
  | none => exact ⟨_, rfl, .inr ⟨(Except.ok.inj h).symm, rfl⟩⟩
  | some name => exact ⟨handler, h, .inl rfl⟩

/-- Two mappings differ at most in the type of the value, and in the handler where that is the
standard one for the type. -/
structure AgreeUpToType (handlers : Handlers) (m n : Mapping) : Prop where
  property : m.property = n.property
  sqlType : m.sqlType = n.sqlType
  sqlTypeName : m.sqlTypeName = n.sqlTypeName
  mode : m.mode = n.mode
  scale : m.scale = n.scale
  resultMap : m.resultMap = n.resultMap
  handler : m.handler = n.handler ∨
    m.handler = handlers.defaultFor m.valueType ∧ n.handler = handlers.defaultFor n.valueType

/-- A body that has a mapping in some surroundings has one in others, if its property has a type
there that needs no result map which it did not need before. The two mappings differ at most in the
type, and have the same type if one is declared. -/
theorem exists_ofBody {known other : Surroundings} {body : Text} {m : Mapping} {p : Placeholder}
    {valueType : ValueType} (hhandlers : other.handlers = known.handlers)
    (hm : ofBody known body = .ok m) (hp : Placeholder.parse body = .ok p)
    (htype : resolveType other p = .ok valueType)
    (hcursor : valueType = .cursor → resolveType known p = .ok .cursor) :
    ∃ n, ofBody other body = .ok n ∧ AgreeUpToType known.handlers m n ∧
      (m.valueType = n.valueType ∨
        resolveType known p = .ok m.valueType ∧ n.valueType = valueType) := by
  obtain ⟨p', own, draft, handler, hp', hown, hdraft, hhandler, hmap, rfl⟩ := ofBody_eq_ok.mp hm
  obtain rfl : p' = p := Except.ok.inj (hp'.symm.trans hp)
  have hset := Draft.setAll_withType body p'.entries { valueType := own } valueType
  rw [hdraft] at hset
  obtain ⟨handler', hhandler', hsame⟩ := Draft.handler_withType hhandler
    (if declaresType p'.entries then draft.valueType else valueType)
  refine ⟨_, ofBody_eq_ok.mpr ⟨p', valueType, _, handler', hp, htype, hset,
    hhandlers ▸ hhandler', ?_, rfl⟩, ⟨rfl, rfl, rfl, rfl, rfl, rfl, hsame⟩, ?_⟩
  · rintro ⟨hvalue, hresult⟩
    refine hmap ⟨?_, hresult⟩
    cases hdeclared : declaresType p'.entries with
    | true => simpa [Draft.withType, hdeclared] using hvalue
    | false =>
      have hvalueType : valueType = .cursor := by simpa [Draft.withType, hdeclared] using hvalue
      rw [Draft.valueType_of_setAll hdraft hdeclared]
      exact Except.ok.inj (hown.symm.trans (hcursor hvalueType))
  · cases hdeclared : declaresType p'.entries with
    | true =>
      left
      simp [Draft.mapping, Draft.withType]
    | false =>
      right
      refine ⟨?_, by simp [Draft.mapping, Draft.withType]⟩
      rw [hown]
      exact congrArg Except.ok (Draft.valueType_of_setAll hdraft hdeclared).symm

/-- The mappings that one body has in two surroundings with the same handlers differ at most in
the type of the value and in the handler that stands for it. -/
theorem agree_of_ofBody {known other : Surroundings} {body : Text} {m n : Mapping}
    (hhandlers : other.handlers = known.handlers) (hm : ofBody known body = .ok m)
    (hn : ofBody other body = .ok n) : AgreeUpToType known.handlers m n := by
  obtain ⟨p, own, draft, handler, hp, _, hdraft, hhandler, _, rfl⟩ := ofBody_eq_ok.mp hm
  obtain ⟨p', valueType, draft', handler', hp', _, hdraft', hhandler', _, rfl⟩ :=
    ofBody_eq_ok.mp hn
  obtain rfl : p' = p := Except.ok.inj (hp'.symm.trans hp)
  have hset := Draft.setAll_withType body p'.entries { valueType := own } valueType
  rw [hdraft] at hset
  obtain rfl := Except.ok.inj (hdraft'.symm.trans hset)
  obtain ⟨found, hfound, hsame⟩ := Draft.handler_withType hhandler
    (if declaresType p'.entries then draft.valueType else valueType)
  rw [hhandlers, hfound] at hhandler'
  obtain rfl := Except.ok.inj hhandler'
  exact ⟨rfl, rfl, rfl, rfl, rfl, rfl, hsame⟩

/-- A mapping has the property of its placeholder, and the type that is resolved for it unless a
type is declared. -/
theorem valueType_of_ofBody {known : Surroundings} {body : Text} {m : Mapping}
    (hm : ofBody known body = .ok m) :
    ∃ p valueType, Placeholder.parse body = .ok p ∧ m.property = p.property ∧
      resolveType known p = .ok valueType ∧
      (declaresType p.entries = false → m.valueType = valueType) := by
  obtain ⟨p, valueType, draft, handler, hp, htype, hdraft, _, _, rfl⟩ := ofBody_eq_ok.mp hm
  exact ⟨p, valueType, hp, rfl, htype, fun hdeclared => Draft.valueType_of_setAll hdraft hdeclared⟩

end SqlTemplate.Mapping
