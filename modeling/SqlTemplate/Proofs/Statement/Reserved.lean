import SqlTemplate.Proofs.Statement.Precompiled

/-!
# Reserved names in statements of plain text

Bindings start with the parameter as a whole, the database and a parameter without parts under names
of their own. A statement that is rendered keeps them as additional values. One that is prepared
ahead of any parameter has no additional values, so these names mean to it what any other name
means: a property of the parameter. Where a text can be had both ways, the two statements differ in
the values of markers for reserved names, and nowhere else.
-/

namespace SqlTemplate

open Render Results

namespace Bindings

/-- What is reserved under a name when rendering starts. -/
def reserved? (parameter : Value) (database : Option String) (name : String) : Option Value :=
  if name = databaseName then some ((database.map .str).getD .null)
  else if name = parameterName then some parameter
  else if name = scalarName then
    match parameter with
    | .arr _ | .obj _ => none
    | scalar => some scalar
  else none

/-- Bindings start with what is reserved. -/
theorem get?_seed_eq (parameter : Value) (database : Option String) (name : String) :
    (seed parameter database).entries.get? name = reserved? parameter database name := by
  simp only [seed, insert, Fields.get?_insert, reserved?]
  by_cases hdatabase : name = databaseName
  · rw [if_pos hdatabase, if_pos hdatabase]
    cases database with
    | none => rfl
    | some database => rfl
  rw [if_neg hdatabase, if_neg hdatabase]
  by_cases hparameter : name = parameterName
  · rw [if_pos hparameter, if_pos hparameter]
  rw [if_neg hparameter, if_neg hparameter]
  cases parameter with
  | arr | obj => simp [ofParameter]
  | null | bool | num | str => simp [ofParameter, Fields.get?_insert]

end Bindings

/-- What a parameter has for a path: itself if it has no parts, nothing if it is `null`. -/
def Accessor.lookup? (accessor : Accessor) (parameter : Value) (path : Text) :
    Except Error (Option Value) :=
  if parameter.isNull then .ok none
  else if (ValueType.of parameter).isScalar then .ok (some parameter)
  else accessor.get? parameter path

namespace Mapping

/-- The name that the path of a marker starts with. -/
def root (m : Mapping) : String := String.ofList (Path.splitRoot m.property).1

/-- What a marker finds where some names are reserved: what the path leads to from there, and else
what the parameter has. -/
def find? (m : Mapping) (accessor : Accessor) (reserved? : String → Option Value)
    (parameter : Value) : Except Error (Option Value) :=
  match reserved? m.root with
  | some value => accessor.follow? value (Path.splitRoot m.property).2
  | none => accessor.lookup? parameter m.property

/-- The value of a marker where some names are reserved. -/
def valueAmong (m : Mapping) (accessor : Accessor) (reserved? : String → Option Value)
    (parameter : Value) : Except Error Value :=
  if m.mode.isInput then (m.find? accessor reserved? parameter).map (·.getD .null) else .ok .null

/-- A marker has the same value whether some names are reserved or none: it is an output, or its
path starts with another name, or leads to the same in what is reserved and in the parameter. -/
def Indifferent (m : Mapping) (accessor : Accessor) (reserved? : String → Option Value)
    (parameter : Value) : Prop :=
  m.mode.isInput = true →
    ∀ value ∈ reserved? m.root,
      (accessor.lookup? parameter m.property).map (·.getD .null) =
        (accessor.follow? value (Path.splitRoot m.property).2).map (·.getD .null)

variable {m n : Mapping} {accessor : Accessor} {reserved? : String → Option Value}
  {parameter : Value}

/-- The markers that are indifferent are those with the same value. -/
theorem valueAmong_eq_iff :
    m.valueAmong accessor (fun _ => none) parameter = m.valueAmong accessor reserved? parameter ↔
      m.Indifferent accessor reserved? parameter := by
  unfold valueAmong Indifferent find?
  cases m.mode.isInput with
  | false => simp
  | true =>
    cases reserved? m.root with
    | none => simp
    | some value => simp

/-- A mapping agrees with itself. -/
theorem AgreeUpToType.refl (handlers : Handlers) (m : Mapping) : AgreeUpToType handlers m m :=
  ⟨rfl, rfl, rfl, rfl, rfl, rfl, .inl rfl⟩

/-- The type of a mapping has no part in its value. -/
theorem AgreeUpToType.valueAmong_eq {handlers : Handlers} (h : AgreeUpToType handlers m n) :
    m.valueAmong accessor reserved? parameter = n.valueAmong accessor reserved? parameter := by
  unfold valueAmong find?
  rw [h.mode, root, root, h.property]

end Mapping

namespace Bound

/-- The names of the additional values are reserved for the markers of a statement. -/
theorem value_eq (bound : Bound) (m : Mapping) :
    bound.value m = m.valueAmong bound.accessor bound.additional.get? bound.parameter := by
  have hfind : bound.find? m = m.find? bound.accessor bound.additional.get? bound.parameter := by
    unfold Mapping.find?
    cases h : bound.additional.get? m.root with
    | none => exact find?_of_parameter h
    | some value => exact find?_of_additional h
  rw [value, Mapping.valueAmong, hfind]

/-- The values of a statement can be had from mappings that differ from its own in their types. -/
theorem values_of_agree {bound : Bound} {handlers : Handlers} {mappings : List Mapping}
    {reserved? : String → Option Value}
    (h : List.Forall₂ (Mapping.AgreeUpToType handlers) mappings bound.mappings)
    (hreserved : ∀ name, bound.additional.get? name = reserved? name) :
    bound.values = mappings.mapM (·.valueAmong bound.accessor reserved? bound.parameter) := by
  obtain rfl := funext hreserved
  exact (mapM_eq_mapM (h.imp fun m n hpair =>
    hpair.valueAmong_eq.trans (bound.value_eq n).symm)).symm

end Bound

namespace Engine

variable {engine : Engine} {content : String} {parameterType : ValueType} {name : Option String}
  {source : Source} {parameter : Value} {memory : Memory} {fixed bound : Bound}

/-- A text without tokens is prepared when it is compiled, and bound with no additional values. -/
theorem bind_of_compile (htoken : Delimiters.substitution.hasToken content.toList = false)
    (hsource : engine.compile (.text content) parameterType name = .ok source)
    (h : (engine.bind source parameter memory).1 = .ok fixed) :
    Prepared.ofText engine.config (engine.surroundings parameterType .null [])
        (Text.trim content.toList) = .ok fixed.toPrepared ∧
      fixed.accessor = engine.accessor ∧ fixed.parameter = parameter ∧ fixed.additional = [] := by
  have hnode : Template.compile engine.config (.text content) =
      .ok (.mixed [.text content.toList]) := by
    rw [Template.compile, Template.compileText, htoken]
    rfl
  have hchunks (s : RenderState) : (Node.mixed [.text content.toList]).render.Gives s true
      [content.toList] s := by
    rw [Node.render, gives_bind]
    exact ⟨(), _, s, [], Node.gives_renderAll_cons.mpr ⟨true, _, s, [],
      Node.gives_text.mpr ⟨rfl, rfl, rfl⟩, Node.gives_renderAll_nil.mpr ⟨rfl, rfl⟩, rfl⟩,
      gives_pure.mpr ⟨rfl, rfl, rfl⟩, rfl⟩
  obtain ⟨root, hroot, hrest⟩ := bind_eq_ok.mp hsource
  obtain rfl := Except.ok.inj (hnode.symm.trans hroot)
  obtain ⟨statement, hstatement, hprepared⟩ := bind_eq_ok.mp hrest
  obtain rfl := Except.ok.inj hprepared
  obtain rfl := Except.ok.inj h
  exact ⟨(engine.prepareNode_eq hchunks parameterType).symm.trans hstatement, rfl, rfl, rfl⟩

/-- A text is rendered as it is, and bound with what bindings start with. -/
theorem bind_of_text
    (h : (engine.bind (.dynamic (.text content.toList) name) parameter memory).1 = .ok bound) :
    Prepared.ofText engine.config
        (engine.surroundings (.of parameter) parameter
          (Bindings.seed parameter engine.config.database).entries)
        (Text.trim content.toList) = .ok bound.toPrepared ∧
      bound.accessor = engine.accessor ∧ bound.parameter = parameter ∧
      bound.additional = (Bindings.seed parameter engine.config.database).entries := by
  obtain ⟨contributed, chunks, t, statement, hgives, hstatement, rfl⟩ := renderNode_eq_ok.mp h
  obtain ⟨-, rfl, rfl⟩ := Node.gives_text.mp hgives
  exact ⟨hstatement, rfl, rfl, rfl⟩

/-- A text without tokens is compiled to a statement that is prepared ahead of any parameter, and
can be rendered for each parameter as well. Where both ways lead to values, they lead to the same
text and to mappings that differ in their types at most. To the prepared statement no name is
reserved, to the rendered one those are that bindings start with, and this is all the difference
between their values. So the values are the same exactly if every marker is indifferent. -/
theorem values_of_static_text {other : Option String} {plain rendered : List Value}
    (htoken : Delimiters.substitution.hasToken content.toList = false)
    (hsource : engine.compile (.text content) parameterType name = .ok source)
    (hfixed : (engine.bind source parameter memory).1 = .ok fixed)
    (hbound : (engine.bind (.dynamic (.text content.toList) other) parameter memory).1 = .ok bound)
    (hplain : fixed.values = .ok plain) (hrendered : bound.values = .ok rendered) :
    let reserved? := Bindings.reserved? parameter engine.config.database
    fixed.sql = bound.sql ∧
      List.Forall₂ (Mapping.AgreeUpToType engine.handlers) fixed.mappings bound.mappings ∧
      List.Forall₂ (fun m value => m.valueAmong engine.accessor (fun _ => none) parameter =
        .ok value) fixed.mappings plain ∧
      List.Forall₂ (fun m value => m.valueAmong engine.accessor reserved? parameter =
        .ok value) fixed.mappings rendered ∧
      (plain = rendered ↔
        ∀ m ∈ fixed.mappings, m.Indifferent engine.accessor reserved? parameter) := by
  intro reserved?
  obtain ⟨hprepared, haccessor, rfl, hnone⟩ := bind_of_compile htoken hsource hfixed
  obtain ⟨hstatement, haccessor', hparameter, hseed⟩ := bind_of_text hbound
  obtain ⟨hsql, hmappings⟩ := Prepared.ofText_eq_ok.mp hprepared
  obtain ⟨hsql', hmappings'⟩ := Prepared.ofText_eq_ok.mp hstatement
  have hhandlers : (engine.surroundings (.of fixed.parameter) fixed.parameter
      (Bindings.seed fixed.parameter engine.config.database).entries).handlers =
        (engine.surroundings parameterType .null []).handlers := rfl
  have hagree : List.Forall₂ (Mapping.AgreeUpToType engine.handlers) fixed.mappings
      bound.mappings :=
    forall₂_of_common hmappings hmappings' fun _ _ _ hm hn =>
      Mapping.agree_of_ofBody hhandlers hm hn
  have hself : List.Forall₂ (Mapping.AgreeUpToType engine.handlers) fixed.mappings
      fixed.mappings :=
    List.forall₂_same.mpr fun m _ => .refl engine.handlers m
  have hbare (name : String) : fixed.additional.get? name = none := by
    rw [hnone]
    rfl
  have hreserved (name : String) : bound.additional.get? name = reserved? name := by
    rw [hseed]
    exact Bindings.get?_seed_eq fixed.parameter engine.config.database name
  rw [Bound.values_of_agree hself hbare, haccessor] at hplain
  rw [Bound.values_of_agree hagree hreserved, haccessor', hparameter] at hrendered
  refine ⟨hsql.trans hsql'.symm, hagree, mapM_eq_ok.mp hplain, mapM_eq_ok.mp hrendered, ?_⟩
  rw [eq_iff_of_mapM hplain hrendered]
  exact forall₂_congr fun m _ => Mapping.valueAmong_eq_iff

/-- A marker for each reserved name, one with a longer path, and one for a name that is not
reserved. -/
def markersForReserved : String :=
  "SELECT #\x7b_parameter\x7d, #\x7b_parameter.id\x7d, #\x7b_databaseId\x7d, #\x7bid\x7d"

/-- The prepared statement finds `null` for all reserved names, and the rendered one finds a value
for each. -/
theorem exists_values_of_reserved :
    let engine : Engine := { config := { database := some "pg" } }
    let parameter : Value := .obj [("id", .ofNat 1)]
    ∃ source fixed bound plain rendered,
      Delimiters.substitution.hasToken markersForReserved.toList = false ∧
      engine.compile (.text markersForReserved) .any none = .ok source ∧
      (engine.bind source parameter engine.memory).1 = .ok fixed ∧
      (engine.bind (.dynamic (.text markersForReserved.toList) none) parameter
        engine.memory).1 = .ok bound ∧
      fixed.values = .ok plain ∧ bound.values = .ok rendered ∧
      fixed.mappings.map Mapping.root = ["_parameter", "_parameter", "_databaseId", "id"] ∧
      plain.map Value.isNull = [true, true, true, false] ∧
      rendered.map Value.isNull = [false, false, false, false] := by
  intro engine parameter
  have hprepared : (do
      let source ← engine.compile (.text markersForReserved) .any none
      let fixed ← (engine.bind source parameter engine.memory).1
      let values ← fixed.values
      return (fixed.mappings.map Mapping.root, values.map Value.isNull) :
        Except Error (List String × List Bool)).toOption =
      some (["_parameter", "_parameter", "_databaseId", "id"], [true, true, true, false]) := by
    decide +kernel
  have hdynamic : (do
      let bound ← (engine.bind (.dynamic (.text markersForReserved.toList) none) parameter
        engine.memory).1
      let values ← bound.values
      return values.map Value.isNull : Except Error (List Bool)).toOption =
      some [false, false, false, false] := by
    decide +kernel
  obtain ⟨source, hsource, hrest⟩ := bind_eq_ok.mp (toOption_inj hprepared rfl)
  obtain ⟨fixed, hfixed, hrest⟩ := bind_eq_ok.mp hrest
  obtain ⟨plain, hplain, hread⟩ := bind_eq_ok.mp hrest
  obtain ⟨hroots, hnulls⟩ := Prod.mk.inj (Except.ok.inj hread)
  obtain ⟨bound, hbound, hrest⟩ := bind_eq_ok.mp (toOption_inj hdynamic rfl)
  obtain ⟨rendered, hrendered, hnulls'⟩ := bind_eq_ok.mp hrest
  exact ⟨source, fixed, bound, plain, rendered, by decide +kernel, hsource, hfixed, hbound, hplain,
    hrendered, hroots, hnulls, Except.ok.inj hnulls'⟩

/-- The two statements for that text have the same text and different values, so that not every
marker is indifferent. -/
theorem values_of_reserved_differ :
    let engine : Engine := { config := { database := some "pg" } }
    let parameter : Value := .obj [("id", .ofNat 1)]
    ∃ source fixed bound plain rendered,
      engine.compile (.text markersForReserved) .any none = .ok source ∧
      (engine.bind source parameter engine.memory).1 = .ok fixed ∧
      (engine.bind (.dynamic (.text markersForReserved.toList) none) parameter
        engine.memory).1 = .ok bound ∧
      fixed.values = .ok plain ∧ bound.values = .ok rendered ∧ fixed.sql = bound.sql ∧
      ¬∀ m ∈ fixed.mappings, m.Indifferent engine.accessor
        (Bindings.reserved? parameter engine.config.database) parameter := by
  intro engine parameter
  obtain ⟨source, fixed, bound, plain, rendered, htoken, hsource, hfixed, hbound, hplain,
    hrendered, -, hnulls, hnulls'⟩ := exists_values_of_reserved
  obtain ⟨hsql, -, -, -, hsame⟩ :=
    values_of_static_text htoken hsource hfixed hbound hplain hrendered
  refine ⟨source, fixed, bound, plain, rendered, hsource, hfixed, hbound, hplain, hrendered, hsql,
    fun hindifferent => ?_⟩
  rw [hsame.mpr hindifferent, hnulls'] at hnulls
  exact absurd hnulls (by decide)

/-- A prepared statement need not find for reserved names what a rendered one finds. -/
theorem not_values_of_reserved_agree :
    ¬∀ (engine : Engine) (content : String) (parameterType : ValueType) (name : Option String)
      (source : Source) (parameter : Value) (memory : Memory) (fixed bound : Bound)
      (plain rendered : List Value),
      Delimiters.substitution.hasToken content.toList = false →
      (∃ m ∈ fixed.mappings, m.root ∈ [Bindings.parameterName, Bindings.databaseName]) →
      engine.compile (.text content) parameterType name = .ok source →
      (engine.bind source parameter memory).1 = .ok fixed →
      (engine.bind (.dynamic (.text content.toList) name) parameter memory).1 = .ok bound →
      fixed.values = .ok plain → bound.values = .ok rendered → plain = rendered := by
  intro h
  obtain ⟨source, fixed, bound, plain, rendered, htoken, hsource, hfixed, hbound, hplain,
    hrendered, hroots, hnulls, hnulls'⟩ := exists_values_of_reserved
  have hreserved : ∃ m ∈ fixed.mappings,
      m.root ∈ [Bindings.parameterName, Bindings.databaseName] := by
    have hmem : "_parameter" ∈ fixed.mappings.map Mapping.root := by
      rw [hroots]
      exact List.mem_cons_self
    obtain ⟨m, hm, hroot⟩ := List.mem_map.mp hmem
    exact ⟨m, hm, hroot ▸ List.mem_cons_self⟩
  rw [h _ _ _ _ _ _ _ _ _ _ _ htoken hreserved hsource hfixed hbound hplain hrendered,
    hnulls'] at hnulls
  exact absurd hnulls (by decide)

end Engine

end SqlTemplate
