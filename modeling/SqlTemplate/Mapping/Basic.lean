import SqlTemplate.Accessor
import SqlTemplate.Handler
import SqlTemplate.Placeholder
import SqlTemplate.SqlType

/-!
# Parameter mappings

A mapping says how the value of one marker is found and bound. It is made from the body of a
placeholder, together with what is known of the parameter.
-/

namespace SqlTemplate

/-- How the value of one marker is found and bound. -/
structure Mapping where
  property : Text
  valueType : ValueType
  handler : Handler
  sqlType : Option SqlType := none
  sqlTypeName : Option Text := none
  mode : ParameterMode := .input
  scale : Option Nat := none
  resultMap : Option Text := none

/-- What is known when placeholders are resolved. -/
structure Surroundings where
  accessor : Accessor
  handlers : Handlers
  /-- The type of the parameter, declared or actual. -/
  parameterType : ValueType
  parameter : Value
  /-- Values under names of their own, which come before the parameter. -/
  additional : Fields

namespace Mapping

/-- The type of a property: that of the value it finds, or the type of a scalar parameter. -/
def resolveType (known : Surroundings) (p : Placeholder) : Except Error ValueType :=
  let property := p.property
  let (root, rest) := Path.splitRoot property
  match known.additional.get? (String.ofList root) with
  | some bound =>
    match rest with
    | none => .ok (.of bound)
    | some rest => (known.accessor.typeAt? bound rest).map (·.getD .any)
  | none =>
    if known.parameterType.isScalar then .ok known.parameterType
    else if p.get? "jdbcType".toList = some SqlType.cursor.name.toList then .ok .cursor
    else (known.accessor.typeAt? known.parameter property).map (·.getD .any)

/-- What the attributes of a placeholder say. -/
structure Draft where
  valueType : ValueType
  sqlType : Option SqlType := none
  sqlTypeName : Option Text := none
  mode : ParameterMode := .input
  scale : Option Nat := none
  resultMap : Option Text := none
  handlerName : Option Text := none

/-- The error about an attribute, at the first place where its key occurs in the body. -/
def faultAt (body key : Text) (fault : SyntaxFault) : Error :=
  .malformed body ((Text.offsetOf? key body).getD 0) fault

/-- The draft after one more attribute. -/
def Draft.set (body : Text) (draft : Draft) (key value : Text) : Except Error Draft :=
  let orFault {α : Type} (found : Option α) (fault : SyntaxFault) : Except Error α :=
    match found with
    | some a => .ok a
    | none => .error (faultAt body key fault)
  match String.ofList key with
  | "property" => .ok draft
  | "javaType" => do
    let valueType ← orFault (ValueType.ofAlias? value) (.unknownValueType value)
    return { draft with valueType }
  | "jdbcType" => do
    let sqlType ← orFault (SqlType.ofName? value) (.unknownSqlType value)
    return { draft with sqlType := some sqlType }
  | "mode" => do
    let mode ← orFault (ParameterMode.ofName? value) (.unknownMode value)
    return { draft with mode }
  | "numericScale" => do
    let scale ← orFault (Text.toNatBelow? UInt32.size value) (.badScale value)
    return { draft with scale := some scale }
  | "resultMap" => .ok { draft with resultMap := some value }
  | "typeHandler" => .ok { draft with handlerName := some value }
  | "jdbcTypeName" => .ok { draft with sqlTypeName := some value }
  | "expression" => .error (.unsupported body)
  | _ => .error (faultAt body key (.invalidAttribute key))

/-- The draft after several attributes, in order. -/
def Draft.setAll (body : Text) (draft : Draft) (entries : List (Text × Text)) :
    Except Error Draft :=
  entries.foldlM (fun draft (key, value) => draft.set body key value) draft

/-- The handler that a draft names, or the one for its type. -/
def Draft.handler (body : Text) (handlers : Handlers) (draft : Draft) : Except Error Handler :=
  match draft.handlerName with
  | none => .ok (handlers.defaultFor draft.valueType)
  | some name =>
    match handlers.resolve? name with
    | some handler => .ok handler
    | none => .error (faultAt body "typeHandler".toList (.unknownHandler name))

/-- The mapping for the body of a placeholder. -/
def ofBody (known : Surroundings) (body : Text) : Except Error Mapping := do
  let p ← Placeholder.parse body
  let valueType ← resolveType known p
  let draft ← Draft.setAll body { valueType } p.entries
  let handler ← draft.handler body known.handlers
  if draft.valueType = .cursor && draft.resultMap.isNone then
    .error (.malformed body 0 (.missingResultMap p.property))
  else
    return {
      property := p.property
      valueType := draft.valueType
      handler
      sqlType := draft.sqlType
      sqlTypeName := draft.sqlTypeName
      mode := draft.mode
      scale := draft.scale
      resultMap := draft.resultMap }

end Mapping

end SqlTemplate
