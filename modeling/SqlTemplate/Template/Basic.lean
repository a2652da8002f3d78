import SqlTemplate.Value.Basic

/-!
# Templates

A template is text, or an element with attributes and children. As JSON it is an object with the
one key `text` or `element`.
-/

namespace SqlTemplate

/-- A template as it is written. -/
inductive Template
  | text (content : String)
  | element (name : String) (attributes : List (String × String)) (children : List Template)

instance : Inhabited Template := ⟨.text ""⟩

namespace Template

/-- The name of an element. -/
def name? : Template → Option String
  | text _ => none
  | element name _ _ => some name

/-- The first value of an attribute. -/
def attribute? : Template → String → Option String
  | text _, _ => none
  | element _ attributes _, key => attributes.lookup key

/-- The children of an element. -/
def children : Template → List Template
  | text _ => []
  | element _ _ children => children

/-- The attributes that a list of pairs of strings describes. -/
def attributesOfValue? : Value → Option (List (String × String))
  | .arr items => items.mapM fun
    | .arr [.str key, .str value] => some (key, value)
    | _ => none
  | _ => none

mutual

/-- The template that a value describes. Fields of an element that are not known count for
nothing; only its name has to be there. -/
def ofValue? : Value → Option Template
  | .obj [("text", .str content)] => some (text content)
  | .obj [("element", .obj fields)] => do
    let name ← match Fields.get? fields "name" with
      | some (.str name) => some name
      | _ => none
    let attributes ← match Fields.get? fields "attributes" with
      | some value => attributesOfValue? value
      | none => some []
    let children ← childrenOfFields? fields
    return element name attributes children
  | _ => none

/-- The children that the field `children` describes; none without that field. -/
def childrenOfFields? : List (String × Value) → Option (List Template)
  | [] => some []
  | (key, value) :: rest =>
    if key = "children" then
      match value with
      | .arr items => ofValues? items
      | _ => none
    else childrenOfFields? rest

/-- The templates that the items of a list describe. -/
def ofValues? : List Value → Option (List Template)
  | [] => some []
  | value :: rest => do
    let first ← ofValue? value
    return first :: (← ofValues? rest)

end

mutual

/-- The value that describes a template. -/
def toValue : Template → Value
  | text content => .obj [("text", .str content)]
  | element name attributes children =>
    .obj [("element", .obj [
      ("attributes", .arr (attributes.map fun (key, value) => .arr [.str key, .str value])),
      ("children", .arr (toValues children)),
      ("name", .str name)])]

/-- The values that describe templates. -/
def toValues : List Template → List Value
  | [] => []
  | first :: rest => toValue first :: toValues rest

end

end Template

end SqlTemplate
