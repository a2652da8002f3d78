import SqlTemplate.Error

/-!
# Placeholders

The body of a placeholder is a property, an optional SQL type after a colon, and attributes
`key=value` after commas. Keys and values lose their outer blanks; the order of the attributes is
kept.
-/

namespace SqlTemplate

/-- The attributes of a placeholder, in the order in which their keys first occur. -/
structure Placeholder where
  entries : List (Text × Text)
  deriving DecidableEq, Repr

namespace Placeholder

/-- The entries with `value` for `key`, in place of a value that was there. -/
def insert (key value : Text) : List (Text × Text) → List (Text × Text)
  | [] => [(key, value)]
  | (other, old) :: rest =>
    if other = key then (other, value) :: rest else (other, old) :: insert key value rest

/-- The value of an attribute. -/
def get? (p : Placeholder) (key : Text) : Option Text := p.entries.lookup key

/-- The property path. -/
def property (p : Placeholder) : Text := (p.get? "property".toList).getD []

/-- The characters that may pad a body: the space and the control characters before it. -/
def isPadding (c : Char) : Bool := c.toNat ≤ 0x20

/-- `text` without the padding it starts with. -/
def skipPadding (text : Text) : Text := text.dropWhile isPadding

/-- The attributes in the pieces between commas, the first of which stands at byte `offset`.
Nothing need follow the last comma. -/
def attributes (offset : Nat) : List Text → Except (Nat × SyntaxFault) (List (Text × Text))
  | [] => .ok []
  | piece :: more =>
    let content := skipPadding piece
    let start := offset + (Text.byteSize piece - Text.byteSize content)
    if content.isEmpty && more.isEmpty then .ok []
    else
      match content.spanWhile (· ≠ '=') with
      | (_, []) => .error (start, .missingAttributeValue)
      | (key, _ :: value) =>
        if key.blank then .error (start, .emptyAttributeName)
        else
          (attributes (offset + Text.byteSize piece + 1) more).map
            ((key.trim, Text.trim value) :: ·)

/-- The attributes after a comma at byte `offset`; no text, no attributes. -/
def trailing (offset : Nat) : Text → Except (Nat × SyntaxFault) (List (Text × Text))
  | [] => .ok []
  | _ :: rest => attributes (offset + 1) (Text.splitOn ',' rest)

/-- What follows the property at byte `offset`: the SQL type after a colon, and the attributes. -/
def tail (offset : Nat) : Text → Except (Nat × SyntaxFault) (List (Text × Text))
  | ':' :: rest =>
    let (sqlType, after) := Text.spanWhile (· ≠ ',') rest
    if Text.blank (skipPadding sqlType) then .error (offset, .missingSqlType)
    else
      (trailing (offset + 1 + Text.byteSize sqlType) after).map
        (("jdbcType".toList, Text.trim (skipPadding sqlType)) :: ·)
  | rest => trailing offset rest

/-- The placeholder with the given body. A body that starts with a parenthesis would be an
expression, which no placeholder takes. -/
def parse (body : Text) : Except Error Placeholder :=
  let content := skipPadding body
  let start := body.byteSize - content.byteSize
  if content.head? = some '(' then .error (.unsupported body)
  else
    let (property, rest) := content.spanWhile fun c => c ≠ ',' && c ≠ ':'
    if property.blank then .error (.malformed body start .missingProperty)
    else
      match tail (start + property.byteSize) rest with
      | .error (offset, fault) => .error (.malformed body offset fault)
      | .ok entries =>
        .ok ⟨entries.foldl (fun all (key, value) => insert key value all)
          [("property".toList, property.trim)]⟩

end Placeholder

end SqlTemplate
