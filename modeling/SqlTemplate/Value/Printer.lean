import SqlTemplate.Decimal.Shortest
import SqlTemplate.Value.Basic

/-!
# The JSON text of values

Values are written without blanks, object fields in key order. The same text stands for lists and
objects in statements and in error messages.
-/

namespace SqlTemplate

/-- Exponents from `-5` to `15` are written positionally, a positive exponent with its sign. -/
def Number.floatFormat : FloatFormat := ⟨-5, 16, true⟩

/-- The decimal text of a number. -/
def Number.toText : Number → Text
  | .int n => Text.ofInt n
  | .float x => Number.floatFormat.write x

namespace JsonString

/-- The hexadecimal digits of `n`, padded with zeros to `width` places. -/
def hex (width n : Nat) : Text :=
  let digits := Nat.toDigits 16 n
  List.replicate (width - digits.length) '0' ++ digits

/-- A character inside quotes: quotes, backslashes and control characters are escaped. -/
def escape (c : Char) : Text :=
  match c with
  | '"' => ['\\', '"']
  | '\\' => ['\\', '\\']
  | '\n' => ['\\', 'n']
  | '\r' => ['\\', 'r']
  | '\t' => ['\\', 't']
  | _ =>
    if c.toNat = 0x8 then ['\\', 'b']
    else if c.toNat = 0xC then ['\\', 'f']
    else if c.toNat < 0x20 then '\\' :: 'u' :: hex 4 c.toNat
    else [c]

/-- The quoted text. -/
def quote (text : Text) : Text := '"' :: text.flatMap escape ++ ['"']

end JsonString

namespace Value

mutual

/-- The compact JSON text of a value. -/
def toJson : Value → Text
  | .null => ['n', 'u', 'l', 'l']
  | .bool true => ['t', 'r', 'u', 'e']
  | .bool false => ['f', 'a', 'l', 's', 'e']
  | .num n => n.toText
  | .str s => JsonString.quote s.toList
  | .arr items => '[' :: itemsToJson items ++ [']']
  | .obj fields => '{' :: fieldsToJson fields ++ ['}']

/-- The items of a list, separated by commas. -/
def itemsToJson : List Value → Text
  | [] => []
  | [item] => toJson item
  | item :: next :: rest => toJson item ++ ',' :: itemsToJson (next :: rest)

/-- The fields of an object, separated by commas. -/
def fieldsToJson : List (String × Value) → Text
  | [] => []
  | [(key, value)] => JsonString.quote key.toList ++ ':' :: toJson value
  | (key, value) :: next :: rest =>
    JsonString.quote key.toList ++ ':' :: toJson value ++ ',' :: fieldsToJson (next :: rest)

end

/-- The text that a value contributes to a statement: `null` nothing, a string itself, any other
value its JSON text. -/
def toSql : Value → Text
  | .null => []
  | .str s => s.toList
  | value => toJson value

end Value

end SqlTemplate
