import SqlTemplate.Statement.Bound

/-!
# Values on the wire

The typed form in which values are sent to the database, and its bytes. Integers are narrowed where
the SQL type is narrow; lists and objects are sent as JSON.
-/

namespace SqlTemplate

/-- A value as it is sent. -/
inductive WireValue
  | null
  | bool (b : Bool)
  /-- An integer of two, four or eight bytes. -/
  | int (bytes : Nat) (n : Int)
  | float4 (x : Float)
  | float8 (x : Float)
  | text (text : Text)
  | json (value : Value)

namespace WireValue

/-- The name of the type that a value is sent as. -/
def typeName : WireValue → String
  | null => "null"
  | bool _ => "bool"
  | int bytes _ => "int" ++ toString bytes
  | float4 _ => "float4"
  | float8 _ => "float8"
  | text _ => "text"
  | json _ => "json"

/-- The lowest `count` bytes of a number, most significant first. -/
def bigEndian : Nat → Nat → List UInt8
  | 0, _ => []
  | count + 1, n => UInt8.ofNat (n >>> (8 * count)) :: bigEndian count n

/-- The bytes of a text in UTF-8. -/
def utf8 (text : Text) : List UInt8 := (String.ofList text).toUTF8.toList

/-- The bytes that are sent. Negative integers are in two's complement, floats are their bits. -/
def bytes : WireValue → List UInt8
  | null => []
  | bool b => [if b then 1 else 0]
  | int count n => bigEndian count (n % (1 <<< (8 * count) : Nat)).toNat
  | float4 x => bigEndian 4 x.toFloat32.toBits.toNat
  | float8 x => bigEndian 8 x.toBits.toNat
  | text t => utf8 t
  | json value => utf8 value.toJson

/-- Whether an integer fits `count` bytes with its sign. -/
def fits (count : Nat) (n : Int) : Bool :=
  let bound : Nat := 1 <<< (8 * count - 1)
  decide (-bound ≤ n) && decide (n < bound)

/-- The bytes that an integer of a SQL type takes, and the name of the type in messages. -/
def width : Option SqlType → Nat × String
  | some .tinyInt | some .smallInt => (2, "SMALLINT")
  | some .integer => (4, "INTEGER")
  | _ => (8, "integer")

/-- A float as it is sent. -/
def ofFloat (sqlType : Option SqlType) (x : Float) : WireValue :=
  if sqlType = some .real then float4 x else float8 x

/-- The value of a mapping as it is sent. A declared scalar type has to be that of the value, but
an integer is a valid float. -/
def ofValue (mapping : Mapping) (value : Value) : Except Error WireValue :=
  let declared := mapping.valueType
  let actual := ValueType.of value
  let fault (fault : EvaluationFault) : Except Error WireValue :=
    .error (.evaluation mapping.property fault)
  if declared.isScalar && !value.isNull && declared ≠ actual &&
      !(declared = .float && actual = .integer) then
    fault (.typeMismatch declared actual)
  else
    match value with
    | .null => .ok null
    | .bool b => .ok (bool b)
    | .str s => .ok (text s.toList)
    | .num (.float x) => .ok (ofFloat mapping.sqlType x)
    | .num (.int n) =>
      if declared = .float || !Number.inRange n then
        .ok (ofFloat mapping.sqlType (Binary64.ofInt n))
      else
        let (count, name) := width mapping.sqlType
        if fits count n then .ok (int count n) else fault (.outOfRange name)
    | .arr _ | .obj _ => .ok (json value)

end WireValue

/-- The values of all markers as they are sent, in order. -/
def Bound.wireValues (bound : Bound) : Except Error (List WireValue) := do
  let values ← bound.values
  (bound.mappings.zip values).mapM fun (mapping, value) => WireValue.ofValue mapping value

end SqlTemplate
