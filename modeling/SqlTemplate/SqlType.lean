import SqlTemplate.Text

/-!
# SQL types and directions of parameters

The names that a placeholder may declare. Their case counts.
-/

namespace SqlTemplate

/-- The SQL types that a placeholder may declare. -/
inductive SqlType
  | array
  | bit
  | tinyInt
  | smallInt
  | integer
  | bigInt
  | float
  | real
  | double
  | numeric
  | decimal
  | char
  | varChar
  | longVarChar
  | date
  | time
  | timestamp
  | binary
  | varBinary
  | longVarBinary
  | null
  | other
  | blob
  | clob
  | boolean
  | cursor
  | undefined
  | nVarChar
  | nChar
  | nClob
  | struct
  | javaObject
  | distinct
  | ref
  | dataLink
  | rowId
  | longNVarChar
  | sqlXml
  | dateTimeOffset
  | timeWithTimezone
  | timestampWithTimezone
  deriving DecidableEq, Repr

namespace SqlType

/-- Every SQL type. -/
def all : List SqlType := [
  array, bit, tinyInt, smallInt, integer, bigInt, float, real, double, numeric, decimal, char,
  varChar, longVarChar, date, time, timestamp, binary, varBinary, longVarBinary, null, other, blob,
  clob, boolean, cursor, undefined, nVarChar, nChar, nClob, struct, javaObject, distinct, ref,
  dataLink, rowId, longNVarChar, sqlXml, dateTimeOffset, timeWithTimezone, timestampWithTimezone]

/-- The name of a SQL type. -/
def name : SqlType → String
  | array => "ARRAY"
  | bit => "BIT"
  | tinyInt => "TINYINT"
  | smallInt => "SMALLINT"
  | integer => "INTEGER"
  | bigInt => "BIGINT"
  | float => "FLOAT"
  | real => "REAL"
  | double => "DOUBLE"
  | numeric => "NUMERIC"
  | decimal => "DECIMAL"
  | char => "CHAR"
  | varChar => "VARCHAR"
  | longVarChar => "LONGVARCHAR"
  | date => "DATE"
  | time => "TIME"
  | timestamp => "TIMESTAMP"
  | binary => "BINARY"
  | varBinary => "VARBINARY"
  | longVarBinary => "LONGVARBINARY"
  | null => "NULL"
  | other => "OTHER"
  | blob => "BLOB"
  | clob => "CLOB"
  | boolean => "BOOLEAN"
  | cursor => "CURSOR"
  | undefined => "UNDEFINED"
  | nVarChar => "NVARCHAR"
  | nChar => "NCHAR"
  | nClob => "NCLOB"
  | struct => "STRUCT"
  | javaObject => "JAVA_OBJECT"
  | distinct => "DISTINCT"
  | ref => "REF"
  | dataLink => "DATALINK"
  | rowId => "ROWID"
  | longNVarChar => "LONGNVARCHAR"
  | sqlXml => "SQLXML"
  | dateTimeOffset => "DATETIMEOFFSET"
  | timeWithTimezone => "TIME_WITH_TIMEZONE"
  | timestampWithTimezone => "TIMESTAMP_WITH_TIMEZONE"

/-- The SQL type with the given name. -/
def ofName? (text : Text) : Option SqlType := all.find? (·.name.toList == text)

end SqlType

/-- The direction of a parameter. -/
inductive ParameterMode
  | input
  | output
  | both
  deriving DecidableEq, Repr

namespace ParameterMode

/-- The name of a direction. -/
def name : ParameterMode → String
  | input => "IN"
  | output => "OUT"
  | both => "INOUT"

/-- The direction with the given name. -/
def ofName? (text : Text) : Option ParameterMode :=
  [input, output, both].find? (·.name.toList == text)

/-- Whether a value is sent for the parameter. -/
def isInput : ParameterMode → Bool
  | input | both => true
  | output => false

end ParameterMode

end SqlTemplate
