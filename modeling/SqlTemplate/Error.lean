import SqlTemplate.Value.Printer
import SqlTemplate.ValueType

/-!
# Errors

Every error names its cause; `Error.message` is the one place that words them. Positions count
bytes from the start of the fragment that is named with them.
-/

namespace SqlTemplate

/-- Why a property path, a placeholder or one of its attributes is malformed. -/
inductive SyntaxFault
  | emptyPath
  | emptySegment
  | trailingDot
  | unclosedQuotedKey
  | unclosedBracket
  | emptyIndex
  | missingSeparator
  | strayBracket
  | missingProperty
  | missingSqlType
  | missingAttributeValue
  | emptyAttributeName
  | unknownValueType (name : Text)
  | unknownSqlType (name : Text)
  | unknownMode (name : Text)
  | badScale (text : Text)
  | invalidAttribute (name : Text)
  | unknownHandler (name : Text)
  | missingResultMap (property : Text)

/-- What is wrong with the text of an expression. -/
inductive ParseFault
  | unterminatedString
  | unexpectedCharacter (c : Char)
  | unexpectedToken
  | trailingInput
  | expectedProperty
  | expected (what : String)
  | expectedCommaOr (what : String)
  | unexpectedEnd

/-- Why an expression has no value, or a value no use. -/
inductive EvaluationFault
  | parse (fault : ParseFault) (position : Nat)
  | unbound (name : String)
  | integerOverflow
  | notNegatable
  | nullProperty (name : String)
  | noProperty (name : String) (target : ValueType)
  | badListIndex (n : Number)
  | nullIndex
  | notIndexable
  | arity (method : String) (expected got : Nat)
  | nullMethod (method : String)
  | unknownMethod (method : String) (target : ValueType)
  | notComparable (left right : Value)
  | divisionByZero
  | notNumeric (left right : Value)
  | nullCollection
  | notIterable (value : Value)
  | typeMismatch (declared actual : ValueType)
  | outOfRange (target : String)
  /-- A fault that a handler supplied by the caller words itself. -/
  | reported (message : String)

/-- Why a template is not well formed. -/
inductive BuildFault
  | unknownElement (name : String)
  | missingAttribute (element key : String)
  | badNullable (value : Text)
  | repeatedOtherwise
  | unexpectedElement (name : String)
  | unexpectedText

/-- Whatever can go wrong while a statement is compiled, rendered or bound. -/
inductive Error
  | malformed (fragment : Text) (position : Nat) (fault : SyntaxFault)
  | unsupported (fragment : Text)
  | evaluation (expression : Text) (fault : EvaluationFault)
  | rejected (value : Text) (pattern : String)
  | build (fault : BuildFault)
  /-- The configuration is not readable or its filter no pattern. -/
  | config

/-- The attributes of a placeholder, as a message lists them. -/
def attributeNames : String :=
  "javaType, jdbcType, mode, numericScale, resultMap, typeHandler, jdbcTypeName, property"

namespace SyntaxFault

/-- The wording of a malformed path, placeholder or attribute. -/
def message : SyntaxFault → String
  | emptyPath => "empty property path"
  | emptySegment => "empty path segment"
  | trailingDot => "trailing '.' in property path"
  | unclosedQuotedKey => "expected ']' after quoted key"
  | unclosedBracket => "unclosed '[' in property path"
  | emptyIndex => "empty index"
  | missingSeparator => "expected '.' or '[' between path segments"
  | strayBracket => "unexpected ']' in property path"
  | missingProperty => "missing property"
  | missingSqlType => "missing jdbcType after ':'"
  | missingAttributeValue => "expected 'key=value' attribute"
  | emptyAttributeName => "empty attribute name"
  | unknownValueType name => "unknown javaType '" ++ String.ofList name ++ "'"
  | unknownSqlType name => "unknown jdbcType '" ++ String.ofList name ++ "'"
  | unknownMode name => "unknown parameter mode '" ++ String.ofList name ++ "'"
  | badScale text =>
    "numericScale must be a non-negative integer, got '" ++ String.ofList text ++ "'"
  | invalidAttribute name =>
    "invalid attribute '" ++ String.ofList name ++ "' in mapping; valid attributes are " ++
      attributeNames
  | unknownHandler name => "no type handler named '" ++ String.ofList name ++ "'"
  | missingResultMap property =>
    "missing resultMap for property '" ++ String.ofList property ++
      "'; cursor parameters require a resultMap"

end SyntaxFault

namespace ParseFault

/-- The wording of a fault in the text of an expression, without its position. -/
def message : ParseFault → String
  | unterminatedString => "unterminated string literal"
  | unexpectedCharacter c => "unexpected character '" ++ String.singleton c ++ "'"
  | unexpectedToken => "unexpected token"
  | trailingInput => "unexpected trailing input"
  | expectedProperty => "expected property name"
  | expected what => "expected " ++ what
  | expectedCommaOr what => "expected ',' or " ++ what
  | unexpectedEnd => "unexpected end of expression"

end ParseFault

namespace EvaluationFault

/-- The wording of a fault of evaluation. -/
def message : EvaluationFault → String
  | parse fault position => fault.message ++ " at " ++ toString position
  | unbound name => "no binding named '" ++ name ++ "'"
  | integerOverflow => "integer overflow"
  | notNegatable => "cannot negate a non-numeric value"
  | nullProperty name => "source is null for property '" ++ name ++ "'"
  | noProperty name target => "no property '" ++ name ++ "' on " ++ target.name
  | badListIndex n => "invalid list index " ++ String.ofList n.toText
  | nullIndex => "source is null for index access"
  | notIndexable => "value is not indexable"
  | arity method expected got =>
    "method '" ++ method ++ "' expects " ++ toString expected ++ " argument(s), got " ++
      toString got
  | nullMethod method => "source is null for method '" ++ method ++ "'"
  | unknownMethod method target => "unknown method '" ++ method ++ "' on " ++ target.name
  | notComparable left right =>
    "cannot compare " ++ String.ofList left.toJson ++ " with " ++ String.ofList right.toJson
  | divisionByZero => "division by zero"
  | notNumeric left right =>
    "arithmetic on non-numeric values " ++ String.ofList left.toJson ++ " and " ++
      String.ofList right.toJson
  | nullCollection => "the expression evaluated to a null value"
  | notIterable value => "return value (" ++ String.ofList value.toJson ++ ") was not iterable"
  | typeMismatch declared actual =>
    "expected a " ++ declared.name ++ " parameter value, got " ++ actual.name
  | outOfRange target => "value does not fit the " ++ target ++ " parameter type"
  | reported message => message

end EvaluationFault

namespace BuildFault

/-- The wording of a fault in a template. -/
def message : BuildFault → String
  | unknownElement name => "unknown element <" ++ name ++ "> in SQL statement"
  | missingAttribute element key =>
    "<" ++ element ++ "> requires a non-empty '" ++ key ++ "' attribute"
  | badNullable value =>
    "<foreach> nullable must be 'true' or 'false', got '" ++ String.ofList value ++ "'"
  | repeatedOtherwise => "too many <otherwise> elements in <choose>"
  | unexpectedElement name =>
    "unexpected <" ++ name ++ "> in <choose>; expected <when> or <otherwise>"
  | unexpectedText => "unexpected text in <choose>"

end BuildFault

namespace Error

/-- The wording of an error. -/
def message : Error → String
  | malformed fragment position fault =>
    "Template syntax error in \x7b" ++ String.ofList fragment ++ "\x7d at position " ++
      toString position ++ ": " ++ fault.message
  | unsupported fragment =>
    "Unsupported construct in \x7b" ++ String.ofList fragment ++
      "\x7d: expression based parameters are not supported"
  | evaluation expression fault =>
    "Error evaluating expression '" ++ String.ofList expression ++ "': " ++ fault.message
  | rejected value pattern =>
    "Invalid input '" ++ String.ofList value ++ "'. Please conform to regex " ++ pattern
  | build fault => "Build error: " ++ fault.message
  | config => "Config error"

end Error

end SqlTemplate
