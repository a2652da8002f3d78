import SqlTemplate.ValueType

/-!
# Type handlers

A handler binds values of one type. Handlers are found by name; for each type there is one that
needs no name.
-/

namespace SqlTemplate

/-- A named handler of one type. -/
structure Handler where
  name : String
  valueType : ValueType
  deriving DecidableEq, Repr

/-- The handlers that are known, each under its name. -/
structure Handlers where
  entries : List Handler

namespace Handlers

/-- The name of the handler for values of a type. -/
def standardName : ValueType → String
  | .any => "unknown"
  | other => other.name

/-- The handlers that are known from the start, one for each type. -/
def standard : Handlers where
  entries := [.any, .boolean, .integer, .float, .string, .list, .map, .cursor].map fun valueType =>
    ⟨standardName valueType, valueType⟩

/-- The handlers with one put in place under its name. -/
def register (handlers : Handlers) (name : String) (valueType : ValueType) : Handlers :=
  ⟨⟨name, valueType⟩ :: handlers.entries.filter (·.name ≠ name)⟩

/-- The handler under exactly this name. -/
def get? (handlers : Handlers) (name : String) : Option Handler :=
  handlers.entries.find? (·.name == name)

/-- The handler that a text names, outer blanks apart. -/
def resolve? (handlers : Handlers) (name : Text) : Option Handler :=
  handlers.get? (String.ofList name.trim)

/-- Whether a text names a handler, outer blanks apart. -/
def contains (handlers : Handlers) (name : Text) : Bool :=
  (handlers.get? (String.ofList name.trim)).isSome

/-- The handler for values of a type. -/
def defaultFor (handlers : Handlers) (valueType : ValueType) : Handler :=
  (handlers.get? (standardName valueType)).getD ⟨standardName valueType, valueType⟩

end Handlers

end SqlTemplate
