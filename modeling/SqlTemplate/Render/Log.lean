import SqlTemplate.Render.Basic

/-!
# The log

The events that are reported outside: what is parsed, what the filter does not accept and what has
been rendered.
-/

namespace SqlTemplate

/-- How much an entry of the log matters. -/
inductive LogLevel
  | trace
  | debug
  | warn
  deriving DecidableEq, Repr

/-- The name of a level. -/
def LogLevel.name : LogLevel → String
  | trace => "TRACE"
  | debug => "DEBUG"
  | warn => "WARN"

/-- An entry of the log: a message, and what it is about. -/
structure LogEntry where
  level : LogLevel
  message : String
  details : Fields

/-- The entry that an event leaves in the log, if it leaves one. -/
def Event.logEntry? : Event → Option LogEntry
  | evaluated _ => none
  | spliced _ => none
  | parsing source =>
    some ⟨.trace, "parsing expression", .ofList [("expression", .str (String.ofList source))]⟩
  | rejected text pattern =>
    some ⟨.warn, "rejected $\x7b\x7d substitution",
      .ofList [("value", .str (String.ofList text)), ("pattern", .str pattern)]⟩
  | rendered statement kind parameters sql =>
    some ⟨.debug, "rendered dynamic sql",
      .ofList [("statement", .str statement), ("kind", .str kind.name),
        ("param_count", .ofNat parameters), ("sql", .str (String.ofList sql))]⟩

end SqlTemplate
