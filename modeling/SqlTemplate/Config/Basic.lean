import SqlTemplate.Filter

/-!
# Configuration

The choices that hold for all statements of an engine.
-/

namespace SqlTemplate

/-- The marker that stands for a parameter in a statement. -/
inductive MarkerStyle
  /-- A question mark for every parameter. -/
  | question
  /-- A dollar sign and the number of the parameter. -/
  | dollar
  deriving DecidableEq, Repr

/-- The marker of the parameter with the given number, counted from one. -/
def MarkerStyle.marker : MarkerStyle → Nat → Text
  | question, _ => ['?']
  | dollar, n => '$' :: Text.ofNat n

/-- The configuration of an engine. -/
structure Config where
  /-- Runs of blanks in statements become one space. -/
  shrinkBlanks : Bool := false
  /-- Loops take a `null` collection for an empty one unless they say otherwise. -/
  nullableLoops : Bool := false
  /-- Accepts the texts that may be spliced into statements. -/
  filter : Option Filter := none
  markers : MarkerStyle := .question
  /-- The database that templates can ask for. -/
  database : Option String := none
  /-- Number of parsed expressions that are kept. -/
  cacheCapacity : Nat := 256
  /-- Number of bytes of a statement that a log event shows. -/
  logLimit : Option Nat := some 200

/-- A statement as a log event shows it: cut at a character where it exceeds the limit. -/
def Config.logged (config : Config) (sql : Text) : Text :=
  match config.logLimit with
  | none => sql
  | some limit =>
    if limit < sql.byteSize then Text.takeBytes limit sql ++ ['.', '.', '.'] else sql

end SqlTemplate
