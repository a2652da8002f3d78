import SqlTemplate.Config.Basic
import SqlTemplate.Config.Setting
import SqlTemplate.Error
import SqlTemplate.Pattern.Filter

/-!
# Configuration files

A configuration is written as lines `key = value` in the syntax of TOML, with comments. Every key is
known and stands once. A key with dots, or a header in brackets, opens a table; the only setting
that can be a table is the style of placeholders.
-/

namespace SqlTemplate

namespace Setting

/-- The settings of the lines up to a header or the end, and the rest. The steps bound the number of
lines. -/
def lines? : Nat → Text → Option (List (String × Setting) × Text)
  | 0, _ => none
  | _, [] => some ([], [])
  | steps + 1, text =>
    match endLine? text, skipSpaces text with
    | some rest, _ => if rest.isEmpty then some ([], []) else lines? steps rest
    | none, '[' :: rest => some ([], '[' :: rest)
    | none, text => do
      let ((key, keys), rest) ← path? (text.length + 1) text
      match rest with
      | '=' :: rest =>
        let (value, rest) ← value? (rest.length + 1) (skipSpaces rest)
        let (more, rest) ← lines? steps (← endLine? rest)
        some ((key, nested keys value) :: more, rest)
      | _ => none

/-- A table that a header opens: its key, the keys inside of it, and what the lines below say. -/
abbrev Section := String × List String × Setting

/-- What the lines below a header say. -/
def ofLines? : List (String × Setting) → Option Setting
  | [] => some empty
  | [(key, value)] => some (only key value)
  | _ => none

/-- The tables that headers open. The steps bound their number. -/
def sections? : Nat → Text → Option (List Section)
  | 0, _ => none
  | _, [] => some []
  | steps + 1, '[' :: text => do
    let ((key, keys), rest) ← path? (text.length + 1) text
    match rest with
    | ']' :: rest =>
      let (lines, rest) ← lines? (rest.length + 1) (← endLine? rest)
      let table ← ofLines? lines
      let more ← sections? steps rest
      some ((key, keys, table) :: more)
    | _ => none
  | _, _ => none

/-- The setting that headers make up. A table inside of another has a header of its own; the one
around it may have one too, before or behind, and then says nothing itself. -/
def ofSections? : List Section → Option (List (String × Setting))
  | [] => some []
  | [(key, keys, table)] => some [(key, nested keys table)]
  | [(outer, [], empty), (key, inner :: keys, table)]
  | [(key, inner :: keys, table), (outer, [], empty)] =>
    if outer = key then some [(key, nested (inner :: keys) table)] else none
  | _ => none

/-- The settings of a file. A byte order mark at its start counts for nothing. -/
def ofText? (text : Text) : Option (List (String × Setting)) := do
  let text := match text with
    | c :: rest => if c.toNat = 0xFEFF then rest else text
    | [] => []
  let (settings, rest) ← lines? (text.length + 1) text
  let sections ← sections? (rest.length + 1) rest
  return settings ++ (← ofSections? sections)

/-- The number that a setting is, if it is neither negative nor beyond 64 bits. -/
def size? : Setting → Option Nat
  | int n => if 0 ≤ n && n.toNat < UInt64.size then some n.toNat else none
  | _ => none

/-- The name that a setting is: a string, or the key of a table with nothing in its entry. -/
def name? : Setting → Option String
  | str text => some (String.ofList text)
  | only key empty => some key
  | _ => none

end Setting

namespace Config

/-- The configuration after one more setting. -/
def set? (config : Config) (key : String) (value : Setting) : Option Config :=
  match key, value with
  | "shrink_whitespaces_in_sql", .bool b => some { config with shrinkBlanks := b }
  | "nullable_on_foreach", .bool b => some { config with nullableLoops := b }
  | "injection_filter", .str text =>
    (Filter.whole? (String.ofList text)).map fun filter => { config with filter := some filter }
  | "placeholder_style", value => value.name?.bind fun name =>
    match name with
    | "question" => some { config with markers := .question }
    | "dollar" => some { config with markers := .dollar }
    | _ => none
  | "database_id", .str text => some { config with database := some (String.ofList text) }
  | "expression_cache_capacity", value =>
    value.size?.map fun n => { config with cacheCapacity := n }
  | "log_sql_max_length", value => value.size?.map fun n => { config with logLimit := some n }
  | _, _ => none

/-- The configuration that a file describes. What it does not mention stays as it is by
default. -/
def ofText (text : Text) : Except Error Config :=
  match Setting.ofText? text with
  | none => .error .config
  | some settings =>
    if (settings.map (·.1)).Nodup then
      match settings.foldlM (fun config (key, value) => Config.set? config key value) {} with
      | some config => .ok config
      | none => .error .config
    else .error .config

end Config

end SqlTemplate
