import SqlTemplate.Text

/-!
# Kinds of statements

A statement is classified by its leading keyword, after blanks, comments and opening parentheses.
After `WITH` the keyword is that of the statement behind the last definition.
-/

namespace SqlTemplate

/-- What a statement does. -/
inductive StatementKind
  | select
  | insert
  | update
  | delete
  | other
  deriving DecidableEq, Repr

namespace StatementKind

/-- The name of a kind in log events. -/
def name : StatementKind → String
  | select => "select"
  | insert => "insert"
  | update => "update"
  | delete => "delete"
  | other => "other"

/-- The text after what may precede a statement. A comment that does not end leaves nothing. -/
def skipPreamble (sql : Text) : Text :=
  match h : Text.trimStart sql with
  | '-' :: '-' :: rest =>
    have := Text.length_of_trimStart h
    match hend : Text.breakOn ['\n'] rest with
    | some (_, after) =>
      have := Text.length_of_breakOn hend
      skipPreamble after
    | none => []
  | '/' :: '*' :: rest =>
    have := Text.length_of_trimStart h
    match hend : Text.breakOn ['*', '/'] rest with
    | some (_, after) =>
      have := Text.length_of_breakOn hend
      skipPreamble after
    | none => []
  | '(' :: rest =>
    have := Text.length_of_trimStart h
    skipPreamble rest
  | rest => rest
  termination_by sql.length
  decreasing_by
    all_goals simp_all
    all_goals omega

/-- The text after the last parenthesis that closes the outermost level, quoted literals apart.
`after` is the text after the last one so far, and `depth` the number of open parentheses. -/
def afterOuter (after : Text) (depth : Int) (quoted : Bool) : Text → Text
  | [] => after
  | c :: rest =>
    if c = '\'' then afterOuter after depth (!quoted) rest
    else if quoted then afterOuter after depth quoted rest
    else if c = '(' then afterOuter after (depth + 1) quoted rest
    else if c = ')' then
      afterOuter (if depth - 1 = 0 then rest else after) (depth - 1) quoted rest
    else afterOuter after depth quoted rest

/-- The text behind the definitions of a statement that starts with `WITH`. -/
def afterDefinitions (sql : Text) : Text := Text.trimStart (afterOuter sql 0 false sql)

/-- The keywords that tell a kind. -/
def keywords : List (Text × StatementKind) := [
  ("SELECT".toList, select), ("INSERT".toList, insert), ("UPDATE".toList, update),
  ("DELETE".toList, delete)]

/-- The kind that the keyword at the start of a text tells. -/
def leading? (sql : Text) : Option StatementKind :=
  (keywords.find? fun (keyword, _) => (Text.afterLead? keyword sql).isSome).map (·.2)

/-- The kind of a statement. -/
def ofSql (sql : Text) : StatementKind :=
  let head := skipPreamble sql
  if (Text.afterLead? "WITH".toList head).isSome then
    (leading? (afterDefinitions head)).getD select
  else (leading? head).getD other

end StatementKind

end SqlTemplate
