import SqlTemplate.Config.Basic
import SqlTemplate.Error
import SqlTemplate.Node.Basic
import SqlTemplate.Scan
import SqlTemplate.Template.Basic

/-!
# Compiling templates

| element | attributes |
|---|---|
| `trim` | `prefix`, `suffix`, `prefixOverrides`, `suffixOverrides` |
| `where`, `set`, `otherwise` | |
| `foreach` | `collection` (required), `item`, `index`, `open`, `close`, `separator`, `nullable` |
| `if`, `when` | `test` (required) |
| `choose` | children `when` and at most one `otherwise` |
| `bind` | `name`, `value` (both required) |
-/

namespace SqlTemplate

namespace Template

/-- The text of an attribute without outer blanks, unless nothing is left of it. -/
def trimmed? (attributes : List (String × String)) (key : String) : Option Text :=
  ((attributes.lookup key).map fun value => Text.trim value.toList).filter (!·.isEmpty)

/-- The text of an attribute that has to be there. -/
def required (name : String) (attributes : List (String × String)) (key : String) :
    Except Error Text :=
  match trimmed? attributes key with
  | some value => .ok value
  | none => .error (.build (.missingAttribute name key))

/-- Text as a node: plain, or with expressions to splice in if it holds a token. -/
def compileText (config : Config) (content : Text) : Node :=
  if Delimiters.substitution.hasToken content then .spliced content config.filter
  else .text content

/-- The rule of a `trim` element. -/
def trimRule (attributes : List (String × String)) : TrimRule :=
  let value (key : String) : Text := ((attributes.lookup key).map String.toList).getD []
  { lead := value "prefix"
    trail := value "suffix"
    unwantedStarts := TrimRule.entries (value "prefixOverrides")
    unwantedEnds := TrimRule.entries (value "suffixOverrides") }

/-- Whether a `foreach` element takes `null` for an empty collection. -/
def nullable (config : Config) (attributes : List (String × String)) : Except Error Bool :=
  match trimmed? attributes "nullable" with
  | none => .ok config.nullableLoops
  | some value =>
    if value = "true".toList then .ok true
    else if value = "false".toList then .ok false
    else .error (.build (.badNullable value))

/-- The loop of a `foreach` element. -/
def loop (config : Config) (attributes : List (String × String)) : Except Error Loop := do
  let nullable ← nullable config attributes
  let collection ← required "foreach" attributes "collection"
  let value (key : String) : Option Text := (attributes.lookup key).map String.toList
  return {
    collection
    item := (trimmed? attributes "item").map String.ofList
    index := (trimmed? attributes "index").map String.ofList
    opening := value "open"
    closing := value "close"
    separator := (value "separator").getD []
    nullable }

mutual

/-- The node of a template. -/
def compileNode (config : Config) : Template → Except Error Node
  | .text content => .ok (compileText config content.toList)
  | .element name attributes children =>
    match name with
    | "trim" => return .trim (trimRule attributes) (.mixed (← compileAll config children))
    | "where" => return .trim .whereClause (.mixed (← compileAll config children))
    | "set" => return .trim .setClause (.mixed (← compileAll config children))
    | "foreach" => do
      let body ← compileAll config children
      return .loop (← loop config attributes) (.mixed body)
    | "if" | "when" => do
      let test ← required name attributes "test"
      return .cond test (.mixed (← compileAll config children))
    | "choose" => do
      let (branches, otherwise) ← compileBranches config false children
      return .choose branches otherwise
    | "otherwise" => return .mixed (← compileAll config children)
    | "bind" => do
      let variableName ← required name attributes "name"
      return .bind (String.ofList variableName) (← required name attributes "value")
    | _ => .error (.build (.unknownElement name))

/-- The nodes of several templates. -/
def compileAll (config : Config) : List Template → Except Error (List Node)
  | [] => .ok []
  | first :: rest => do
    let node ← compileNode config first
    return node :: (← compileAll config rest)

/-- The branches of a `choose` element and the node for no branch, of which there is at most one;
`given` tells whether it came before. -/
def compileBranches (config : Config) (given : Bool) :
    List Template → Except Error (List (Text × Node) × Option Node)
  | [] => .ok ([], none)
  | .text content :: rest =>
    if Text.blank content.toList then compileBranches config given rest
    else .error (.build .unexpectedText)
  | .element name attributes children :: rest =>
    match name with
    | "when" => do
      let test ← required name attributes "test"
      let body ← compileAll config children
      let (branches, otherwise) ← compileBranches config given rest
      return ((test, .mixed body) :: branches, otherwise)
    | "otherwise" =>
      if given then .error (.build .repeatedOtherwise)
      else do
        let body ← compileAll config children
        let (branches, _) ← compileBranches config true rest
        return (branches, some (.mixed body))
    | _ => .error (.build (.unexpectedElement name))

end

/-- The node of a statement. Of an element the children make up the statement. -/
def compile (config : Config) : Template → Except Error Node
  | .text content => .ok (.mixed [compileText config content.toList])
  | .element _ _ children => return .mixed (← compileAll config children)

end Template

end SqlTemplate
