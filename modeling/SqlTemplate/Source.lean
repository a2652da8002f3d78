import SqlTemplate.Node.Apply
import SqlTemplate.Statement.Wire
import SqlTemplate.Template.Compile

/-!
# Sources of statements

An engine compiles templates into sources, and binds a source to a parameter. A source that is not
dynamic is prepared once, without a parameter. The memory, with its cache of expressions, goes from
one operation to the next.
-/

namespace SqlTemplate

/-- What compiling and rendering need: a configuration, a way to evaluate expressions, a way to read
properties and the known handlers. -/
structure Engine where
  config : Config := {}
  evaluator : Evaluator := .standard
  accessor : Accessor := .byPath
  handlers : Handlers := .standard

/-- A compiled statement. -/
inductive Source
  /-- Rendered for each parameter; events carry the name of the statement. -/
  | dynamic (root : Node) (name : Option String)
  /-- Prepared when it was compiled. -/
  | prepared (statement : Prepared)
  /-- Supplied by the caller. -/
  | supplied (statement : Prepared)

namespace Engine

/-- The memory that an engine starts with. -/
def memory (engine : Engine) : Memory where
  cache := .empty engine.config.cacheCapacity

/-- What is known when placeholders are resolved for this engine. -/
def surroundings (engine : Engine) (parameterType : ValueType) (parameter : Value)
    (additional : Fields) : Surroundings where
  accessor := engine.accessor
  handlers := engine.handlers
  parameterType
  parameter
  additional

/-- Renders a node for a parameter and prepares the statement, once its outer blanks are gone. The
bindings that are left become the additional values. -/
def renderNode (engine : Engine) (root : Node) (name : Option String) (parameter : Value)
    (memory : Memory) : Except Error Bound × Memory :=
  let start := Context.start parameter engine.config.database engine.evaluator memory
  let (result, context) := root.apply start
  let additional := context.state.bindings.entries
  let memory := context.state.memory
  match result with
  | .error e => (.error e, memory)
  | .ok _ =>
    let known := engine.surroundings (.of parameter) parameter additional
    match Prepared.ofText engine.config known context.sql with
    | .error e => (.error e, memory)
    | .ok statement =>
      let bound : Bound := { statement with parameter, additional, accessor := engine.accessor }
      let event := Event.rendered (name.getD "-") bound.kind bound.mappings.length
        (engine.config.logged bound.sql)
      (.ok bound, { memory with events := memory.events ++ [event] })

/-- Prepares a node without dynamic parts ahead of any parameter. -/
def prepareNode (engine : Engine) (root : Node) (parameterType : ValueType) :
    Except Error Prepared :=
  let start := Context.start .null none engine.evaluator engine.memory
  let (result, context) := root.apply start
  match result with
  | .error e => .error e
  | .ok _ =>
    Prepared.ofText engine.config (engine.surroundings parameterType .null []) context.sql

/-- Compiles a template. The type of the parameter counts for a statement that is not dynamic, the
name for one that is. -/
def compile (engine : Engine) (template : Template) (parameterType : ValueType)
    (name : Option String) : Except Error Source := do
  let root ← template.compile engine.config
  if root.isDynamic then return .dynamic root name
  else return .prepared (← engine.prepareNode root parameterType)

/-- Binds a source to a parameter. -/
def bind (engine : Engine) (source : Source) (parameter : Value) (memory : Memory) :
    Except Error Bound × Memory :=
  match source with
  | .dynamic root name => engine.renderNode root name parameter memory
  | .prepared statement =>
    (.ok { statement with parameter, additional := [], accessor := engine.accessor }, memory)
  | .supplied statement =>
    (.ok { statement with parameter, additional := [], accessor := .byPath }, memory)

/-- Compiles a template and binds it to a parameter. -/
def render (engine : Engine) (template : Template) (parameter : Value) (memory : Memory) :
    Except Error Bound × Memory :=
  match engine.compile template .any none with
  | .error e => (.error e, memory)
  | .ok source => engine.bind source parameter memory

end Engine

end SqlTemplate
