import SqlTemplate.Scan

/-!
# Chunks and layers

A rendering yields chunks of text. On their way to the buffer they pass through layers, which
separate the passes of a loop, give the loop's variables names of their own, or collect a clause.
-/

namespace SqlTemplate

/-- Whether two chunks meet without a space: one of them brings a blank to the seam, the buffer
ends in an opening parenthesis, or the chunk starts with a mark that stands close. -/
def meets (last first : Char) : Bool :=
  isBlank last || last == '(' || isBlank first || first == ')' || first == ',' || first == ';'

/-- The buffer with a chunk appended, one space between them where they do not meet. -/
def joinChunk (buffer chunk : Text) : Text :=
  match buffer.getLast?, chunk.head? with
  | some last, some first => if meets last first then buffer ++ chunk else buffer ++ ' ' :: chunk
  | _, _ => buffer ++ chunk

/-- The text that chunks make up after what is in the buffer. -/
def joinChunks (buffer : Text) (chunks : List Text) : Text := chunks.foldl joinChunk buffer

/-- The name of a loop variable for one pass of its loop. -/
def passName (name : String) (id : Nat) : String := "__frch_" ++ name ++ "_" ++ toString id

/-- The variables of a loop in one of its passes. -/
structure LoopScope where
  item : Option String
  index : Option String
  id : Nat

namespace LoopScope

/-- Whether a name ends before the character. -/
def endsName (c : Char) : Bool := isBlank c || c == '.' || c == ',' || c == ':' || c == '['

/-- What follows exactly this name at the start of a body, blanks before it apart. -/
def afterName? (name : String) (body : Text) : Option Text :=
  match Text.dropLead? name.toList body.trimStart with
  | some [] => some []
  | some (c :: rest) => if endsName c then some (c :: rest) else none
  | none => none

/-- The body of a placeholder with the loop variable it starts with under its name for the
pass. -/
def rename (scope : LoopScope) (body : Text) : Text :=
  let renamed (name : Option String) : Option Text := do
    let name ← name
    let rest ← afterName? name body
    return (passName name scope.id).toList ++ rest
  ((renamed scope.item).or (renamed scope.index)).getD body

/-- A chunk with all its placeholders renamed. -/
def renameAll (scope : LoopScope) (chunk : Text) : Text :=
  Delimiters.parameter.substitute scope.rename chunk

end LoopScope

/-- A layer between a node and what it renders into. -/
inductive Layer
  /-- Writes a separator before the first chunk that is not blank. -/
  | separated (separator : Text) (written : Bool)
  /-- Renames the variables of a loop. -/
  | renamed (scope : LoopScope)
  /-- Keeps all chunks to itself. -/
  | collected (buffer : Text)

namespace Layer

/-- What a layer becomes when a chunk reaches it, and the chunks that it passes on. -/
def feed : Layer → Text → Layer × List Text
  | separated separator false, chunk =>
    if chunk.blank then (separated separator false, [chunk])
    else (separated separator true, [separator, chunk])
  | separated separator true, chunk => (separated separator true, [chunk])
  | renamed scope, chunk => (renamed scope, [scope.renameAll chunk])
  | collected buffer, chunk => (collected (joinChunk buffer chunk), [])

/-- What a layer becomes after several chunks, and the chunks that it passes on. -/
def feedAll (layer : Layer) : List Text → Layer × List Text
  | [] => (layer, [])
  | chunk :: rest =>
    let (next, passed) := layer.feed chunk
    let (last, more) := next.feedAll rest
    (last, passed ++ more)

/-- Whether a chunk that is not blank has reached a separating layer. -/
def written : Layer → Bool
  | separated _ written => written
  | _ => false

/-- What a collecting layer has kept. -/
def buffer : Layer → Text
  | collected buffer => buffer
  | _ => []

/-- What a stack of layers becomes after several chunks, innermost layer first, and the chunks that
come out of it. -/
def feedStack : List Layer → List Text → List Layer × List Text
  | [], chunks => ([], chunks)
  | layer :: outer, chunks =>
    let (next, passed) := layer.feedAll chunks
    let (others, out) := feedStack outer passed
    (next :: others, out)

end Layer

end SqlTemplate
