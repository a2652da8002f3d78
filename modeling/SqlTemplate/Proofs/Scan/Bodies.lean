import SqlTemplate.Scan

/-!
# The bodies in a text

A scan asks its handler for one text for each token, in order. What it asks for is a list of
bodies, and what it makes of a single segment needs no other segment.
-/

namespace SqlTemplate

/-- The body of a token. -/
def Segment.body? : Segment → Option Text
  | .token body => some body
  | _ => none

/-- A token has its body. -/
theorem Segment.body?_token (body : Text) : (Segment.token body).body? = some body := rfl

namespace Delimiters

/-- The bodies of the tokens in a text, with their escapes. -/
def bodies (d : Delimiters) (text : Text) : List Text := (d.segments text).filterMap Segment.body?

/-- The bodies of the tokens in a text, as a handler gets them. -/
def contents (d : Delimiters) (text : Text) : List Text := (d.bodies text).map d.unescape

/-- What a scan makes of one segment. -/
def resolve {m : Type → Type} [Monad m] (d : Delimiters) (handle : Text → m Text) :
    Segment → m Text
  | .literal text => pure text
  | .escapedOpening => pure d.opening
  | .token body => handle (d.unescape body)

/-- A scan resolves the segments one by one. -/
theorem scan_eq {m : Type → Type} [Monad m] (d : Delimiters) (handle : Text → m Text)
    (text : Text) :
    d.scan handle text = (do return (← (d.segments text).mapM (d.resolve handle)).flatten) := rfl

end Delimiters

end SqlTemplate
