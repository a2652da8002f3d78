import SqlTemplate.Error

/-!
# Property paths

A path such as `orders[0].attrs['display name']` is a list of steps into a value. The steps are
names, bare or quoted in brackets, and positions.
-/

namespace SqlTemplate

/-- One step of a property path. -/
inductive PathStep
  /-- A field, or an item of a list where the name is a number. -/
  | key (name : String)
  /-- An item of a list, or a field whose name is the number. -/
  | index (n : Nat)
  deriving DecidableEq, Repr

namespace Path

/-- The characters that a bare name ends before. -/
def endsName (c : Char) : Bool := c == '.' || c == '[' || c == ']'

/-- The positions that `[n]` can name fit 64 bits; other text in brackets is a name. -/
def bracketStep (raw : Text) : PathStep :=
  match Text.toNatBelow? UInt64.size raw with
  | some n => .index n
  | none => .key (String.ofList raw)

/-- The step that stands after an opening bracket, and the text after its closing bracket. -/
def bracket : Text → Except SyntaxFault (PathStep × Text)
  | '\'' :: rest => quoted '\'' rest
  | '"' :: rest => quoted '"' rest
  | text =>
    match text.spanWhile (· ≠ ']') with
    | (raw, _ :: rest) =>
      if Text.blank raw then .error .emptyIndex
      else .ok (bracketStep (Text.trim raw), rest)
    | (_, []) => .error .unclosedBracket
where
  /-- The key before the next quote, which a closing bracket has to follow. -/
  quoted (quote : Char) (text : Text) : Except SyntaxFault (PathStep × Text) :=
    match text.spanWhile (· ≠ quote) with
    | (key, _ :: ']' :: rest) => .ok (.key (String.ofList key), rest)
    | (_, _ :: _) => .error .unclosedQuotedKey
    | (_, []) => .error .unclosedBracket

/-- A bracketed step takes at least the closing bracket. -/
theorem length_of_bracket {text rest : Text} {step : PathStep}
    (h : bracket text = .ok (step, rest)) : rest.length < text.length := by
  have hquoted : ∀ {quote : Char} {t : Text},
      bracket.quoted quote t = .ok (step, rest) → rest.length < t.length := by
    intro quote t ht
    simp only [bracket.quoted] at ht
    split at ht
    · rename_i hspan
      have := Text.length_of_spanWhile hspan
      simp only [Except.ok.injEq, Prod.mk.injEq] at ht
      simp [← ht.2] at this ⊢
      omega
    · simp at ht
    · simp at ht
  unfold bracket at h
  split at h
  · have := hquoted h
    simp; omega
  · have := hquoted h
    simp; omega
  · split at h
    · rename_i hspan
      have := Text.length_of_spanWhile hspan
      split at h
      · simp at h
      · simp only [Except.ok.injEq, Prod.mk.injEq] at h
        simpa [← h.2] using this
    · simp at h

/-- The steps of the rest of a path, which stands at byte `offset`. A name may stand at the start
and after a dot only; a bracketed step may stand anywhere. -/
def stepsFrom (nameExpected : Bool) (offset : Nat) :
    Text → Except (Nat × SyntaxFault) (List PathStep)
  | [] => .ok []
  | '.' :: rest =>
    if nameExpected then .error (offset, .emptySegment)
    else if rest.isEmpty then .error (offset, .trailingDot)
    else stepsFrom true (offset + 1) rest
  | '[' :: rest =>
    match h : bracket rest with
    | .error fault => .error (offset, fault)
    | .ok (step, after) =>
      have := length_of_bracket h
      (stepsFrom false (offset + 1 + (Text.byteSize rest - Text.byteSize after)) after).map
        (step :: ·)
  | c :: rest =>
    if !nameExpected then .error (offset, .missingSeparator)
    else
      match h : Text.spanWhile (!endsName ·) rest with
      | (others, after) =>
        have : after.length ≤ rest.length := by
          simp only [Text.spanWhile, Prod.mk.injEq] at h
          exact h.2 ▸ Text.length_dropWhile_le _ rest
        if c = ']' || after.head? = some ']' then .error (offset, .strayBracket)
        else if Text.blank (c :: others) then .error (offset, .emptySegment)
        else
          (stepsFrom false (offset + Text.byteSize (c :: others)) after).map
            (.key (String.ofList (Text.trim (c :: others))) :: ·)
  termination_by text => text.length
  decreasing_by
    all_goals simp
    all_goals omega

/-- The steps of a path, which is not blank. -/
def parse (path : Text) : Except Error (List PathStep) :=
  if path.blank then .error (.malformed path 0 .emptyPath)
  else (stepsFrom true 0 path).mapError fun (offset, fault) => .malformed path offset fault

/-- Whether a path goes on after its first name here. -/
def goesOn (c : Char) : Bool := c == '.' || c == '['

/-- The name that a path starts with. -/
def root (path : Text) : Text := Text.trim (path.takeWhile (!goesOn ·))

/-- The name that a path starts with, and the path from there on, if it goes on. -/
def splitRoot (path : Text) : Text × Option Text :=
  let path := path.trim
  match path.dropWhile (!goesOn ·) with
  | [] => (path, none)
  | '.' :: rest => (root path, some rest)
  | rest => (root path, some rest)

end Path

namespace Value

/-- What one step finds in a value. -/
def step? : PathStep → Value → Option Value
  | .key name, .obj fields => Fields.get? fields name
  | .index n, .arr items => items[n]?
  | .index n, .obj fields => Fields.get? fields (toString n)
  | .key name, .arr items => (Text.toNatBelow? UInt64.size name.toList).bind (items[·]?)
  | _, _ => none

/-- What the steps find one after another. -/
def walk? (steps : List PathStep) (value : Value) : Option Value :=
  steps.foldlM (fun current step => step? step current) value

end Value

end SqlTemplate
