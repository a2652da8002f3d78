import SqlTemplate.Pattern.Class
import SqlTemplate.Pattern.Term
import SqlTemplate.Unicode.Letter

/-!
# Reading patterns

The text of a pattern: branches, repetitions, groups with flags, sets in brackets with operations,
escapes and anchors. There is no look-around and no reference to a group. A text that is no pattern
has no reading.

Where blanks and comments count for nothing (`verbose`), they may stand nearly everywhere, inside of
escapes and repetition counts too.
-/

namespace SqlTemplate.Pattern

/-- The text after blanks and comments, where these count for nothing. -/
def skip (verbose : Bool) (text : Text) : Text := if verbose then skipFrom false text else text
where
  /-- The text after blanks and comments, from inside of a comment or not. -/
  skipFrom (inComment : Bool) : Text → Text
    | [] => []
    | c :: rest =>
      if inComment then skipFrom (c != '\n') rest
      else if isBlank c then skipFrom false rest
      else if c = '#' then skipFrom true rest
      else c :: rest

/-- The value of a hexadecimal digit. -/
def hexDigit? (c : Char) : Option Nat :=
  if c.isDigit then some (c.toNat - '0'.toNat)
  else if 'a' ≤ c && c ≤ 'f' then some (c.toNat - 'a'.toNat + 10)
  else if 'A' ≤ c && c ≤ 'F' then some (c.toNat - 'A'.toNat + 10)
  else none

/-- The character with a hexadecimal code, if there is one. -/
def hexCharacter? (digits : Text) : Option Char := do
  let code ← digits.foldlM (fun n c => (hexDigit? c).map (16 * n + ·)) 0
  if code < 0xD800 || (0xE000 ≤ code && code < 0x110000) then some (Char.ofNat code) else none

/-- A number of characters, each with the blanks after it, and the text behind them. -/
def take? (verbose : Bool) : Nat → Text → Option (Text × Text)
  | 0, text => some ([], text)
  | _, [] => none
  | n + 1, c :: rest => (take? verbose n (skip verbose rest)).map fun (taken, rest) =>
      (c :: taken, rest)

/-- The characters up to a closing brace, each without the blanks before it, and the text behind
the brace. The steps bound their number. -/
def untilBrace? (verbose : Bool) : Nat → Text → Option (Text × Text)
  | 0, _ => none
  | steps + 1, text =>
    match skip verbose text with
    | [] => none
    | '}' :: rest => some ([], rest)
    | c :: rest => (untilBrace? verbose steps rest).map fun (taken, rest) => (c :: taken, rest)

/-- The character that stands after `\x`, `\u` or `\U`: its code in braces, or a number of digits.
-/
def hexEscape? (verbose : Bool) (count : Nat) (text : Text) : Option (Letter × Text) :=
  match skip verbose text with
  | '{' :: rest => do
    let (digits, rest) ← untilBrace? verbose (rest.length + 1) rest
    if digits.isEmpty then none else (hexCharacter? digits).map fun c => (⟨c, false⟩, rest)
  | text => do
    let (digits, rest) ← take? verbose count text
    (hexCharacter? digits).map fun c => (⟨c, count == 2⟩, rest)

/-- The set that a name in braces stands for, and whether it is the complement that is meant: a
property alone, or a property, one of the signs `!=`, `:` and `=`, and a value. -/
def named? (text : Text) : Option (Bool × CharSet) :=
  match Text.breakOn ['!', '='] text with
  | some (name, value) => (Unicode.propertyValue? name value).map (true, ·)
  | none =>
    match Text.breakOn [':'] text, Text.breakOn ['='] text with
    | some (name, value), _ => (Unicode.propertyValue? name value).map (false, ·)
    | none, some (name, value) => (Unicode.propertyValue? name value).map (false, ·)
    | none, none => (Unicode.property? text).map (false, ·)

/-- The set that stands after `\p` or `\P`: one letter, or a name in braces. -/
def property? (verbose negated : Bool) (text : Text) : Option (SetTerm × Text) :=
  match skip verbose text with
  | [] => none
  | '\\' :: _ => none
  | '{' :: rest => do
    let (name, rest) ← untilBrace? verbose (rest.length + 1) rest
    let (complement, set) ← named? name
    return (.property (negated != complement) set, rest)
  | c :: rest => (Unicode.property? [c]).map fun set => (.property negated set, rest)

/-- The kind of characters that a letter after a backslash names, and whether it is all others that
are meant. -/
def kind? : Char → Option SetTerm
  | 'd' => some (.kind false .digit)
  | 's' => some (.kind false .blank)
  | 'w' => some (.kind false .word)
  | 'D' => some (.kind true .digit)
  | 'S' => some (.kind true .blank)
  | 'W' => some (.kind true .word)
  | _ => none

/-- The character that a letter after a backslash stands for. -/
def control? : Char → Option Char
  | 'a' => some (Char.ofNat 0x7)
  | 'f' => some (Char.ofNat 0xC)
  | 't' => some '\t'
  | 'n' => some '\n'
  | 'r' => some '\r'
  | 'v' => some (Char.ofNat 0xB)
  | _ => none

/-- The letters that braces after `\b` can hold. -/
def isBoundaryLetter (c : Char) : Bool := c.isAlpha || c == '-'

/-- The boundary after `\b`. Braces belong to it if they start with a letter or a hyphen; then they
hold its name. Other braces are a repetition. -/
def boundary? (verbose : Bool) (text : Text) : Option (Anchor × Text) :=
  match text with
  | '{' :: rest =>
    match skip verbose rest with
    | [] => none
    | c :: _ =>
      if isBoundaryLetter c then do
        let (name, rest) ← untilBrace? verbose (rest.length + 1) rest
        match String.ofList name with
        | "start" => some (.wordStart, rest)
        | "end" => some (.wordEnd, rest)
        | "start-half" => some (.halfStart, rest)
        | "end-half" => some (.halfEnd, rest)
        | _ => none
      else some (.boundary, text)
  | _ => some (.boundary, text)

/-- The anchor that a letter after a backslash stands for. -/
def anchor? (verbose : Bool) (c : Char) (rest : Text) : Option (Anchor × Text) :=
  match c with
  | 'A' => some (.textStart, rest)
  | 'z' => some (.textEnd, rest)
  | 'b' => boundary? verbose rest
  | 'B' => some (.noBoundary, rest)
  | '<' => some (.wordStart, rest)
  | '>' => some (.wordEnd, rest)
  | _ => none

/-- What a character or an escape stands for. -/
inductive Atom
  | letter (letter : Letter)
  | set (set : SetTerm)
  | anchor (anchor : Anchor)

/-- What stands after a backslash. A mark of ASCII that is neither letter, digit nor angle bracket
stands for itself. -/
def escape? (verbose : Bool) : Text → Option (Atom × Text)
  | [] => none
  | c :: rest =>
    let letter (found : Option (Letter × Text)) : Option (Atom × Text) :=
      found.map fun (letter, rest) => (.letter letter, rest)
    match c with
    | 'x' => letter (hexEscape? verbose 2 rest)
    | 'u' => letter (hexEscape? verbose 4 rest)
    | 'U' => letter (hexEscape? verbose 8 rest)
    | 'p' => (property? verbose false rest).map fun (set, rest) => (.set set, rest)
    | 'P' => (property? verbose true rest).map fun (set, rest) => (.set set, rest)
    | _ =>
      match kind? c, control? c with
      | some set, _ => some (.set set, rest)
      | none, some d => some (.letter ⟨d, false⟩, rest)
      | none, none =>
        if c.toNat < 0x80 && !c.isAlphanum && c != '<' && c != '>' then
          some (.letter ⟨c, false⟩, rest)
        else (anchor? verbose c rest).map fun (anchor, rest) => (.anchor anchor, rest)

/-- The set of ASCII that stands after `[:`, and the text behind `:]`. -/
def asciiSet? : Text → Option (SetTerm × Text)
  | ':' :: rest => do
    let (negated, rest) : Bool × Text := match rest with
      | '^' :: rest => (true, rest)
      | _ => (false, rest)
    let (name, after) := Text.spanWhile (· ≠ ':') rest
    match after with
    | ':' :: ']' :: after =>
      let set ← CharSet.asciiClasses.lookup (String.ofList name)
      some (.ascii negated set, after)
    | _ => none
  | _ => none

/-- One character or escape inside of brackets. -/
def setAtom? (verbose : Bool) : Text → Option (Atom × Text)
  | [] => none
  | '\\' :: rest => escape? verbose rest
  | c :: rest => some (.letter ⟨c, false⟩, rest)

/-- The first character of the text that is no blank, if these count for nothing. One sign `#` is
passed over with the blanks around it; a comment behind it is not. -/
def peek? (verbose : Bool) (text : Text) : Option Char :=
  if verbose then
    match text.dropWhile isBlank with
    | '#' :: rest => (rest.dropWhile isBlank).head?
    | rest => rest.head?
  else text.head?

/-- One item between brackets: a range, a character or a set. A hyphen before a closing bracket or
before another hyphen makes no range. -/
def setItem? (verbose : Bool) (text : Text) : Option (SetTerm × Text) := do
  let (first, rest) ← setAtom? verbose text
  let rest := skip verbose rest
  let upTo : Option Text := match rest with
    | '-' :: after =>
      if peek? verbose after = some ']' || peek? verbose after = some '-' then none
      else some (skip verbose after)
    | _ => none
  match upTo, first with
  | none, .letter letter => some (.letter letter, rest)
  | none, .set set => some (set, rest)
  | some after, .letter first => do
    match ← setAtom? verbose after with
    | (.letter last, rest) =>
      if first.char ≤ last.char then some (.range first last, rest) else none
    | _ => none
  | _, _ => none

/-- The operation between two sets that stands at the start of a text. -/
def operation? : Text → Option (SetOperation × Text)
  | '&' :: '&' :: rest => some (.intersection, rest)
  | '-' :: '-' :: rest => some (.difference, rest)
  | '~' :: '~' :: rest => some (.symmetricDifference, rest)
  | _ => none

/-- The hyphens that brackets start with. -/
def leadingHyphens (verbose : Bool) : Nat → Text → List SetTerm × Text
  | 0, text => ([], text)
  | steps + 1, text =>
    match skip verbose text with
    | '-' :: rest =>
      let (hyphens, rest) := leadingHyphens verbose steps rest
      (.letter ⟨'-', false⟩ :: hyphens, rest)
    | rest => ([], rest)

/-- What stands after an opening bracket: whether the set is negated, and the hyphens, or else the
closing bracket, that stand for themselves there. -/
def setOpening (verbose : Bool) (text : Text) : Bool × List SetTerm × Text :=
  let (negated, rest) : Bool × Text := match skip verbose text with
    | '^' :: rest => (true, skip verbose rest)
    | rest => (false, rest)
  match leadingHyphens verbose rest.length rest with
  | ([], ']' :: rest) => (negated, [.letter ⟨']', false⟩], rest)
  | (hyphens, rest) => (negated, hyphens, rest)

/-- Items joined to the set before them by its operation. -/
def joined (before : Option (SetTerm × SetOperation)) (items : List SetTerm) : SetTerm :=
  let right := SetTerm.ofItems items.reverse
  match before with
  | none => right
  | some (left, operation) => .combined operation left right

/-- What stands between brackets, up to the closing one. `items` are those since the last operation,
the last one first. The steps bound their number. -/
def setItems? (verbose : Bool) :
    Nat → Option (SetTerm × SetOperation) → List SetTerm → Text → Option (SetTerm × Text)
  | 0, _, _, _ => none
  | steps + 1, before, items, text =>
    match skip verbose text with
    | [] => none
    | ']' :: rest => some (joined before items, rest)
    | '[' :: rest =>
      match asciiSet? rest with
      | some (set, rest) => setItems? verbose steps before (set :: items) rest
      | none => do
        let (negated, lead, rest) := setOpening verbose rest
        let (inner, rest) ← setItems? verbose steps none lead.reverse rest
        setItems? verbose steps before (.brackets negated inner :: items) rest
    | text =>
      match operation? text with
      | some (operation, rest) =>
        setItems? verbose steps (some (joined before items, operation)) [] rest
      | none => do
        let (item, rest) ← setItem? verbose text
        setItems? verbose steps before (item :: items) rest

/-- The set after an opening bracket. -/
def brackets? (verbose : Bool) (text : Text) : Option (SetTerm × Text) := do
  let (negated, lead, rest) := setOpening verbose text
  let (inner, rest) ← setItems? verbose (text.length + 1) none lead.reverse rest
  return (.brackets negated inner, rest)

/-- The digits that a text starts with, and the text behind them. -/
def digits (verbose : Bool) : Nat → Text → Text × Text
  | steps + 1, c :: rest =>
    if c.isDigit then
      let (more, rest) := digits verbose steps (skip verbose rest)
      (c :: more, rest)
    else ([], c :: rest)
  | _, text => ([], text)

/-- A repetition count, blanks around it apart. -/
def count? (verbose : Bool) (text : Text) : Option Nat × Text :=
  let (digits, rest) := digits verbose text.length (Text.trimStart text)
  (Text.toNatBelow? UInt32.size digits, Text.trimStart rest)

/-- The limits of a repetition after its opening brace. -/
def limits? (verbose : Bool) (text : Text) : Option ((Nat × Option Nat) × Text) :=
  match count? verbose (skip verbose text) with
  | (some least, '}' :: rest) => some ((least, some least), rest)
  | (some least, ',' :: rest) =>
    match skip verbose rest with
    | '}' :: rest => some ((least, none), rest)
    | rest =>
      match count? verbose rest with
      | (some most, '}' :: rest) => if least ≤ most then some ((least, some most), rest) else none
      | _ => none
  | _ => none

/-- What is known at a place of a pattern. -/
structure Scope where
  /-- Blanks and comments count for nothing. -/
  verbose : Bool := false
  /-- How many groups are remembered so far. -/
  groups : Nat := 0
  /-- The names of groups so far. -/
  names : List Text := []

/-- The flag that a letter names. -/
def flag? : Char → Option Flag
  | 'i' => some .ignoreCase
  | 'm' => some .multiLine
  | 's' => some .dotAll
  | 'R' => some .crlf
  | 'u' => some .unicode
  | 'x' => some .verbose
  | 'U' => some .lazyFirst
  | _ => none

/-- The flags that the letters before a colon or a closing parenthesis set and, after a hyphen,
clear. No letter occurs twice; `seen` holds those so far. -/
def flags? (seen : List Char) (cleared : Bool) : Text → Option (FlagChanges × Text)
  | [] => none
  | c :: rest =>
    if c = ':' || c = ')' then
      if seen.head? = some '-' then none else some ([], c :: rest)
    else if seen.contains c then none
    else if c = '-' then flags? ('-' :: seen) true rest
    else do
      let flag ← flag? c
      let (changes, rest) ← flags? (c :: seen) cleared rest
      return ((flag, !cleared) :: changes, rest)

/-- Whether blanks and comments count for nothing after the changes. -/
def verboseAfter (verbose : Bool) (changes : FlagChanges) : Bool :=
  (changes.lookup .verbose).getD verbose

/-- The name of a group up to its closing angle bracket. -/
def groupName? (text : Text) : Option (Text × Text) :=
  match Text.spanWhile (· ≠ '>') text with
  | (c :: name, _ :: rest) =>
    let continues (d : Char) : Bool :=
      d == '_' || d == '.' || d == '[' || d == ']' || isLetter d || isNumeral d
    if (c == '_' || isLetter c) && name.all continues then some (c :: name, rest) else none
  | _ => none

/-- What opens at a parenthesis. -/
inductive Opening
  /-- A group: its index if it is remembered, its flags, and what is known inside. -/
  | group (index : Option Nat) (changes : FlagChanges) (inside : Scope)
  /-- Flags for the rest of the group around it. -/
  | flags (changes : FlagChanges)

/-- What opens after a parenthesis, and the text after it. -/
def opening? (scope : Scope) (text : Text) : Option (Opening × Text) :=
  match skip scope.verbose text with
  | '?' :: '=' :: _ => none
  | '?' :: '!' :: _ => none
  | '?' :: '<' :: '=' :: _ => none
  | '?' :: '<' :: '!' :: _ => none
  | '?' :: 'P' :: '<' :: rest => named rest
  | '?' :: '<' :: rest => named rest
  | '?' :: rest => do
    let (changes, rest) ← flags? [] false rest
    match rest with
    | ':' :: rest =>
      some (.group none changes { scope with verbose := verboseAfter scope.verbose changes }, rest)
    | _ :: rest => if changes.isEmpty then none else some (.flags changes, rest)
    | [] => none
  | rest =>
    let groups := scope.groups + 1
    some (.group (some groups) [] { scope with groups }, rest)
where
  /-- A group with a name of its own. -/
  named (text : Text) : Option (Opening × Text) := do
    let (name, rest) ← groupName? text
    if scope.names.contains name then none
    else
      some (.group (some (scope.groups + 1)) []
        { scope with groups := scope.groups + 1, names := name :: scope.names }, rest)

/-- The items with the last one repeated; there has to be one to repeat, and flags cannot be. -/
def repeatLast? (items : List Term) (least : Nat) (most : Option Nat) (text : Text) :
    Option (List Term × Text) :=
  match items with
  | [] => none
  | .flags _ :: _ => none
  | item :: items =>
    match text with
    | '?' :: rest => some (.repeated item least most true :: items, rest)
    | _ => some (.repeated item least most false :: items, text)

/-- A character of a pattern that is none of its marks for structure, or an escape. -/
def primitive? (verbose : Bool) : Text → Option (Term × Text)
  | [] => none
  | '\\' :: rest => do
    match ← escape? verbose rest with
    | (.letter letter, rest) => some (.letter letter, rest)
    | (.set set, rest) => some (.set set, rest)
    | (.anchor anchor, rest) => some (.anchor anchor, rest)
  | '.' :: rest => some (.dot, rest)
  | '^' :: rest => some (.anchor .lineStart, rest)
  | '$' :: rest => some (.anchor .lineEnd, rest)
  | c :: rest => some (.letter ⟨c, false⟩, rest)

/-- The branches up to a closing parenthesis or the end. `items` are those of the branch so far, and
`branches` those before it, the last ones first. The steps bound the number of items. -/
def branches? : Nat → Scope → (items branches : List Term) → Text → Option (Term × Scope × Text)
  | 0, _, _, _, _ => none
  | steps + 1, scope, items, branches, text =>
    let whole : Term := .ofBranches (Term.ofItems items.reverse :: branches).reverse
    match skip scope.verbose text with
    | [] => some (whole, scope, [])
    | ')' :: rest => some (whole, scope, ')' :: rest)
    | '|' :: rest => branches? steps scope [] (.ofItems items.reverse :: branches) rest
    | '(' :: rest => do
      match ← opening? scope rest with
      | (.flags changes, rest) =>
        let scope := { scope with verbose := verboseAfter scope.verbose changes }
        branches? steps scope (.flags changes :: items) branches rest
      | (.group index changes inside, rest) =>
        let (inner, after, rest) ← branches? steps inside [] [] rest
        match rest with
        | _ :: rest =>
          let scope := { after with verbose := scope.verbose }
          branches? steps scope (.group index changes inner :: items) branches rest
        | [] => none
    | '[' :: rest => do
      let (set, rest) ← brackets? scope.verbose rest
      branches? steps scope (.set set :: items) branches rest
    | '?' :: rest => do
      let (items, rest) ← repeatLast? items 0 (some 1) rest
      branches? steps scope items branches rest
    | '*' :: rest => do
      let (items, rest) ← repeatLast? items 0 none rest
      branches? steps scope items branches rest
    | '+' :: rest => do
      let (items, rest) ← repeatLast? items 1 none rest
      branches? steps scope items branches rest
    | '{' :: rest => do
      let ((least, most), rest) ← limits? scope.verbose rest
      let (items, rest) ← repeatLast? items least most (skip scope.verbose rest)
      branches? steps scope items branches rest
    | text => do
      let (item, rest) ← primitive? scope.verbose text
      branches? steps scope (item :: items) branches rest

/-- How deep a pattern may be nested. -/
def depthLimit : Nat := 250

/-- The pattern that is written as the text, if it is one and not nested too deep. -/
def Term.ofText? (text : Text) : Option Term :=
  match branches? (text.length + 1) {} [] [] text with
  | some (term, _, []) => if term.depth ≤ depthLimit then some term else none
  | _ => none

end SqlTemplate.Pattern
