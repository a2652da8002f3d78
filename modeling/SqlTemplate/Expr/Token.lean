import SqlTemplate.Decimal.Reading
import SqlTemplate.Error
import SqlTemplate.Unicode.Letter

/-!
# Tokens of expressions

Expressions are made of words, numbers, quoted strings and symbols. A number may carry one of the
letters `L`, `D` and `F`, the latter two of which make it a float.
-/

namespace SqlTemplate.Expr

/-- The symbols of expressions. -/
inductive Symbol
  | eq
  | ne
  | lt
  | le
  | gt
  | ge
  | and
  | or
  | not
  | plus
  | minus
  | times
  | divide
  | modulo
  | openParen
  | closeParen
  | openBracket
  | closeBracket
  | openBrace
  | closeBrace
  | dot
  | comma
  deriving DecidableEq, Repr

/-- A token of an expression. -/
inductive Token
  | word (name : Text)
  | int (n : Nat)
  | float (x : Float)
  | str (text : Text)
  | symbol (s : Symbol)

/-- Whether a word may start with the character. -/
def startsWord (c : Char) : Bool := c == '_' || c == '$' || isLetter c

/-- Whether a word may go on with the character. -/
def continuesWord (c : Char) : Bool := startsWord c || isNumeral c

namespace Symbol

/-- The symbols of two characters. -/
def double? : Char → Char → Option Symbol
  | '=', '=' => some eq
  | '!', '=' => some ne
  | '<', '=' => some le
  | '>', '=' => some ge
  | '&', '&' => some and
  | '|', '|' => some or
  | _, _ => none

/-- The symbols of one character. -/
def single? : Char → Option Symbol
  | '<' => some lt
  | '>' => some gt
  | '!' => some not
  | '+' => some plus
  | '-' => some minus
  | '*' => some times
  | '/' => some divide
  | '%' => some modulo
  | '(' => some openParen
  | ')' => some closeParen
  | '[' => some openBracket
  | ']' => some closeBracket
  | '{' => some openBrace
  | '}' => some closeBrace
  | '.' => some dot
  | ',' => some comma
  | _ => none

end Symbol

namespace Token

/-- What a character means after a backslash: a line feed, a tab or itself. -/
def escaped (c : Char) : Char := if c = 'n' then '\n' else if c = 't' then '\t' else c

/-- The characters of a string up to its closing quote, and the text after it. -/
def string? (quote : Char) : Text → Option (Text × Text)
  | [] => none
  | ['\\'] => none
  | '\\' :: c :: rest =>
    (string? quote rest).map fun (chars, after) => (escaped c :: chars, after)
  | c :: rest =>
    if c = quote then some ([], rest)
    else (string? quote rest).map fun (chars, after) => (c :: chars, after)

/-- The digits after a point that at least one digit follows, and the text after them. -/
def decimals : Text → Text × Text
  | '.' :: c :: rest =>
    if c.isDigit then Text.spanWhile Char.isDigit (c :: rest) else ([], '.' :: c :: rest)
  | text => ([], text)

/-- Whether a letter after a number makes it a float, if it may follow a number at all. -/
def suffix? (c : Char) : Option Bool :=
  if c = 'L' || c = 'l' then some false
  else if c = 'D' || c = 'd' || c = 'F' || c = 'f' then some true
  else none

/-- A letter that belongs to the number before it, taken off the text. -/
def dropSuffix : Text → Bool × Text
  | c :: rest =>
    match suffix? c with
    | some isFloat => (isFloat, rest)
    | none => (false, c :: rest)
  | [] => (false, [])

/-- The number with the given digits. A whole number that arithmetic cannot hold is a float. -/
def number (whole part : Text) (isFloat : Bool) : Token :=
  let n := Text.digitsValue 0 whole
  if !isFloat && part.isEmpty && Number.inRange n then .int n
  else .float (DecimalText.toFloat false ⟨whole, part, 0⟩)

/-- The token that starts with the character `c`, which is not blank, and the text after it. -/
def lexeme (c : Char) (rest : Text) : Except ParseFault (Token × Text) :=
  if c = '\'' || c = '"' then
    match string? c rest with
    | some (chars, after) => .ok (.str chars, after)
    | none => .error .unterminatedString
  else if c.isDigit then
    let (digits, afterWhole) := Text.spanWhile Char.isDigit rest
    let (part, afterPart) := decimals afterWhole
    let (isFloat, after) := dropSuffix afterPart
    .ok (number (c :: digits) part isFloat, after)
  else if startsWord c then
    let (name, after) := Text.spanWhile continuesWord rest
    .ok (.word (c :: name), after)
  else
    match rest.head?.bind (Symbol.double? c) with
    | some s => .ok (.symbol s, rest.tail)
    | none =>
      match Symbol.single? c with
      | some s => .ok (.symbol s, rest)
      | none => .error (.unexpectedCharacter c)

/-- What follows a string is no longer than the text after its opening quote. -/
theorem length_of_string? {quote : Char} {text chars after : Text}
    (h : string? quote text = some (chars, after)) : after.length ≤ text.length := by
  fun_induction string? quote text generalizing chars with
  | case1 => simp at h
  | case2 => simp at h
  | case3 c rest ih =>
    obtain ⟨⟨_, _⟩, hs, heq⟩ := Option.map_eq_some_iff.1 h
    simp only [Prod.mk.injEq] at heq
    have := ih (heq.2 ▸ hs)
    simp; omega
  | case4 =>
    simp only [Option.some.injEq, Prod.mk.injEq] at h
    simp [← h.2]
  | case5 c rest _ _ _ ih =>
    obtain ⟨⟨_, _⟩, hs, heq⟩ := Option.map_eq_some_iff.1 h
    simp only [Prod.mk.injEq] at heq
    have := ih (heq.2 ▸ hs)
    simp; omega

/-- What follows decimals is no longer than the text. -/
theorem length_decimals (text : Text) : (decimals text).2.length ≤ text.length := by
  unfold decimals
  split
  · rename_i c rest
    split
    · have := Text.length_dropWhile_le Char.isDigit (c :: rest)
      simp only [Text.spanWhile, List.length_cons] at this ⊢
      omega
    · simp
  · simp

/-- What follows a suffix is no longer than the text. -/
theorem length_dropSuffix (text : Text) : (dropSuffix text).2.length ≤ text.length := by
  unfold dropSuffix
  split
  · split <;> simp
  · simp

/-- A token takes at least its first character. -/
theorem length_of_lexeme {c : Char} {rest after : Text} {token : Token}
    (h : lexeme c rest = .ok (token, after)) : after.length ≤ rest.length := by
  unfold lexeme at h
  split at h
  · split at h
    · rename_i hs
      simp only [Except.ok.injEq, Prod.mk.injEq] at h
      exact h.2 ▸ length_of_string? hs
    · simp at h
  · split at h
    · simp only [Text.spanWhile, Except.ok.injEq, Prod.mk.injEq] at h
      have h1 := Text.length_dropWhile_le Char.isDigit rest
      have h2 := length_decimals (rest.dropWhile Char.isDigit)
      have h3 := length_dropSuffix (decimals (rest.dropWhile Char.isDigit)).2
      rw [← h.2]
      omega
    · split at h
      · simp only [Text.spanWhile, Except.ok.injEq, Prod.mk.injEq] at h
        exact h.2 ▸ Text.length_dropWhile_le continuesWord rest
      · split at h
        · simp only [Except.ok.injEq, Prod.mk.injEq] at h
          simp [← h.2]
        · split at h
          · simp only [Except.ok.injEq, Prod.mk.injEq] at h
            simp [← h.2]
          · simp at h

end Token

/-- The tokens of the rest of an expression, which stands at byte `offset`, each with its own
offset. -/
def tokensFrom (offset : Nat) : Text → Except (ParseFault × Nat) (List (Token × Nat))
  | [] => .ok []
  | c :: rest =>
    if isBlank c then tokensFrom (offset + c.utf8Size) rest
    else
      match h : Token.lexeme c rest with
      | .error fault => .error (fault, offset)
      | .ok (token, after) =>
        have := Token.length_of_lexeme h
        let next := offset + c.utf8Size + (Text.byteSize rest - Text.byteSize after)
        (tokensFrom next after).map ((token, offset) :: ·)
  termination_by text => text.length

/-- The tokens of an expression with their offsets. -/
def tokens (source : Text) : Except (ParseFault × Nat) (List (Token × Nat)) := tokensFrom 0 source

end SqlTemplate.Expr
