import SqlTemplate.Pattern.Parser

/-!
# Settings as they are written

The values of a configuration file in the syntax of TOML: strings of its four kinds, whole numbers,
truth values, and tables with at most one entry.
-/

namespace SqlTemplate

/-- The value of a setting as it is written. No setting has several parts, so tables and lists with
more than one entry are not read, nor are lists with any. -/
inductive Setting
  | str (text : Text)
  | int (n : Int)
  | bool (b : Bool)
  /-- A table or a list without entries. -/
  | empty
  /-- A table with one entry. -/
  | only (key : String) (value : Setting)

namespace Setting

/-- The characters that keep parts of a line apart. -/
def isSpace (c : Char) : Bool := c == ' ' || c == '\t'

/-- The text after spaces and tabs. -/
def skipSpaces (text : Text) : Text := text.dropWhile isSpace

/-- Control characters other than the tab stand in no string and no comment. -/
def isControl (c : Char) : Bool := (c.toNat < 0x20 && c != '\t') || c.toNat == 0x7F

/-- The text after a line break. -/
def lineBreak? : Text → Option Text
  | '\n' :: rest => some rest
  | '\r' :: '\n' :: rest => some rest
  | _ => none

/-- The text of the next line, after spaces and a comment. -/
def endLine? (text : Text) : Option Text :=
  let rest := match skipSpaces text with
    | '#' :: comment => comment.dropWhile (!isControl ·)
    | rest => rest
  if rest.isEmpty then some [] else lineBreak? rest

/-- The character that stands after a backslash, and the text after it. -/
def escape? : Text → Option (Char × Text)
  | 'b' :: rest => some (Char.ofNat 0x8, rest)
  | 't' :: rest => some ('\t', rest)
  | 'n' :: rest => some ('\n', rest)
  | 'f' :: rest => some (Char.ofNat 0xC, rest)
  | 'r' :: rest => some ('\r', rest)
  | 'e' :: rest => some (Char.ofNat 0x1B, rest)
  | '"' :: rest => some ('"', rest)
  | '\\' :: rest => some ('\\', rest)
  | 'x' :: rest => hex 2 rest
  | 'u' :: rest => hex 4 rest
  | 'U' :: rest => hex 8 rest
  | _ => none
where
  /-- The character whose code the next hexadecimal digits are. -/
  hex (count : Nat) (text : Text) : Option (Char × Text) :=
    if text.length < count then none
    else (Pattern.hexCharacter? (text.take count)).map (·, text.drop count)

/-- The rest of a string on one line. Only the double quote takes escapes. The steps bound the
number of characters. -/
def quoted? (quote : Char) : Nat → Text → Option (Text × Text)
  | 0, _ => none
  | _, [] => none
  | steps + 1, c :: rest =>
    if c = quote then some ([], rest)
    else if c = '\\' && quote = '"' then do
      let (meant, rest) ← escape? rest
      let (chars, rest) ← quoted? quote steps rest
      some (meant :: chars, rest)
    else if isControl c then none
    else do
      let (chars, rest) ← quoted? quote steps rest
      some (c :: chars, rest)

/-- The text after spaces and line breaks. The steps bound the number of lines. -/
def skipLines : Nat → Text → Text
  | 0, text => text
  | steps + 1, text =>
    match lineBreak? (skipSpaces text) with
    | some rest => skipLines steps rest
    | none => skipSpaces text

/-- The text after a backslash at the end of a line, with all spaces and line breaks up to the next
character. -/
def joinLines? (text : Text) : Option Text :=
  (lineBreak? (skipSpaces text)).map (skipLines text.length)

/-- The rest of a string over several lines. Up to two quotes may stand before the three that close
it. -/
def quotedLines? (quote : Char) : Nat → Text → Option (Text × Text)
  | 0, _ => none
  | steps + 1, text =>
    let (quotes, after) := Text.spanWhile (· == quote) text
    if 3 ≤ quotes.length then
      if quotes.length ≤ 5 then some (quotes.drop 3, after) else none
    else if !quotes.isEmpty then do
      let (chars, rest) ← quotedLines? quote steps after
      some (quotes ++ chars, rest)
    else
      match text with
      | [] => none
      | '\r' :: '\n' :: rest => do
        let (chars, rest) ← quotedLines? quote steps rest
        some ('\r' :: '\n' :: chars, rest)
      | c :: rest =>
        if c = '\\' && quote = '"' then
          match joinLines? rest with
          | some rest => quotedLines? quote steps rest
          | none => do
            let (meant, rest) ← escape? rest
            let (chars, rest) ← quotedLines? quote steps rest
            some (meant :: chars, rest)
        else if isControl c && c ≠ '\n' then none
        else do
          let (chars, rest) ← quotedLines? quote steps rest
          some (c :: chars, rest)

/-- The string that opens with this quote, one or three of them. A line break right after three
quotes counts for nothing. -/
def string? (quote : Char) (text : Text) : Option (Text × Text) :=
  match text with
  | c :: d :: rest =>
    if c = quote && d = quote then
      quotedLines? quote (rest.length + 1) ((lineBreak? rest).getD rest)
    else quoted? quote (text.length + 1) text
  | _ => quoted? quote (text.length + 1) text

/-- The digits of a number without the underscores between them. -/
def digits? (isDigit : Char → Bool) (text : Text) : Option Text :=
  let groups := Text.splitOn '_' text
  if groups.all fun group => !group.isEmpty && group.all isDigit then some groups.flatten else none

/-- The number with the given digits in a base. -/
def inBase? (base : Nat) (digits : Text) : Option Int :=
  (digits.foldlM (fun n c => (Pattern.hexDigit? c).map (base * n + ·)) 0).map Int.ofNat

/-- A whole number: decimal with at most one sign and no zero at its start, or hexadecimal, octal
or binary. -/
def number? : Text → Option Int
  | '0' :: 'x' :: rest => (digits? (fun c => (Pattern.hexDigit? c).isSome) rest).bind (inBase? 16)
  | '0' :: 'o' :: rest => (digits? (fun c => '0' ≤ c && c ≤ '7') rest).bind (inBase? 8)
  | '0' :: 'b' :: rest => (digits? (fun c => c == '0' || c == '1') rest).bind (inBase? 2)
  | text => do
    let (negative, unsigned) := Text.splitSign text
    let digits ← digits? Char.isDigit unsigned
    if digits.head? = some '0' && unsigned.length ≠ 1 then none
    else
      let n ← inBase? 10 digits
      some (if negative then -n else n)

/-- The characters of a number or of a truth value. -/
def isWord (c : Char) : Bool := c.isAlphanum || c == '_' || c == '+' || c == '-'

/-- A string, a whole number or a truth value that a text starts with, and the rest. -/
def scalar? : Text → Option (Setting × Text)
  | '"' :: rest => (string? '"' rest).map fun (chars, rest) => (str chars, rest)
  | '\'' :: rest => (string? '\'' rest).map fun (chars, rest) => (str chars, rest)
  | text =>
    let (word, rest) := Text.spanWhile isWord text
    if word = "true".toList then some (bool true, rest)
    else if word = "false".toList then some (bool false, rest)
    else (number? word).map fun n => (int n, rest)

/-- The key that a text starts with, bare or quoted on one line, and the rest. -/
def key? : Text → Option (Text × Text)
  | '"' :: rest => quoted? '"' (rest.length + 1) rest
  | '\'' :: rest => quoted? '\'' (rest.length + 1) rest
  | text =>
    let (key, rest) := Text.spanWhile (fun c => c.isAlphanum || c == '_' || c == '-') text
    if key.isEmpty then none else some (key, rest)

/-- The keys with dots between them that a text starts with, and the rest after spaces. The steps
bound their number. -/
def path? : Nat → Text → Option ((String × List String) × Text)
  | 0, _ => none
  | steps + 1, text => do
    let (key, rest) ← key? (skipSpaces text)
    match skipSpaces rest with
    | '.' :: rest => do
      let ((next, others), rest) ← path? steps rest
      some ((String.ofList key, next :: others), rest)
    | rest => some ((String.ofList key, []), rest)

/-- The value in tables with one entry each, under the given keys from outside in. -/
def nested (keys : List String) (value : Setting) : Setting := keys.foldr only value

/-- The text after spaces, line breaks and comments. The steps bound the number of lines. -/
def skipGap : Nat → Text → Text
  | 0, text => text
  | steps + 1, text =>
    let rest := match skipSpaces text with
      | '#' :: comment => comment.dropWhile (!isControl ·)
      | rest => rest
    match lineBreak? rest with
    | some rest => skipGap steps rest
    | none => rest

/-- The value that a text starts with, and the rest. Inside of braces and brackets lines may break;
a comma may stand behind the entry of a table. The steps bound how deep tables are nested. -/
def value? : Nat → Text → Option (Setting × Text)
  | 0, _ => none
  | steps + 1, text =>
    let skip (text : Text) : Text := skipGap (text.length + 1) text
    match text with
    | '[' :: rest =>
      match skip rest with
      | ']' :: rest => some (empty, rest)
      | _ => none
    | '{' :: rest =>
      match skip rest with
      | '}' :: rest => some (empty, rest)
      | rest => do
        let ((key, keys), rest) ← path? (rest.length + 1) rest
        match skip rest with
        | '=' :: rest => do
          let (value, rest) ← value? steps (skip rest)
          let rest := match skip rest with
            | ',' :: rest => skip rest
            | rest => rest
          match rest with
          | '}' :: rest => some (only key (nested keys value), rest)
          | _ => none
        | _ => none
    | text => scalar? text

end Setting

end SqlTemplate
