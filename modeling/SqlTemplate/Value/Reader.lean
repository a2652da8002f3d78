import SqlTemplate.Decimal.Reading
import SqlTemplate.Value.Basic

/-!
# Reading values from JSON text

A literal without point and exponent is an integer if it fits 64 bits, signed or unsigned; `-0`
and every other literal is a float. Of two fields under one key the later one stays.
-/

namespace SqlTemplate.JsonReader

/-- The text after the blanks that JSON allows between its parts. -/
def skipBlanks (text : Text) : Text :=
  text.dropWhile fun c => c == ' ' || c == '\n' || c == '\t' || c == '\r'

/-- The code unit that four hexadecimal digits stand for. -/
def unit? : Text → Option (Nat × Text)
  | a :: b :: c :: d :: rest => do
    let digit (c : Char) : Option Nat :=
      if c.isDigit then some (c.toNat - '0'.toNat)
      else if 'a' ≤ c && c ≤ 'f' then some (c.toNat - 'a'.toNat + 10)
      else if 'A' ≤ c && c ≤ 'F' then some (c.toNat - 'A'.toNat + 10)
      else none
    some (4096 * (← digit a) + 256 * (← digit b) + 16 * (← digit c) + (← digit d), rest)
  | _ => none

/-- The character of an escape by code units; a character beyond the first plane takes two. -/
def unitEscape? (text : Text) : Option (Char × Text) := do
  let (high, rest) ← unit? text
  if 0xD800 ≤ high && high < 0xDC00 then
    match rest with
    | '\\' :: 'u' :: rest =>
      let (low, rest) ← unit? rest
      if 0xDC00 ≤ low && low < 0xE000 then
        some (Char.ofNat (0x10000 + (high - 0xD800) * 0x400 + (low - 0xDC00)), rest)
      else none
    | _ => none
  else if 0xDC00 ≤ high && high < 0xE000 then none
  else some (Char.ofNat high, rest)

/-- The character of an escape, after its backslash. -/
def escaped? : Text → Option (Char × Text)
  | 'b' :: rest => some (Char.ofNat 0x8, rest)
  | 'f' :: rest => some (Char.ofNat 0xC, rest)
  | 'n' :: rest => some ('\n', rest)
  | 'r' :: rest => some ('\r', rest)
  | 't' :: rest => some ('\t', rest)
  | 'u' :: rest => unitEscape? rest
  | c :: rest => if c == '"' || c == '\\' || c == '/' then some (c, rest) else none
  | [] => none

/-- The characters up to the closing quote, and the text after it. The steps bound the number of
characters. -/
def string? : Nat → Text → Option (Text × Text)
  | 0, _ => none
  | _, [] => none
  | _ + 1, '"' :: rest => some ([], rest)
  | steps + 1, '\\' :: rest => do
    let (c, rest) ← escaped? rest
    let (chars, rest) ← string? steps rest
    some (c :: chars, rest)
  | steps + 1, c :: rest => do
    if c.toNat < 0x20 then none
    else
      let (chars, rest) ← string? steps rest
      some (c :: chars, rest)

/-- The number that a literal denotes, and the text after it. -/
def number? (text : Text) : Option (Number × Text) := do
  let (negative, unsigned) : Bool × Text := match text with
    | '-' :: rest => (true, rest)
    | _ => (false, text)
  let (whole, rest) := DecimalText.spanDigits unsigned
  if whole.isEmpty || (whole.length ≠ 1 && whole.head? == some '0') then none
  else
    let n := Text.digitsValue 0 whole
    let plain := match rest with
      | '.' :: _ => false
      | 'e' :: _ => false
      | 'E' :: _ => false
      | _ => true
    if plain && !negative && n < UInt64.size then some (.int n, rest)
    else if plain && negative && 0 < n && n ≤ Number.least.natAbs then some (.int (-n), rest)
    else
      let (decimal, rest) ← DecimalText.parse? unsigned
      let x ← JsonNumber.toFloat? negative decimal
      some (.float x, rest)

mutual

/-- The value that `text` starts with, and the rest. The steps bound the number of values. -/
def value? : Nat → Text → Option (Value × Text)
  | 0, _ => none
  | steps + 1, text =>
    match skipBlanks text with
    | 'n' :: 'u' :: 'l' :: 'l' :: rest => some (.null, rest)
    | 't' :: 'r' :: 'u' :: 'e' :: rest => some (.bool true, rest)
    | 'f' :: 'a' :: 'l' :: 's' :: 'e' :: rest => some (.bool false, rest)
    | '"' :: rest =>
      (string? (rest.length + 1) rest).map fun (chars, rest) => (.str (String.ofList chars), rest)
    | '[' :: rest =>
      match skipBlanks rest with
      | ']' :: rest => some (.arr [], rest)
      | rest => (items? steps rest).map fun (items, rest) => (.arr items, rest)
    | '{' :: rest =>
      match skipBlanks rest with
      | '}' :: rest => some (.obj [], rest)
      | rest => (fields? steps rest).map fun (fields, rest) => (Value.ofPairs fields, rest)
    | rest => (number? rest).map fun (n, rest) => (.num n, rest)

/-- The items of a list up to its closing bracket. -/
def items? : Nat → Text → Option (List Value × Text)
  | 0, _ => none
  | steps + 1, text => do
    let (item, rest) ← value? steps text
    match skipBlanks rest with
    | ']' :: rest => some ([item], rest)
    | ',' :: rest =>
      let (items, rest) ← items? steps rest
      some (item :: items, rest)
    | _ => none

/-- The fields of an object up to its closing brace. -/
def fields? : Nat → Text → Option (List (String × Value) × Text)
  | 0, _ => none
  | steps + 1, text => do
    match skipBlanks text with
    | '"' :: rest =>
      let (key, rest) ← string? (rest.length + 1) rest
      match skipBlanks rest with
      | ':' :: rest =>
        let (value, rest) ← value? steps rest
        match skipBlanks rest with
        | '}' :: rest => some ([(String.ofList key, value)], rest)
        | ',' :: rest =>
          let (fields, rest) ← fields? steps rest
          some ((String.ofList key, value) :: fields, rest)
        | _ => none
      | _ => none
    | _ => none

end

end SqlTemplate.JsonReader

namespace SqlTemplate.Value

/-- The value that the whole text denotes. -/
def ofJson? (text : Text) : Option Value :=
  match JsonReader.value? (2 * text.length + 2) text with
  | some (value, rest) => if (JsonReader.skipBlanks rest).isEmpty then some value else none
  | none => none

end SqlTemplate.Value
