import SqlTemplate.Unicode.Blank

/-!
# Text

Statement and expression text is a list of characters, so that scanning, splitting and trimming
are recursions over the data. Positions in messages and limits on length count UTF-8 bytes.
-/

namespace SqlTemplate

/-- Text that is scanned, split and trimmed. -/
abbrev Text := List Char

namespace Text

/-- Number of bytes that `text` takes in UTF-8. -/
def byteSize : Text → Nat
  | [] => 0
  | c :: rest => c.utf8Size + byteSize rest

/-- No text takes no bytes. -/
@[simp] theorem byteSize_nil : byteSize [] = 0 := rfl

/-- Bytes add up character by character. -/
@[simp] theorem byteSize_cons (c : Char) (text : Text) :
    byteSize (c :: text) = c.utf8Size + byteSize text := rfl

/-- Bytes add up over two texts. -/
@[simp] theorem byteSize_append (left right : Text) :
    byteSize (left ++ right) = byteSize left + byteSize right := by
  induction left with
  | nil => simp
  | cons c left ih => simp [ih, Nat.add_assoc]

/-- `text` without the blanks it starts with. -/
def trimStart (text : Text) : Text := text.dropWhile isBlank

/-- `text` without the blanks it ends with. -/
def trimEnd (text : Text) : Text := (text.reverse.dropWhile isBlank).reverse

/-- `text` without outer blanks. -/
def trim (text : Text) : Text := trimEnd (trimStart text)

/-- Whether `text` holds blanks only. -/
def blank (text : Text) : Bool := text.all isBlank

/-- The longest start of `text` whose characters satisfy `p`, and the rest. -/
def spanWhile (p : Char → Bool) (text : Text) : Text × Text := (text.takeWhile p, text.dropWhile p)

/-- Dropping characters makes no text longer. -/
theorem length_dropWhile_le (p : Char → Bool) (text : Text) :
    (text.dropWhile p).length ≤ text.length :=
  (List.dropWhile_suffix p).length_le

/-- What follows the first character after blanks is shorter than the text. -/
theorem length_of_trimStart {text rest : Text} {c : Char} (h : trimStart text = c :: rest) :
    rest.length < text.length := by
  have hle := length_dropWhile_le isBlank text
  rw [trimStart] at h
  rw [h, List.length_cons] at hle
  exact hle

/-- What follows the character that ends a span is shorter than the text. -/
theorem length_of_spanWhile {p : Char → Bool} {text before rest : Text} {c : Char}
    (h : text.spanWhile p = (before, c :: rest)) : rest.length < text.length := by
  have hle := length_dropWhile_le p text
  simp only [spanWhile, Prod.mk.injEq] at h
  rw [h.2, List.length_cons] at hle
  exact hle

/-- What follows `lead` at the start of `text`. -/
def dropLead? : (lead text : Text) → Option Text
  | [], text => some text
  | _ :: _, [] => none
  | c :: lead, d :: text => if c = d then dropLead? lead text else none

/-- What is left after a lead makes up the text together with it. -/
theorem eq_append_of_dropLead? {lead text rest : Text} (h : dropLead? lead text = some rest) :
    text = lead ++ rest := by
  fun_induction dropLead? lead text with
  | case1 text =>
    simp only [Option.some.injEq] at h
    simp [h]
  | case2 => simp at h
  | case3 lead d text ih => simp [ih h]
  | case4 => simp at h

/-- The text before and after the first occurrence of `pattern`. -/
def breakOn (pattern : Text) : Text → Option (Text × Text)
  | [] => if pattern.isEmpty then some ([], []) else none
  | c :: rest =>
    match dropLead? pattern (c :: rest) with
    | some after => some ([], after)
    | none => (breakOn pattern rest).map fun (before, after) => (c :: before, after)

/-- Nothing is lost at a break: the pattern stands between the two parts. -/
theorem eq_of_breakOn {pattern text before after : Text}
    (h : breakOn pattern text = some (before, after)) : text = before ++ pattern ++ after := by
  induction text generalizing before with
  | nil =>
    simp only [breakOn] at h
    split at h
    · simp_all
    · simp at h
  | cons c rest ih =>
    simp only [breakOn] at h
    split at h
    · rename_i hafter
      simp only [Option.some.injEq, Prod.mk.injEq] at h
      obtain ⟨rfl, rfl⟩ := h
      simpa using eq_append_of_dropLead? hafter
    · obtain ⟨⟨b, a⟩, hb, heq⟩ := Option.map_eq_some_iff.1 h
      simp only [Prod.mk.injEq] at heq
      obtain ⟨rfl, rfl⟩ := heq
      simp [ih hb]

/-- What follows a break is no longer than the text. -/
theorem length_of_breakOn {pattern text before after : Text}
    (h : breakOn pattern text = some (before, after)) : after.length ≤ text.length := by
  rw [eq_of_breakOn h]
  simp
  omega

/-- Whether `pattern` occurs in `text`. -/
def contains (text pattern : Text) : Bool := (breakOn pattern text).isSome

/-- Byte offset of the first occurrence of `pattern`. -/
def offsetOf? (pattern text : Text) : Option Nat :=
  (breakOn pattern text).map fun (before, _) => byteSize before

/-- Equality up to the case of ASCII letters. -/
def sameLetters (left right : Text) : Bool := left.map Char.toLower == right.map Char.toLower

/-- What follows `lead` at the start of `text`, up to the case of ASCII letters. -/
def afterLead? (lead text : Text) : Option Text :=
  let (head, rest) := text.splitAt lead.length
  if sameLetters head lead then some rest else none

/-- What precedes `tail` at the end of `text`, up to the case of ASCII letters. -/
def beforeTail? (tail text : Text) : Option Text :=
  let (rest, last) := text.splitAt (text.length - tail.length)
  if sameLetters last tail then some rest else none

/-- The text with every occurrence of `first :: others` replaced, found from left to right
without overlap. -/
def replaceAll (first : Char) (others substitute : Text) : Text → Text
  | [] => []
  | c :: rest =>
    if c = first then
      match h : dropLead? others rest with
      | some after =>
        have : after.length ≤ rest.length := by
          rw [eq_append_of_dropLead? h]
          simp
        substitute ++ replaceAll first others substitute after
      | none => c :: replaceAll first others substitute rest
    else c :: replaceAll first others substitute rest
  termination_by text => text.length
  decreasing_by
    all_goals simp only [List.length_cons]
    all_goals omega

/-- The pieces of `text` between the characters `mark`: one more than there are marks. -/
def splitOn (mark : Char) : Text → List Text
  | [] => [[]]
  | c :: rest =>
    if c = mark then [] :: splitOn mark rest
    else
      match splitOn mark rest with
      | piece :: pieces => (c :: piece) :: pieces
      | [] => [[c]]

/-- The longest start of `text` that takes at most `limit` bytes. -/
def takeBytes (limit : Nat) : Text → Text
  | [] => []
  | c :: rest => if c.utf8Size ≤ limit then c :: takeBytes (limit - c.utf8Size) rest else []

/-- The decimal digits of `n`. -/
def ofNat (n : Nat) : Text := Nat.toDigits 10 n

/-- The decimal digits of `n`, after `-` for a negative number. -/
def ofInt : Int → Text
  | .ofNat n => ofNat n
  | .negSucc n => '-' :: ofNat (n + 1)

/-- The number that decimal digits stand for, read after `start`. -/
def digitsValue (start : Nat) (digits : Text) : Nat :=
  digits.foldl (fun n c => 10 * n + (c.toNat - '0'.toNat)) start

/-- Decimal digits, at least one of them, after at most one `+`. -/
def toNat? (text : Text) : Option Nat :=
  let digits := match text with
    | '+' :: rest => rest
    | _ => text
  if !digits.isEmpty && digits.all Char.isDigit then some (digitsValue 0 digits) else none

/-- As `toNat?` for numbers below `bound`. -/
def toNatBelow? (bound : Nat) (text : Text) : Option Nat := (toNat? text).filter (· < bound)

/-- The sign that `text` starts with, and the rest. -/
def splitSign : Text → Bool × Text
  | '-' :: rest => (true, rest)
  | '+' :: rest => (false, rest)
  | text => (false, text)

/-- The whole number that the text denotes: digits after at most one sign. -/
def toInt? (text : Text) : Option Int :=
  let (negative, digits) := splitSign text
  if !digits.isEmpty && digits.all Char.isDigit then
    let n : Int := digitsValue 0 digits
    some (if negative then -n else n)
  else none

end Text

end SqlTemplate
