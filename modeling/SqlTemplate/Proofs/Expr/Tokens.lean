import SqlTemplate.Proofs.Expr.Written
import SqlTemplate.Proofs.Render.Names

/-!
# Reading tokens

A token that is written as a text is read from it, as long as what follows cannot go on with it. A
space never does. So tokens with single spaces between them are read one after the other, and so
are tokens without spaces where each one stops the one before it.
-/

namespace SqlTemplate.Expr

/-- A text at which every token ends. -/
def Ends (rest : Text) : Prop := ∀ c ∈ rest.head?, c = ' '

/-- Every token ends at a space. -/
theorem ends_space (rest : Text) : Ends (' ' :: rest) := by
  intro c hc
  exact (Option.mem_some.mp hc).symm

/-- Nothing follows, or a space. -/
theorem Ends.cases {rest : Text} (h : Ends rest) : rest = [] ∨ ∃ more, rest = ' ' :: more := by
  cases rest with
  | nil => exact .inl rfl
  | cons c more =>
    obtain rfl := h c rfl
    exact .inr ⟨more, rfl⟩

/-- What a word starts with is a letter, an underscore or a dollar sign. -/
theorem startsWord_cases {c : Char} (h : startsWord c = true) :
    c = '$' ∨ c = '_' ∨ isLetter c = true := by
  simp only [startsWord, Bool.or_eq_true, beq_iff_eq] at h
  rcases h with (h | h) | h
  · exact .inr (.inl h)
  · exact .inl h
  · exact .inr (.inr h)

/-- No word starts with a digit. -/
theorem isDigit_of_startsWord {c : Char} (h : startsWord c = true) : c.isDigit = false := by
  rcases startsWord_cases h with rfl | rfl | h
  · decide
  · decide
  · cases hdigit : c.isDigit with
    | false => rfl
    | true =>
      have hcode := LoopScope.toNat_of_isDigit hdigit
      rw [isLetter, if_pos (by omega)] at h
      have := LoopScope.toNat_of_isAlpha h
      omega

/-- No word starts with a blank. -/
theorem isBlank_of_startsWord {c : Char} (h : startsWord c = true) : isBlank c = false := by
  rcases startsWord_cases h with rfl | h
  · decide
  · apply LoopScope.isBlank_of_isNameChar
    rcases h with rfl | h
    · decide
    · simp [LoopScope.isNameChar, h]

/-- A number is written in digits, at least one, and they denote it. -/
theorem digits_ofNat (n : ℕ) : Text.ofNat n ≠ [] ∧ (∀ c ∈ Text.ofNat n, c.isDigit = true) ∧
    Text.digitsValue 0 (Text.ofNat n) = n := by
  refine ⟨Nat.toDigits_ne_nil, fun c hc => ?_, ?_⟩
  · exact Nat.isDigit_of_mem_toDigits (by decide) (by decide) hc
  · exact Nat.ofDigitChars_toDigits (by decide) (by decide)

namespace Token

/-- The token is read from the text wherever it ends. -/
def ReadFrom (text : Text) (token : Token) : Prop :=
  ∃ c chars, text = c :: chars ∧ isBlank c = false ∧
    ∀ rest, Ends rest → lexeme c (chars ++ rest) = .ok (token, rest)

/-- The token is read from the text before each character that stops it. -/
def ReadBefore (token : Token) (stops : Char → Prop) (text : Text) : Prop :=
  ∃ c chars, text = c :: chars ∧ isBlank c = false ∧
    ∀ rest, (∀ e ∈ rest.head?, stops e) → lexeme c (chars ++ rest) = .ok (token, rest)

/-- A token that a space stops is read wherever it ends. -/
theorem ReadBefore.readFrom {stops : Char → Prop} {text : Text} {token : Token}
    (h : token.ReadBefore stops text) (hspace : stops ' ') : ReadFrom text token := by
  obtain ⟨c, chars, htext, hblank, hread⟩ := h
  refine ⟨c, chars, htext, hblank, fun rest hrest => hread rest fun e he => ?_⟩
  rwa [hrest e he]

/-- A word is read before what it does not go on with. -/
theorem readBefore_word {name : Text} (h : isIdentifier name = true) :
    (word name).ReadBefore (continuesWord · = false) name := by
  cases name with
  | nil => cases h
  | cons c chars =>
    obtain ⟨hstart, hchars⟩ := Bool.and_eq_true_iff.mp h
    have hsingle : c ≠ '\'' := by
      rintro rfl
      cases hstart
    have hdouble : c ≠ '"' := by
      rintro rfl
      cases hstart
    refine ⟨c, chars, rfl, isBlank_of_startsWord hstart, fun rest hrest => ?_⟩
    have hspan := Text.spanWhile_append (List.all_eq_true.mp hchars) hrest
    simp [lexeme, hsingle, hdouble, isDigit_of_startsWord hstart, hstart, hspan]

/-- Words are read. -/
theorem readFrom_word {name : Text} (h : isIdentifier name = true) :
    ReadFrom name (.word name) := (readBefore_word h).readFrom (by decide)

/-- Whether a character goes on with no number. -/
def EndsNumber (c : Char) : Prop := c.isDigit = false ∧ c ≠ '.' ∧ suffix? c = none

/-- Without a point there are no decimals. -/
theorem decimals_of_head {rest : Text} (h : ∀ c ∈ rest.head?, c ≠ '.') :
    decimals rest = ([], rest) := by
  unfold decimals
  split
  · exact absurd rfl (h '.' rfl)
  · rfl

/-- Without such a letter there is no suffix. -/
theorem dropSuffix_of_head {rest : Text} (h : ∀ c ∈ rest.head?, suffix? c = none) :
    dropSuffix rest = (false, rest) := by
  cases rest with
  | nil => rfl
  | cons c rest => simp [dropSuffix, h c rfl]

/-- A whole number is read before what no number goes on with. -/
theorem readBefore_digits {digits : Text} (hne : digits ≠ [])
    (hdigits : ∀ c ∈ digits, c.isDigit = true) (hbound : Text.digitsValue 0 digits < 2 ^ 63) :
    (int (Text.digitsValue 0 digits)).ReadBefore EndsNumber digits := by
  have hrange : Number.inRange (Text.digitsValue 0 digits) = true := by
    have hbounds : Number.least ≤ Text.digitsValue 0 digits ∧
        (Text.digitsValue 0 digits : ℤ) ≤ Number.largest := by
      unfold Number.least Number.largest
      omega
    simpa [Number.inRange] using hbounds
  cases digits with
  | nil => exact absurd rfl hne
  | cons c chars =>
    obtain ⟨hdigit, hchars⟩ := List.forall_mem_cons.mp hdigits
    have hsingle : c ≠ '\'' := by
      rintro rfl
      cases hdigit
    have hdouble : c ≠ '"' := by
      rintro rfl
      cases hdigit
    have hblank : isBlank c = false :=
      LoopScope.isBlank_of_isNameChar (LoopScope.isNameChar_of_isDigit hdigit)
    refine ⟨c, chars, rfl, hblank, fun rest hrest => ?_⟩
    have hspan := Text.spanWhile_append hchars fun e he => (hrest e he).1
    have hdecimals := decimals_of_head fun e he => (hrest e he).2.1
    have hsuffix := dropSuffix_of_head fun e he => (hrest e he).2.2
    have hnumber : number (c :: chars) [] false = .int (Text.digitsValue 0 (c :: chars)) := by
      simp [number, hrange]
    simp [lexeme, hsingle, hdouble, hdigit, hspan, hdecimals, hsuffix, hnumber]

/-- Whole numbers are read. -/
theorem readFrom_int {n : ℕ} (h : n < 2 ^ 63) : ReadFrom (Text.ofNat n) (.int n) := by
  obtain ⟨hne, hdigits, hvalue⟩ := digits_ofNat n
  have hread := readBefore_digits hne hdigits (by rwa [hvalue])
  rw [hvalue] at hread
  exact hread.readFrom ⟨by decide, by decide, by decide⟩

/-- A string is read up to its closing quote. -/
theorem string?_of_quoted {quote : Char} {chars text : Text} (h : Quoted quote chars text)
    (hquote : quote ≠ '\\') (rest : Text) :
    string? quote (text ++ quote :: rest) = some (chars, rest) := by
  induction h with
  | nil => simp [string?, hquote]
  | plain hne hslash _ ih => simp [string?, hne, hslash, ih]
  | escaped hfeed htab _ ih => simp [string?, ih, escaped, hfeed, htab]
  | feed _ ih => simp [string?, ih, escaped]
  | tab _ ih => simp [string?, ih, escaped]

/-- A string is read before whatever follows. -/
theorem readBefore_str {quote : Char} {chars text : Text} (hquote : quote = '\'' ∨ quote = '"')
    (h : Quoted quote chars text) :
    (str chars).ReadBefore (fun _ => True) (quote :: (text ++ [quote])) := by
  refine ⟨quote, text ++ [quote], rfl, ?_, fun rest _ => ?_⟩
  · rcases hquote with rfl | rfl <;> decide
  · have hslash : quote ≠ '\\' := by
      rcases hquote with rfl | rfl <;> decide
    have hstring := string?_of_quoted h hslash rest
    rw [List.append_assoc, List.singleton_append]
    simp [lexeme, hquote, hstring]

/-- Strings are read. -/
theorem readFrom_str {quote : Char} {chars text : Text} (hquote : quote = '\'' ∨ quote = '"')
    (h : Quoted quote chars text) : ReadFrom (quote :: (text ++ [quote])) (.str chars) :=
  (readBefore_str hquote h).readFrom trivial

/-- Symbols are read. -/
theorem readFrom_symbol (s : Symbol) : ReadFrom s.text (.symbol s) := by
  have hread (c : Char) (chars : Text) (hblank : isBlank c = false)
      (hnothing : lexeme c (chars ++ []) = .ok (.symbol s, []))
      (hspace : ∀ more, lexeme c (chars ++ ' ' :: more) = .ok (.symbol s, ' ' :: more)) :
      ReadFrom (c :: chars) (.symbol s) := by
    refine ⟨c, chars, rfl, hblank, fun rest hrest => ?_⟩
    rcases hrest.cases with rfl | ⟨more, rfl⟩
    · exact hnothing
    · exact hspace more
  cases s <;> exact hread _ _ (by decide) rfl fun _ => rfl

/-- Every token is read from the texts that it is written as. -/
theorem Spelled.readFrom {text : Text} {token : Token} (h : Spelled text token) :
    ReadFrom text token := by
  cases h with
  | word hname => exact readFrom_word hname
  | int hn => exact readFrom_int hn
  | str hquote h => exact readFrom_str hquote h
  | symbol s => exact readFrom_symbol s

end Token

/-- Blanks before a token only move it. -/
theorem tokensFrom_blank {c : Char} (h : isBlank c = true) (offset : ℕ) (rest : Text) :
    tokensFrom offset (c :: rest) = tokensFrom (offset + c.utf8Size) rest := by
  rw [tokensFrom, if_pos h]

/-- A token that can be read comes first. -/
theorem tokensFrom_token {c : Char} {rest after : Text} {token : Token}
    (hblank : isBlank c = false) (h : Token.lexeme c rest = .ok (token, after)) (offset : ℕ) :
    ∃ next, tokensFrom offset (c :: rest) =
      (tokensFrom next after).map ((token, offset) :: ·) := by
  refine ⟨offset + c.utf8Size + (Text.byteSize rest - Text.byteSize after), ?_⟩
  rw [tokensFrom, if_neg (by simp [hblank])]
  split
  · next fault hfault =>
    rw [h] at hfault
    cases hfault
  · next other later hother =>
    rw [h] at hother
    obtain ⟨rfl, rfl⟩ := Prod.mk.inj (Except.ok.inj hother)
    rfl

/-- Tokens of these kinds are read from a text, wherever it stands. -/
def Reads (text : Text) (kinds : List Token) : Prop :=
  ∀ offset, ∃ ts, tokensFrom offset text = .ok ts ∧ ts.map Prod.fst = kinds

/-- No token is read where there is no text. -/
theorem reads_nil : Reads [] [] := fun _ => ⟨[], by rw [tokensFrom.eq_def], rfl⟩

/-- Blanks before tokens do not matter. -/
theorem Reads.blank {c : Char} {rest : Text} {kinds : List Token} (h : Reads rest kinds)
    (hblank : isBlank c = true) : Reads (c :: rest) kinds := by
  intro offset
  rw [tokensFrom_blank hblank]
  exact h _

/-- A token is read before others if the text of these stops it. -/
theorem Token.ReadBefore.reads {stops : Char → Prop} {text rest : Text} {token : Token}
    {kinds : List Token} (h : token.ReadBefore stops text) (hstops : ∀ e ∈ rest.head?, stops e)
    (hrest : Reads rest kinds) : Reads (text ++ rest) (token :: kinds) := by
  intro offset
  obtain ⟨c, chars, rfl, hblank, hread⟩ := h
  obtain ⟨next, htokens⟩ := tokensFrom_token hblank (hread rest hstops) offset
  obtain ⟨ts, hts, hkinds⟩ := hrest next
  rw [List.cons_append, htokens, hts]
  exact ⟨_, rfl, by rw [List.map_cons, hkinds]⟩

/-- Tokens with single spaces between them are read in order. -/
theorem reads_intercalate {pieces : List Text} {kinds : List Token}
    (h : List.Forall₂ Token.Spelled pieces kinds) : Reads ([' '].intercalate pieces) kinds := by
  induction h with
  | nil => exact reads_nil
  | @cons piece token pieces kinds hpiece hrest ih =>
    have hread : token.ReadBefore (· = ' ') piece := hpiece.readFrom
    cases pieces with
    | nil =>
      cases hrest
      have hlast : Reads (piece ++ []) [token] := hread.reads (fun _ he => nomatch he) reads_nil
      rw [List.append_nil] at hlast
      rwa [List.intercalate_singleton]
    | cons second pieces =>
      rw [List.intercalate_cons_cons, List.append_assoc, List.singleton_append]
      exact hread.reads (ends_space _) (ih.blank (by decide))

end SqlTemplate.Expr
