import SqlTemplate.Proofs.Scan.Braced

/-!
# Writing texts that scan back

Any texts can be written as literal text and any others as bodies: a backslash goes before every
delimiter in them that is not meant as one. A scan then hands out the bodies as they were and keeps
the literal text as it was. Only a backslash at the end of a text cannot be written so, as it would
escape the delimiter behind it.
-/

namespace SqlTemplate

/-- The text with a backslash before every occurrence of a pattern. -/
def Text.escape (pattern : Text) : Text → Text
  | [] => []
  | c :: rest =>
    match dropLead? pattern (c :: rest) with
    | some _ => '\\' :: c :: escape pattern rest
    | none => c :: escape pattern rest

namespace Delimiters

/-- Literal text as it is written: no opening delimiter in it counts. -/
def encodeLiteral (d : Delimiters) (text : Text) : Text := Text.escape d.opening text

/-- A body as it is written, between delimiters: no closing delimiter in it counts. -/
def encodeToken (d : Delimiters) (body : Text) : Text :=
  d.source (.token (Text.escape d.closing body))

/-- Literal texts, each with a body behind it, and a last literal text as they are written. -/
def encode (d : Delimiters) (pairs : List (Text × Text)) (last : Text) : Text :=
  (pairs.flatMap fun (literal, body) => d.encodeLiteral literal ++ d.encodeToken body) ++
    d.encodeLiteral last

end Delimiters

namespace Text

/-- A character at which the pattern does not occur is kept. -/
theorem escape_cons {pattern text : Text} {c : Char} (h : dropLead? pattern (c :: text) = none) :
    escape pattern (c :: text) = c :: escape pattern text := by
  rw [escape, h]

/-- A backslash goes before a character at which the pattern occurs. -/
theorem escape_of_dropLead? {pattern text rest : Text} {c : Char}
    (h : dropLead? pattern (c :: text) = some rest) :
    escape pattern (c :: text) = '\\' :: c :: escape pattern text := by
  rw [escape, h]

/-- No text becomes empty. -/
theorem escape_ne_nil {pattern text : Text} (h : text ≠ []) : escape pattern text ≠ [] := by
  obtain ⟨c, rest, rfl⟩ := List.exists_cons_of_ne_nil h
  rw [escape]
  split <;> exact List.cons_ne_nil _ _

/-- A brace comes to stand at the start only if it has been there. -/
theorem head?_of_escape {pattern text rest : Text} (hrest : rest.head? ≠ some '{')
    (h : (escape pattern text ++ rest).head? = some '{') : text.head? = some '{' := by
  cases text with
  | nil => exact absurd h hrest
  | cons c text =>
    rw [escape] at h
    split at h
    · cases h
    · exact h

end Text

namespace Delimiters

variable {d : Delimiters} {mark : Char}

/-- A brace that is escaped does not close a token. -/
theorem isBody_escape {body : Text} (h : escapes body = false) :
    IsBody (Text.escape ['}'] body) := by
  induction body with
  | nil => exact isBody_nil
  | cons c body ih =>
    have hrest := ih (escapes_of_cons h)
    by_cases hc : c = '}'
    · subst hc
      rw [Text.escape_of_dropLead? rfl]
      have hslash : '}' ∉ ['\\'] := by decide
      exact hrest.brace hslash rfl
    · have hplain : Text.dropLead? ['}'] (c :: body) = none := by
        rw [Text.dropLead?, if_neg (Ne.symm hc)]
      rw [Text.escape_cons hplain]
      refine hrest.cons hc ?_
      cases body with
      | nil => exact h
      | cons e body =>
        rw [escapes_cons (Text.escape_ne_nil (List.cons_ne_nil e body))]
        exact hrest.1

/-- Braces that are escaped lose their backslashes again. -/
theorem unescape_escape (body : Text) : parameter.unescape (Text.escape ['}'] body) = body := by
  induction body with
  | nil => exact unescape_nil
  | cons c body ih =>
    by_cases hc : c = '}'
    · subst hc
      rw [Text.escape_of_dropLead? rfl, unescape_escaped, ih]
    · have hplain : Text.dropLead? ['}'] (c :: body) = none := by
        rw [Text.dropLead?, if_neg (Ne.symm hc)]
      rw [Text.escape_cons hplain, unescape_cons, ih]
      rintro ⟨-, hhead⟩
      -- Behind a backslash a brace would be one that has got its own backslash.
      cases body with
      | nil => cases hhead
      | cons e body =>
        rw [Text.escape] at hhead
        split at hhead
        · cases hhead
        · rename_i hlead
          obtain rfl : e = '}' := by simpa using hhead
          cases hlead

namespace Braced

/-- The opening delimiter occurs at a mark before a brace. -/
theorem escape_opening (hd : d.Braced mark) (text : Text) :
    Text.escape d.opening (mark :: '{' :: text) =
      '\\' :: mark :: '{' :: Text.escape d.opening text := by
  have hlead : Text.dropLead? [mark, '{'] (mark :: '{' :: text) = some text :=
    Text.dropLead?_eq_some.mpr rfl
  rw [hd.opening, Text.escape_of_dropLead? hlead,
    Text.escape_cons (by rw [Text.dropLead?, if_neg hd.mark_ne_brace])]

/-- The opening delimiter occurs at no other character. -/
theorem escape_char (hd : d.Braced mark) {c : Char} {text : Text}
    (h : ¬(c = mark ∧ text.head? = some '{')) :
    Text.escape d.opening (c :: text) = c :: Text.escape d.opening text := by
  apply Text.escape_cons
  cases hlead : Text.dropLead? d.opening (c :: text) with
  | none => rfl
  | some rest =>
    rw [hd.opening] at hlead
    obtain ⟨hc, rfl⟩ := List.cons.inj (Text.dropLead?_eq_some.mp hlead)
    exact absurd ⟨hc, rfl⟩ h

/-- Nothing starts in literal text as it is written, nor at the seam behind it. -/
theorem plain_escape (hd : d.Braced mark) {c : Char} {literal rest : Text}
    (hopen : ¬(c = mark ∧ literal.head? = some '{')) (hrest : rest.head? ≠ some '{')
    (hseam : escapes (c :: literal) = true → rest = []) :
    d.Plain c (Text.escape d.opening literal ++ rest) := by
  refine hd.plain_iff.mpr ⟨?_, ?_⟩
  · rintro ⟨hc, hhead⟩
    exact hopen ⟨hc, Text.head?_of_escape hrest hhead⟩
  · rintro ⟨rfl, more, hsplit⟩
    cases literal with
    | nil =>
      rw [Text.escape, hseam rfl] at hsplit
      cases hsplit
    | cons e literal =>
      by_cases hnext : e = mark ∧ literal.head? = some '{'
      · -- The opening delimiter has got a backslash of its own.
        obtain ⟨rfl, hhead⟩ := hnext
        obtain ⟨after, rfl⟩ := List.head?_eq_some_iff.mp hhead
        rw [hd.escape_opening] at hsplit
        exact hd.mark_ne_slash (List.cons.inj hsplit).1.symm
      · rw [hd.escape_char hnext] at hsplit
        obtain ⟨he, htail⟩ := List.cons.inj hsplit
        exact hnext ⟨he, Text.head?_of_escape hrest (congrArg List.head? htail)⟩

/-- Literal text is kept as it was, whatever stands behind it, unless it would escape it. -/
theorem scan_encodeLiteral {m : Type → Type} [Monad m] [LawfulMonad m] (hd : d.Braced mark)
    (handle : Text → m Text) {literal rest : Text} (hrest : rest.head? ≠ some '{')
    (hseam : escapes literal = true → rest = []) :
    d.scan handle (d.encodeLiteral literal ++ rest) =
      (fun out => literal ++ out) <$> d.scan handle rest := by
  unfold encodeLiteral
  induction hlength : literal.length using Nat.strongRecOn generalizing literal with
  | ind n ih =>
    cases literal with
    | nil => simp [Text.escape]
    | cons c literal =>
      by_cases hopen : c = mark ∧ literal.head? = some '{'
      · obtain ⟨rfl, hhead⟩ := hopen
        obtain ⟨more, rfl⟩ := List.head?_eq_some_iff.mp hhead
        have hmore : escapes more = true → rest = [] := fun hesc => hseam (by
          rw [escapes_cons (List.cons_ne_nil _ _), escapes_cons (ne_nil_of_escapes hesc), hesc])
        have hshorter : more.length < n := by
          rw [← hlength, List.length_cons, List.length_cons]
          omega
        rw [hd.escape_opening, List.cons_append, List.cons_append, List.cons_append, hd.scan_slash,
          ih more.length hshorter hmore rfl]
        simp
      · have hliteral : escapes literal = true → rest = [] := fun hesc => hseam (by
          rw [escapes_cons (ne_nil_of_escapes hesc), hesc])
        rw [hd.escape_char hopen, List.cons_append,
          hd.scan_char handle (hd.plain_escape hopen hrest hseam),
          ih literal.length (by simp [← hlength]) hliteral rfl]
        simp

/-- A body is handed out as it was. -/
theorem scan_encodeToken {m : Type → Type} [Monad m] [LawfulMonad m] (hd : d.Braced mark)
    (handle : Text → m Text) {body : Text} (hbody : escapes body = false) (rest : Text) :
    d.scan handle (d.encodeToken body ++ rest) = (do
      let out ← handle body
      let more ← d.scan handle rest
      return out ++ more) := by
  have hscan := hd.scan_body handle (isBody_escape hbody) rest
  rw [unescape_congr (e := parameter) hd.closing, unescape_escape] at hscan
  rw [← hscan, encodeToken, source, hd.opening, hd.closing]
  simp

/-- What is written as a token starts with its mark. -/
theorem head?_encodeToken (hd : d.Braced mark) (body : Text) :
    (d.encodeToken body).head? = some mark := by
  simp [encodeToken, source, hd.opening]

end Braced

/-- What is written as literal texts and bodies in turn scans back: the handler gets the bodies as
they were, in order, and what it makes of them stands between the literal texts as they were. -/
theorem scan_encode (hd : d = parameter ∨ d = substitution) {pairs : List (Text × Text)}
    (hliterals : ∀ pair ∈ pairs, escapes pair.1 = false)
    (hbodies : ∀ pair ∈ pairs, escapes pair.2 = false) (last : Text) {m : Type → Type} [Monad m]
    [LawfulMonad m] (handle : Text → m Text) :
    d.scan handle (d.encode pairs last) = (do
      let pieces ← pairs.mapM fun (literal, body) => do
        return literal ++ (← handle body)
      return pieces.flatten ++ last) := by
  obtain ⟨mark, hd⟩ := exists_braced hd
  induction pairs with
  | nil =>
    have hscan : d.scan handle (d.encodeLiteral last ++ []) =
        (fun out => last ++ out) <$> d.scan handle [] :=
      hd.scan_encodeLiteral handle (by simp) (by simp)
    simpa [encode, scan_nil] using hscan
  | cons pair pairs ih =>
    obtain ⟨literal, body⟩ := pair
    obtain ⟨hliteral, hliterals⟩ := List.forall_mem_cons.mp hliterals
    obtain ⟨hbody, hbodies⟩ := List.forall_mem_cons.mp hbodies
    have hencode : d.encode ((literal, body) :: pairs) last =
        d.encodeLiteral literal ++ (d.encodeToken body ++ d.encode pairs last) := by
      simp [encode]
    have hhead : (d.encodeToken body ++ d.encode pairs last).head? ≠ some '{' := by
      rw [List.head?_append, hd.head?_encodeToken, Option.some_or]
      exact fun h => hd.mark_ne_brace (Option.some.inj h)
    have hseam : escapes literal = true → d.encodeToken body ++ d.encode pairs last = [] :=
      fun h => absurd h (by simpa using hliteral)
    rw [hencode, hd.scan_encodeLiteral handle hhead hseam, hd.scan_encodeToken handle hbody,
      ih hliterals hbodies]
    simp

/-- Delimiters and backslashes in literal text and in bodies scan back, and the handler sees one
body after the other. -/
theorem scan_encode_of_delimiters :
    let pairs : List (Text × Text) :=
      [("a \\$\x7b $".toList, "p\x7dq\\\x7d".toList), ([], "$\x7b".toList)]
    let last : Text := "\x7d $\x7bz\\".toList
    let handle : Text → StateM (List Text) Text := fun body => do
      modify (· ++ [body])
      return '<' :: body ++ ['>']
    (∀ pair ∈ pairs, escapes pair.1 = false) ∧ (∀ pair ∈ pairs, escapes pair.2 = false) ∧
      (substitution.scan handle (substitution.encode pairs last)).run [] =
        ("a \\$\x7b $<p\x7dq\\\x7d><$\x7b>\x7d $\x7bz\\".toList,
          ["p\x7dq\\\x7d".toList, "$\x7b".toList]) := by
  intro pairs last handle
  have hliterals : ∀ pair ∈ pairs, escapes pair.1 = false := by decide
  have hbodies : ∀ pair ∈ pairs, escapes pair.2 = false := by decide
  refine ⟨hliterals, hbodies, ?_⟩
  rw [scan_encode (.inr rfl) hliterals hbodies last handle]
  rfl

end Delimiters

end SqlTemplate
