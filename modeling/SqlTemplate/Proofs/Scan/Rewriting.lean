import SqlTemplate.Proofs.Scan.Braced

/-!
# Rewriting bodies

Where every body is replaced by a body, the text that comes out is cut at the same places as the one
that goes in. So what has been rewritten can be rewritten again, and a scan of it resolves each
escape once.
-/

namespace SqlTemplate

/-- A segment with its body replaced, if it has one. -/
def Segment.mapBody (replace : Text → Text) : Segment → Segment
  | .token body => .token (replace body)
  | segment => segment

namespace Delimiters

/-- A scan that hands out the bodies with their escapes. -/
def scanRaw {m : Type → Type} [Monad m] (d : Delimiters) (handle : Text → m Text) (text : Text) :
    m Text := do
  let pieces ← (d.segments text).mapM fun
    | .literal text => pure text
    | .escapedOpening => pure d.opening
    | .token body => handle body
  return pieces.flatten

variable {d : Delimiters} {mark : Char}

/-- The text with its bodies replaced is that of the segments with their bodies replaced. -/
theorem substitute_eq_flatMap (d : Delimiters) (replace : Text → Text) (text : Text) :
    d.substitute replace text =
      ((d.segments text).map (Segment.mapBody replace)).flatMap d.source := by
  rw [substitute, List.flatMap_map]
  congr 1
  funext segment
  cases segment <;> rfl

/-- Replacing bodies leaves a character of literal text alone. -/
theorem map_mapBody_pushLiteral (replace : Text → Text) (c : Char) (segments : List Segment) :
    (pushLiteral c segments).map (Segment.mapBody replace) =
      pushLiteral c (segments.map (Segment.mapBody replace)) := by
  cases segments with
  | nil => rfl
  | cons segment rest => cases segment <;> rfl

/-- A character put before segments is put before their text. -/
theorem flatMap_source_pushLiteral (d : Delimiters) (c : Char) (segments : List Segment) :
    (pushLiteral c segments).flatMap d.source = c :: segments.flatMap d.source := by
  cases segments with
  | nil => rfl
  | cons segment rest => cases segment <;> rfl

namespace Braced

/-- Whether something starts at a character is up to the two characters behind it. -/
theorem plain_cons (hd : d.Braced mark) {c e : Char} {text other : Text}
    (h : d.Plain c (e :: text)) (hother : d.Plain e other) : d.Plain c (e :: other) := by
  obtain ⟨hopen, -⟩ := hd.plain_iff.mp h
  obtain ⟨hnext, -⟩ := hd.plain_iff.mp hother
  refine hd.plain_iff.mpr ⟨hopen, ?_⟩
  rintro ⟨-, rest, hsplit⟩
  obtain ⟨he, rfl⟩ := List.cons.inj hsplit
  exact hnext ⟨he, rfl⟩

/-- Nothing starts at a character before a backslash. -/
theorem plain_slash (hd : d.Braced mark) (c : Char) (text : Text) : d.Plain c ('\\' :: text) := by
  refine hd.plain_iff.mpr ⟨?_, ?_⟩
  · rintro ⟨-, hhead⟩
    exact absurd (Option.some.inj hhead) (by decide)
  · rintro ⟨-, rest, hsplit⟩
    exact hd.mark_ne_slash (List.cons.inj hsplit).1.symm

/-- A character before an opening delimiter does not see what follows that. -/
theorem plain_opening (hd : d.Braced mark) {c : Char} {text other : Text}
    (h : d.Plain c (mark :: '{' :: text)) : d.Plain c (mark :: '{' :: other) := by
  obtain ⟨hopen, hescape⟩ := hd.plain_iff.mp h
  exact hd.plain_iff.mpr ⟨hopen, fun ⟨hc, _⟩ => hescape ⟨hc, text, rfl⟩⟩

section

variable (hd : d.Braced mark) (replace : Text → Text)
include hd

/-- A character at which nothing starts stays. -/
theorem substitute_char {c : Char} {text : Text} (h : d.Plain c text) :
    d.substitute replace (c :: text) = c :: d.substitute replace text := by
  rw [substitute_eq_flatMap, substitute_eq_flatMap, hd.segments_char h, map_mapBody_pushLiteral,
    flatMap_source_pushLiteral]

/-- An escaped opening delimiter stays, with its backslash. -/
theorem substitute_slash (text : Text) :
    d.substitute replace ('\\' :: mark :: '{' :: text) =
      '\\' :: mark :: '{' :: d.substitute replace text := by
  rw [substitute_eq_flatMap, substitute_eq_flatMap, hd.segments_slash]
  simp [Segment.mapBody, source, hd.opening]

/-- The body of a token is replaced, and its delimiters stay. -/
theorem substitute_body {body : Text} (h : IsBody body) (text : Text) :
    d.substitute replace (mark :: '{' :: (body ++ '}' :: text)) =
      mark :: '{' :: (replace body ++ '}' :: d.substitute replace text) := by
  rw [substitute_eq_flatMap, substitute_eq_flatMap, hd.segments_body h]
  simp [Segment.mapBody, source, hd.opening, hd.closing]

/-- An opening delimiter that is never closed stays, with all that follows it. -/
theorem substitute_unclosed {text : Text} (h : d.body? text = none) :
    d.substitute replace (mark :: '{' :: text) = mark :: '{' :: text := by
  rw [substitute_eq_flatMap, hd.segments_unclosed h]
  simp [Segment.mapBody, source]

end

/-- Where bodies are replaced by bodies the segments are those of before, with other bodies. For the
characters before the text it starts as before. -/
theorem segments_substitute (hd : d.Braced mark) {replace : Text → Text}
    (hreplace : ∀ body, IsBody body → IsBody (replace body)) (text : Text) :
    d.segments (d.substitute replace text) =
        (d.segments text).map (Segment.mapBody replace) ∧
      ∀ c, d.Plain c text → d.Plain c (d.substitute replace text) := by
  induction text using hd.inductionOn with
  | nil =>
    have hnil : d.substitute replace [] = [] := by simp [substitute, segments_nil]
    rw [hnil, segments_nil]
    exact ⟨rfl, fun _ h => h⟩
  | char c text hplain ih =>
    obtain ⟨hsegments, hstart⟩ := ih
    have hplain' := hstart c hplain
    rw [hd.substitute_char replace hplain, hd.segments_char hplain', hsegments,
      hd.segments_char hplain, map_mapBody_pushLiteral]
    exact ⟨rfl, fun e he => hd.plain_cons he hplain'⟩
  | slash text ih =>
    rw [hd.substitute_slash replace, hd.segments_slash, ih.1, hd.segments_slash]
    exact ⟨rfl, fun c _ => hd.plain_slash c _⟩
  | token body text hbody ih =>
    rw [hd.substitute_body replace hbody, hd.segments_body (hreplace body hbody), ih.1,
      hd.segments_body hbody]
    exact ⟨rfl, fun c hc => hd.plain_opening hc⟩
  | unclosed text hopen =>
    rw [hd.substitute_unclosed replace hopen, hd.segments_unclosed hopen]
    exact ⟨rfl, fun _ h => h⟩

end Braced

/-- Rewriting bodies into bodies changes the bodies and nothing else: all other segments are what
they were, two rewritings are one, and a scan gets the new bodies with their escapes resolved. -/
theorem segments_of_rewritten (hd : d = parameter ∨ d = substitution) {f : Text → Text}
    (hf : ∀ body, IsBody body → IsBody (f body)) (text : Text) :
    d.segments (d.substitute f text) = (d.segments text).map (Segment.mapBody f) ∧
      (∀ g : Text → Text, d.substitute g (d.substitute f text) = d.substitute (g ∘ f) text) ∧
      d.substitute id text = text ∧
      ∀ (m : Type → Type) [Monad m] [LawfulMonad m] (handle : Text → m Text),
        d.scan handle (d.substitute f text) =
          d.scanRaw (fun body => handle (d.unescape (f body))) text := by
  obtain ⟨mark, hd⟩ := exists_braced hd
  have hsegments := (hd.segments_substitute hf text).1
  refine ⟨hsegments, fun g => ?_, ?_, fun m _ _ handle => ?_⟩
  · rw [substitute_eq_flatMap, hsegments, substitute_eq_flatMap, List.map_map]
    congr 2
    funext segment
    cases segment <;> rfl
  · rw [substitute_eq_flatMap]
    have hid : Segment.mapBody id = id := by
      funext segment
      cases segment <;> rfl
    rw [hid, List.map_id, source_segments]
  · rw [scan, scanRaw, hsegments, List.mapM_map]
    congr 2
    funext segment
    cases segment <;> rfl

/-- A lead put before bodies leaves escapes and an opening delimiter without an end alone. -/
theorem segments_of_led_bodies :
    let lead : Text → Text := fun body => 'p' :: body
    let text : Text := "'\\#\x7bx' = #\x7ba\\\x7d#\x7b\x7d, #{} and #\x7bz".toList
    let handle : Text → StateM (List Text) Text := fun body => do
      modify (· ++ [body])
      return ['?']
    (∀ body, IsBody body → IsBody (lead body)) ∧
      parameter.segments (parameter.substitute lead text) =
        [.literal ['\''], .escapedOpening, .literal "x' = ".toList,
          .token "pa\\\x7d#\x7b".toList, .literal ", ".toList, .token ['p'],
          .literal " and #\x7bz".toList] ∧
      parameter.substitute lead (parameter.substitute lead text) =
        parameter.substitute (lead ∘ lead) text ∧
      (parameter.scan handle (parameter.substitute lead text)).run [] =
        ("'#\x7bx' = ?, ? and #\x7bz".toList, ["pa\x7d#\x7b".toList, ['p']]) := by
  intro lead text handle
  have hlead : ∀ body, IsBody body → IsBody (lead body) := by
    intro body hbody
    refine hbody.cons (by decide) ?_
    cases body with
    | nil => rfl
    | cons c rest => rw [escapes_cons (List.cons_ne_nil c rest), hbody.1]
  obtain ⟨hsegments, htwice, -, hscan⟩ := segments_of_rewritten (.inl rfl) hlead text
  refine ⟨hlead, hsegments.trans (by decide +kernel), htwice lead, ?_⟩
  rw [hscan]
  change @Eq (Text × List Text) _ _
  decide +kernel

end Delimiters

end SqlTemplate
