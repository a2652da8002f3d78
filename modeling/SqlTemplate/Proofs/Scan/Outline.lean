import SqlTemplate.Proofs.Scan.Braced

/-!
# Texts with places for values

An outline is a text in which some places are left open for values. It has bodies and pieces of its
own, found without any value. If the values hold none of the characters that delimiters and escapes
consist of, the placeholders of the filled outline stand where its pieces say, whatever the values
are: no placeholder starts or ends at the seam between a value and the text around it.
-/

namespace SqlTemplate

/-- One place of an outline. -/
inductive Spot
  /-- A character that stands there. -/
  | char (c : Char)
  /-- The place of the value with the given number. -/
  | value (number : Nat)
  deriving DecidableEq

/-- A text with something in it, but none of the characters that delimiters of parameters and
escapes consist of. -/
structure Text.Safe (text : Text) : Prop where
  ne_nil : text ≠ []
  outside : ∀ c ∈ text, c ∉ ['#', '{', '}', '\\']

instance (text : Text) : Decidable text.Safe :=
  decidable_of_iff (text ≠ [] ∧ (text.all fun c => c ∉ ['#', '{', '}', '\\']) = true)
    ⟨fun h => ⟨h.1, fun c hc => of_decide_eq_true (List.all_eq_true.mp h.2 c hc)⟩,
      fun h => ⟨h.ne_nil, List.all_eq_true.mpr fun c hc => decide_eq_true (h.outside c hc)⟩⟩

/-- The characters of a safe text are none of these. -/
theorem Text.Safe.ne {text : Text} (h : text.Safe) {c e : Char} (hc : c ∈ text)
    (he : e ∈ ['#', '{', '}', '\\']) : c ≠ e := by
  rintro rfl
  exact h.outside c hc he

namespace Spot

/-- What stands at a place, given the values. -/
def fill (values : Nat → Text) : Spot → Text
  | .char c => [c]
  | .value number => values number

end Spot

/-- The text of an outline, given the values. -/
def fillAll (values : Nat → Text) (outline : List Spot) : Text := outline.flatMap (Spot.fill values)

/-- A piece of an outline. -/
inductive Piece
  /-- Places outside all placeholders. -/
  | literal (spots : List Spot)
  /-- An opening delimiter after a backslash. -/
  | escapedOpening
  /-- The places between the delimiters of a placeholder. -/
  | token (body : List Spot)
  deriving DecidableEq

namespace Piece

/-- The places that a piece is cut from. -/
def spots : Piece → List Spot
  | .literal spots => spots
  | .escapedOpening => [.char '\\', .char '#', .char '{']
  | .token body => .char '#' :: .char '{' :: body ++ [.char '}']

/-- The places of a token. -/
def body? : Piece → Option (List Spot)
  | .token body => some body
  | _ => none

/-- The segment that a piece becomes, given the values. -/
def fill (values : Nat → Text) : Piece → Segment
  | .literal spots => .literal (fillAll values spots)
  | .escapedOpening => .escapedOpening
  | .token body => .token (fillAll values body)

end Piece

namespace Outline

/-- The body at the start of an outline, up to the first closing brace without a backslash before
it, and what follows that brace. -/
def body? : List Spot → Option (List Spot × List Spot)
  | [] => none
  | .char '}' :: rest => some ([], rest)
  | .char '\\' :: .char '}' :: rest =>
    (body? rest).map fun (body, after) => (.char '\\' :: .char '}' :: body, after)
  | spot :: rest => (body? rest).map fun (body, after) => (spot :: body, after)

/-- A body and what follows it make up the outline, with the closing brace between them. -/
theorem eq_of_body? {outline body after : List Spot} (h : body? outline = some (body, after)) :
    outline = body ++ .char '}' :: after := by
  fun_induction body? outline generalizing body with
  | case1 => cases h
  | case2 rest =>
    cases h
    rfl
  | case3 rest ih | case4 spot rest _ _ ih =>
    obtain ⟨⟨b, a⟩, hb, heq⟩ := Option.map_eq_some_iff.mp h
    cases heq
    rw [ih hb]
    rfl

/-- What follows a body is shorter than the outline. -/
theorem length_of_body? {outline body after : List Spot} (h : body? outline = some (body, after)) :
    after.length < outline.length := by
  rw [eq_of_body? h, List.length_append, List.length_cons]
  omega

/-- Puts a place before pieces, into their first literal if there is one. -/
def pushSpot (spot : Spot) : List Piece → List Piece
  | .literal spots :: rest => .literal (spot :: spots) :: rest
  | pieces => .literal [spot] :: pieces

/-- The pieces of an outline, in order. -/
def pieces : List Spot → List Piece
  | [] => []
  | .char '\\' :: .char '#' :: .char '{' :: rest => .escapedOpening :: pieces rest
  | .char '#' :: .char '{' :: rest =>
    match h : body? rest with
    | some (body, after) =>
      have := length_of_body? h
      .token body :: pieces after
    | none => [.literal (.char '#' :: .char '{' :: rest)]
  | spot :: rest => pushSpot spot (pieces rest)
  termination_by outline => outline.length

/-- The pieces make up the outline: no place is lost and none added. -/
theorem spots_pieces (outline : List Spot) : (pieces outline).flatMap Piece.spots = outline := by
  have hpush : ∀ spot pieces, (pushSpot spot pieces).flatMap Piece.spots =
      spot :: pieces.flatMap Piece.spots := by
    intro spot pieces
    cases pieces with
    | nil => rfl
    | cons piece rest => cases piece <;> rfl
  fun_induction pieces outline with
  | case1 => rfl
  | case2 rest ih => rw [List.flatMap_cons, ih, Piece.spots, List.cons_append, List.cons_append,
      List.singleton_append]
  | case3 rest body after hbody _ ih =>
    rw [eq_of_body? hbody, List.flatMap_cons, ih]
    simp [Piece.spots]
  | case4 rest hbody => rw [List.flatMap_singleton, Piece.spots]
  | case5 spot rest _ _ ih => rw [hpush, ih]

end Outline

namespace Delimiters

/-- A text that holds neither closing braces nor backslashes belongs to the body. -/
theorem body?_append {before : Text} (h : ∀ c ∈ before, c ≠ '}' ∧ c ≠ '\\') (after : Text) :
    parameter.body? (before ++ after) =
      (parameter.body? after).map fun (body, rest) => (before ++ body, rest) := by
  induction before with
  | nil => simp
  | cons c before ih =>
    obtain ⟨hc, hbefore⟩ := List.forall_mem_cons.mp h
    rw [List.cons_append, body?_cons hc.1 fun hslash => hc.2 hslash.1, ih hbefore]
    simp [Function.comp_def]

/-- A safe text belongs to the literal text before it or becomes a literal text itself. -/
theorem segments_append {before : Text} (h : ∀ c ∈ before, c ≠ '#' ∧ c ≠ '\\') (after : Text) :
    parameter.segments (before ++ after) = before.foldr pushLiteral (parameter.segments after) := by
  induction before with
  | nil => rfl
  | cons c before ih =>
    obtain ⟨hc, hbefore⟩ := List.forall_mem_cons.mp h
    have hplain : parameter.Plain c (before ++ after) :=
      parameter_braced.plain_iff.mpr ⟨fun hopen => hc.1 hopen.1, fun hslash => hc.2 hslash.1⟩
    rw [List.cons_append, parameter_braced.segments_char hplain, ih hbefore, List.foldr_cons]

/-- Characters before a literal text belong to it. -/
theorem foldr_pushLiteral_literal (before text : Text) (rest : List Segment) :
    before.foldr pushLiteral (.literal text :: rest) = .literal (before ++ text) :: rest := by
  induction before with
  | nil => rfl
  | cons c before ih => rw [List.foldr_cons, ih, pushLiteral, List.cons_append]

/-- Characters before anything else become a literal text. -/
theorem foldr_pushLiteral {before : Text} (hbefore : before ≠ []) {segments : List Segment}
    (h : ∀ c, pushLiteral c segments = .literal [c] :: segments) :
    before.foldr pushLiteral segments = .literal before :: segments := by
  rw [← List.dropLast_append_getLast hbefore, List.foldr_append, List.foldr_cons, List.foldr_nil, h,
    foldr_pushLiteral_literal]

end Delimiters

namespace Outline

variable {values : Nat → Text}

/-- An outline is filled place by place. -/
theorem fillAll_cons (spot : Spot) (outline : List Spot) :
    fillAll values (spot :: outline) = spot.fill values ++ fillAll values outline :=
  List.flatMap_cons

section

variable (hvalues : ∀ number, (values number).Safe)
include hvalues

/-- A character of delimiters and escapes at the start of a filled outline is not from a value. -/
theorem exists_of_fillAll_eq_cons {outline : List Spot} {c : Char} {text : Text}
    (hc : c ∈ ['#', '{', '}', '\\']) (h : fillAll values outline = c :: text) :
    ∃ rest, outline = .char c :: rest ∧ fillAll values rest = text := by
  cases outline with
  | nil => cases h
  | cons spot rest =>
    rw [fillAll_cons] at h
    cases spot with
    | char e =>
      obtain ⟨rfl, rfl⟩ := List.cons.inj h
      exact ⟨rest, rfl, rfl⟩
    | value number =>
      obtain ⟨e, value, hvalue⟩ := List.exists_cons_of_ne_nil (hvalues number).ne_nil
      rw [Spot.fill, hvalue, List.cons_append, List.cons.injEq] at h
      exact absurd (h.1 ▸ hc) ((hvalues number).outside e (by simp [hvalue]))

/-- Where a body of a filled outline ends, the body of the outline does. -/
theorem body?_fillAll (outline : List Spot) :
    Delimiters.parameter.body? (fillAll values outline) =
      (body? outline).map (Prod.map (fillAll values) (fillAll values)) := by
  fun_induction body? outline with
  | case1 => exact Delimiters.body?_of_none rfl
  | case2 rest => exact Delimiters.body?_brace _
  | case3 rest ih =>
    have hfill : fillAll values (.char '\\' :: .char '}' :: rest) =
        '\\' :: '}' :: fillAll values rest := rfl
    rw [hfill, Delimiters.body?_slash, ih, Option.map_map, Option.map_map]
    rfl
  | case4 spot rest hbrace hslash ih =>
    rw [fillAll_cons]
    cases spot with
    | char c =>
      have hc : c ≠ '}' := by
        rintro rfl
        exact hbrace rfl
      have hesc : ¬(c = '\\' ∧ (fillAll values rest).head? = some '}') := by
        rintro ⟨rfl, hhead⟩
        obtain ⟨text, htext⟩ := List.head?_eq_some_iff.mp hhead
        obtain ⟨more, rfl, -⟩ := exists_of_fillAll_eq_cons hvalues (by decide) htext
        exact hslash more rfl rfl
      rw [Spot.fill, List.singleton_append, Delimiters.body?_cons hc hesc, ih, Option.map_map,
        Option.map_map]
      rfl
    | value number =>
      have houtside : ∀ c ∈ values number, c ≠ '}' ∧ c ≠ '\\' := fun c hc =>
        ⟨(hvalues number).ne hc (by decide), (hvalues number).ne hc (by decide)⟩
      rw [Spot.fill, Delimiters.body?_append houtside, ih, Option.map_map, Option.map_map]
      rfl

/-- A filled place goes to the literal text that it stands before. -/
theorem map_fill_pushSpot (spot : Spot) (pieces : List Piece) :
    (pushSpot spot pieces).map (Piece.fill values) =
      (spot.fill values).foldr Delimiters.pushLiteral (pieces.map (Piece.fill values)) := by
  have hfill : spot.fill values ≠ [] := by
    cases spot with
    | char c => exact List.cons_ne_nil c []
    | value number => exact (hvalues number).ne_nil
  have hsingle : fillAll values [spot] = spot.fill values := List.flatMap_singleton _ _
  cases pieces with
  | nil =>
    rw [List.map_nil, Delimiters.foldr_pushLiteral hfill fun _ => rfl, ← hsingle]
    rfl
  | cons piece rest =>
    cases piece with
    | literal spots =>
      rw [List.map_cons, Piece.fill, Delimiters.foldr_pushLiteral_literal, ← fillAll_cons]
      rfl
    | escapedOpening | token body =>
      rw [List.map_cons, Piece.fill, Delimiters.foldr_pushLiteral hfill fun _ => rfl, ← hsingle]
      rfl

/-- The segments of a filled outline are its filled pieces. -/
theorem segments_fillAll (outline : List Spot) :
    Delimiters.parameter.segments (fillAll values outline) =
      (pieces outline).map (Piece.fill values) := by
  fun_induction pieces outline with
  | case1 => exact Delimiters.segments_nil _
  | case2 rest ih =>
    have hfill : fillAll values (.char '\\' :: .char '#' :: .char '{' :: rest) =
        '\\' :: '#' :: '{' :: fillAll values rest := rfl
    rw [hfill, Delimiters.parameter_braced.segments_slash, ih]
    rfl
  | case3 rest body after hbody _ ih =>
    have hfound := body?_fillAll hvalues rest
    rw [hbody] at hfound
    have hfill : fillAll values (.char '#' :: .char '{' :: rest) =
        '#' :: '{' :: fillAll values rest := rfl
    obtain ⟨hclosed, hsplit⟩ := Delimiters.parameter_braced.isBody_of_body? hfound
    rw [hfill, hsplit, Delimiters.parameter_braced.segments_body hclosed, ih]
    rfl
  | case4 rest hbody =>
    have hfound := body?_fillAll hvalues rest
    rw [hbody] at hfound
    exact Delimiters.parameter_braced.segments_unclosed hfound
  | case5 spot rest hslash hopen ih =>
    rw [fillAll_cons, map_fill_pushSpot hvalues, ← ih]
    cases spot with
    | char c =>
      have hplain : Delimiters.parameter.Plain c (fillAll values rest) := by
        refine Delimiters.parameter_braced.plain_iff.mpr ⟨?_, ?_⟩
        · rintro ⟨rfl, hhead⟩
          obtain ⟨text, htext⟩ := List.head?_eq_some_iff.mp hhead
          obtain ⟨more, rfl, -⟩ := exists_of_fillAll_eq_cons hvalues (by decide) htext
          exact hopen more rfl rfl
        · rintro ⟨rfl, text, htext⟩
          obtain ⟨more, rfl, hmore⟩ := exists_of_fillAll_eq_cons hvalues (by decide) htext
          obtain ⟨last, rfl, -⟩ := exists_of_fillAll_eq_cons hvalues (by decide) hmore
          exact hslash last rfl rfl
      exact Delimiters.parameter_braced.segments_char hplain
    | value number =>
      exact Delimiters.segments_append (fun c hc => ⟨(hvalues number).ne hc (by decide),
        (hvalues number).ne hc (by decide)⟩) _

end

end Outline

end SqlTemplate
