import SqlTemplate.Proofs.Expr.Parsing
import SqlTemplate.Proofs.Paths
import SqlTemplate.Proofs.Render.Caching
import SqlTemplate.Render.Basic

/-!
# Paths as expressions

A written path is an expression as well. Over an object alone the expression comes to what the path
finds. It comes to `null` where the path finds nothing, and to an error where the path goes on from
there.
-/

namespace SqlTemplate.Path

open SqlTemplate.Expr

namespace Piece

/-- The expression with a piece behind it. -/
def onto (target : Expr) : Piece → Expr
  | name word => .member target (String.ofList word)
  | position digits => .index target (.literal (.ofNat (Text.digitsValue 0 digits)))
  | quoted _ key => .index target (.literal (.str (String.ofList key)))

/-- The tokens of a piece. -/
def tokens : Piece → List Token
  | name word => [.symbol .dot, .word word]
  | position digits =>
    [.symbol .openBracket, .int (Text.digitsValue 0 digits), .symbol .closeBracket]
  | quoted _ key => [.symbol .openBracket, .str key, .symbol .closeBracket]

/-- What a piece comes to behind a value. -/
def read (target : Value) : Piece → Except EvaluationFault Value
  | name word => property target (String.ofList word)
  | position digits => itemAt target (.ofNat (Text.digitsValue 0 digits))
  | quoted _ key => itemAt target (.str (String.ofList key))

end Piece

/-- The expression that a path is written as. -/
def expression (root : Text) (pieces : List Piece) : Expr :=
  pieces.foldl Piece.onto (.var (String.ofList root))

section Parsing

/-- A symbol that is one in front of every character is read before whatever follows. -/
theorem readBefore_symbol {c : Char} {s : Symbol} (hblank : isBlank c = false)
    (h : ∀ rest, Token.lexeme c rest = .ok (.symbol s, rest)) :
    (Token.symbol s).ReadBefore (fun _ => True) [c] := ⟨c, [], rfl, hblank, fun rest _ => h rest⟩

/-- A dot is read before whatever follows. -/
theorem readBefore_dot : (Token.symbol .dot).ReadBefore (fun _ => True) ['.'] :=
  readBefore_symbol (by decide) fun rest => by cases rest <;> rfl

/-- An opening bracket is read before whatever follows. -/
theorem readBefore_openBracket : (Token.symbol .openBracket).ReadBefore (fun _ => True) ['['] :=
  readBefore_symbol (by decide) fun rest => by cases rest <;> rfl

/-- A closing bracket is read before whatever follows. -/
theorem readBefore_closeBracket : (Token.symbol .closeBracket).ReadBefore (fun _ => True) [']'] :=
  readBefore_symbol (by decide) fun rest => by cases rest <;> rfl

/-- A text without its quote and backslashes stands between quotes as it is. -/
theorem quoted_self {quote : Char} {key : Text} (hquote : quote ∉ key) (hslash : '\\' ∉ key) :
    Quoted quote key key := by
  induction key with
  | nil => exact .nil
  | cons c key ih =>
    obtain ⟨hc, hkey⟩ := List.ne_and_not_mem_of_not_mem_cons hquote
    obtain ⟨hplain, hrest⟩ := List.ne_and_not_mem_of_not_mem_cons hslash
    exact .plain hc.symm hplain.symm (ih hkey hrest)

/-- No word goes on with the pieces of a path. -/
theorem stops_word_of_pieces {pieces : List Piece} :
    ∀ c ∈ (pieces.flatMap Piece.text).head?, continuesWord c = false := by
  intro c hc
  rcases head?_pieces hc with rfl | rfl
  · decide
  · decide

/-- The tokens of the pieces are read one after the other. -/
theorem reads_pieces {pieces : List Piece} (h : ∀ piece ∈ pieces, piece.Plain) :
    Reads (pieces.flatMap Piece.text) (pieces.flatMap Piece.tokens) := by
  induction pieces with
  | nil => exact reads_nil
  | cons piece pieces ih =>
    obtain ⟨hpiece, hpieces⟩ := List.forall_mem_cons.mp h
    have hrest := ih hpieces
    rw [List.flatMap_cons, List.flatMap_cons]
    cases hpiece with
    | @name word hword hlength hsize =>
      exact readBefore_dot.reads (fun _ _ => trivial)
        ((Token.readBefore_word hword).reads stops_word_of_pieces hrest)
    | @position digits hne hdigits hbound =>
      have hlast := readBefore_closeBracket.reads (fun _ _ => trivial) hrest
      have hstop : ∀ c ∈ (']' :: pieces.flatMap Piece.text).head?, Token.EndsNumber c := by
        intro c hc
        obtain rfl := Option.mem_some.mp hc
        exact ⟨by decide, by decide, by decide⟩
      have hinside := (Token.readBefore_digits hne hdigits hbound).reads hstop hlast
      have hall := readBefore_openBracket.reads (fun _ _ => trivial) hinside
      simpa [Piece.text, Piece.tokens] using hall
    | @quoted quote key hquote hkey hslash =>
      have hlast := readBefore_closeBracket.reads (fun _ _ => trivial) hrest
      have hinside := (Token.readBefore_str hquote (quoted_self hkey hslash)).reads
        (fun _ _ => trivial) hlast
      have hall := readBefore_openBracket.reads (fun _ _ => trivial) hinside
      simpa [Piece.text, Piece.tokens] using hall

/-- The pieces are parsed one behind the other. -/
theorem parses_pieces (pieces : List Piece) {e : Expr} {kinds : List Token}
    (h : Parses 8 e kinds) :
    Parses 8 (pieces.foldl Piece.onto e) (kinds ++ pieces.flatMap Piece.tokens) := by
  induction pieces generalizing e kinds with
  | nil => simpa using h
  | cons piece pieces ih =>
    rw [List.foldl_cons, List.flatMap_cons, ← List.append_assoc]
    cases piece with
    | name word => exact ih (h.member word)
    | position digits => exact ih (h.index (parses_single (fun _ _ _ _ => rfl) 0))
    | quoted quote key => exact ih (h.index (parses_single (fun _ _ _ _ => rfl) 0))

/-- A path is parsed as the expression that it is written as. -/
theorem parse_eq_expression {root : Text} {pieces : List Piece} (hroot : isVariable root = true)
    (h : ∀ piece ∈ pieces, piece.Plain) :
    Expr.parse (written root pieces) = .ok (expression root pieces) := by
  have hword := (Bool.and_eq_true_iff.mp hroot).1
  have hvar : Parses 8 (.var (String.ofList root)) [.word root] :=
    parses_single (fun _ _ _ _ => operand_var hroot) 8
  exact parse_of_reads ((Token.readBefore_word hword).reads stops_word_of_pieces (reads_pieces h))
    ((parses_pieces pieces hvar).mono (Nat.zero_le 8))

end Parsing

section Evaluation

/-- A piece is evaluated behind what stands before it. -/
theorem eval_onto (piece : Piece) (bindings : Bindings) (e : Expr) :
    (piece.onto e).eval bindings = e.eval bindings >>= fun value => piece.read value := by
  cases piece with
  | name word => rw [Piece.onto, eval]; rfl
  | position digits => rw [Piece.onto, eval, eval]; rfl
  | quoted quote key => rw [Piece.onto, eval, eval]; rfl

/-- Behind an expression the pieces are evaluated one after the other. -/
theorem eval_pieces (pieces : List Piece) (bindings : Bindings) (e : Expr) :
    (pieces.foldl Piece.onto e).eval bindings =
      e.eval bindings >>= fun value => pieces.foldlM Piece.read value := by
  induction pieces generalizing e with
  | nil => exact (bind_pure _).symm
  | cons piece pieces ih =>
    rw [List.foldl_cons, ih, eval_onto, bind_assoc]
    rfl

/-- The digits of a number are its text. -/
theorem toSql_ofNat (n : ℕ) : String.ofList (Value.toSql (.ofNat n)) = toString n := by
  rfl

/-- No identifier is a number. -/
theorem toNatBelow?_of_isIdentifier {name : Text} (h : isIdentifier name = true) (bound : ℕ) :
    Text.toNatBelow? bound name = none := by
  cases name with
  | nil => cases h
  | cons c rest =>
    have hstart := (Bool.and_eq_true_iff.mp h).1
    have hplus : c ≠ '+' := by
      rintro rfl
      cases hstart
    simp [Text.toNatBelow?, Text.toNat?, hplus, isDigit_of_startsWord hstart]

/-- Nothing is read from `null`. -/
theorem Piece.read_null (piece : Piece) : ∃ fault, Piece.read .null piece = .error fault := by
  cases piece with
  | name word => exact ⟨_, rfl⟩
  | position digits => exact ⟨_, rfl⟩
  | quoted quote key => exact ⟨_, rfl⟩

/-- What is read from a value is what the step finds there, and `null` if that is nothing. If
nothing can be read nothing is found, unless a quoted key is applied to a list. -/
theorem Piece.Plain.read_cases {piece : Piece} (h : piece.Plain) (value : Value) :
    piece.read value = .ok ((value.step? piece.step).getD .null) ∨
      (∃ fault, piece.read value = .error fault) ∧ (value.step? piece.step = none ∨
        ∃ quote key items, piece = .quoted quote key ∧ value = .arr items) := by
  cases h with
  | @name word hword hlength hsize =>
    cases value with
    | obj fields => exact .inl rfl
    | arr items =>
      have hother (name : String) (hname : word ≠ name.toList) : String.ofList word ≠ name := by
        rintro rfl
        exact hname String.toList_ofList.symm
      have hread : Piece.read (.arr items) (.name word) =
          .error (.noProperty (String.ofList word) .list) := by
        rw [Piece.read, property, if_neg (by simp [hother _ hlength, hother _ hsize])]
      have hstep : Value.step? (.key (String.ofList word)) (.arr items) = none := by
        rw [Value.step?, String.toList_ofList, toNatBelow?_of_isIdentifier hword]
        rfl
      exact .inr ⟨⟨_, hread⟩, .inl hstep⟩
    | _ => exact .inr ⟨⟨_, rfl⟩, .inl rfl⟩
  | @position digits hne hdigits hbound =>
    cases value with
    | obj fields =>
      left
      rw [Piece.read, itemAt, toSql_ofNat]
      rfl
    | arr items =>
      left
      rw [Piece.read, Value.ofNat, itemAt, if_pos (Int.natCast_nonneg _)]
      rfl
    | _ => exact .inr ⟨⟨_, rfl⟩, .inl rfl⟩
  | @quoted quote key hquote hkey hslash =>
    cases value with
    | obj fields =>
      left
      rw [Piece.read, itemAt, Value.toSql, String.ofList_toList]
      rfl
    | arr items => exact .inr ⟨⟨_, rfl⟩, .inr ⟨quote, key, items, rfl, rfl⟩⟩
    | _ => exact .inr ⟨⟨_, rfl⟩, .inl rfl⟩

/-- What is read is what the step finds, or `null` where that is nothing. -/
theorem Piece.Plain.getD_step? {piece : Piece} (h : piece.Plain) {value next : Value}
    (hread : piece.read value = .ok next) : (value.step? piece.step).getD .null = next := by
  rcases h.read_cases value with hfound | ⟨⟨fault, hfault⟩, -⟩
  · exact Except.ok.inj (hfound.symm.trans hread)
  · rw [hfault] at hread
    cases hread

/-- What the pieces read one behind the other is what their steps find, or `null` where that is
nothing. -/
theorem getD_walk? {pieces : List Piece} (h : ∀ piece ∈ pieces, piece.Plain) {value last : Value}
    (hread : pieces.foldlM Piece.read value = .ok last) :
    (value.walk? (pieces.map Piece.step)).getD .null = last := by
  induction pieces generalizing value with
  | nil => exact Except.ok.inj hread
  | cons piece pieces ih =>
    obtain ⟨hpiece, hpieces⟩ := List.forall_mem_cons.mp h
    rw [List.foldlM_cons] at hread
    obtain ⟨next, hfirst, hrest⟩ := Results.bind_eq_ok.mp hread
    have hnext := hpiece.getD_step? hfirst
    rw [List.map_cons, walk?_cons]
    cases hstep : value.step? piece.step with
    | some found =>
      rw [hstep] at hnext
      obtain rfl := hnext
      exact ih hpieces hrest
    | none =>
      -- nothing can be read behind `null`, so this was the last piece
      rw [hstep] at hnext
      obtain rfl := hnext
      cases pieces with
      | nil => exact Except.ok.inj hrest
      | cons second pieces =>
        obtain ⟨fault, hfault⟩ := second.read_null
        rw [List.foldlM_cons, Option.getD_none, hfault] at hrest
        cases hrest

/-- What the steps find is what the pieces read, unless a quoted key is applied to a list. -/
theorem foldlM_read {pieces : List Piece} (h : ∀ piece ∈ pieces, piece.Plain) {value last : Value}
    (hwalk : value.walk? (pieces.map Piece.step) = some last)
    (hlist : ∀ before quote key after, pieces = before ++ .quoted quote key :: after →
      ∀ items, value.walk? (before.map Piece.step) ≠ some (.arr items)) :
    pieces.foldlM Piece.read value = .ok last := by
  induction pieces generalizing value with
  | nil => exact congrArg Except.ok (Option.some.inj hwalk)
  | cons piece pieces ih =>
    obtain ⟨hpiece, hpieces⟩ := List.forall_mem_cons.mp h
    rw [List.map_cons, walk?_cons] at hwalk
    obtain ⟨next, hstep, hrest⟩ := Option.bind_eq_some_iff.mp hwalk
    have hfirst : piece.read value = .ok next := by
      rcases hpiece.read_cases value with hfound | ⟨-, hnone | ⟨quote, key, items, rfl, rfl⟩⟩
      · rw [hfound, hstep]
        rfl
      · rw [hstep] at hnone
        cases hnone
      · exact absurd rfl (hlist [] quote key pieces rfl items)
    have hlater := ih hpieces hrest fun before quote key after heq items hbefore => by
      refine hlist (piece :: before) quote key after (by rw [heq, List.cons_append]) items ?_
      rw [List.map_cons, walk?_cons, hstep]
      exact hbefore
    rw [List.foldlM_cons, hfirst]
    exact hlater

/-- The name at the start of a path is read from the object as others are. -/
theorem lookup_eq_read (fields : Fields) (root : Text) :
    lookup (.ofParameter (.obj fields)) (String.ofList root) =
      Piece.read (.obj fields) (.name root) := by
  have hget : (Bindings.ofParameter (.obj fields)).get? (String.ofList root) =
      Fields.get? fields (String.ofList root) := rfl
  rw [lookup, hget, Piece.read, property]
  cases Fields.get? fields (String.ofList root) with
  | some value => rfl
  | none => rfl

/-- What a path comes to over an object alone. -/
theorem meaning_written {fields : Fields} {root : Text} {pieces : List Piece}
    (hroot : isVariable root = true) (h : ∀ piece ∈ pieces, piece.Plain) (value : Value) :
    Evaluator.meaning (written root pieces) (.ofParameter (.obj fields)) = .ok value ↔
      (Piece.name root :: pieces).foldlM Piece.read (.obj fields) = .ok value := by
  have heval : (expression root pieces).eval (.ofParameter (.obj fields)) =
      (Piece.name root :: pieces).foldlM Piece.read (.obj fields) := by
    rw [expression, eval_pieces, eval, lookup_eq_read, List.foldlM_cons]
  rw [Evaluator.meaning_eq_ok (parse_eq_expression hroot h), heval]

end Evaluation

/-- The accessor goes along the steps of a path. -/
theorem get?_written {root : Text} {pieces : List Piece} (hroot : isIdentifier root = true)
    (h : ∀ piece ∈ pieces, piece.Plain) (value : Value) :
    Accessor.byPath.get? value (written root pieces) = .ok (value.walk? (steps root pieces)) := by
  change (parse (written root pieces)).map _ = _
  rw [parse_written hroot h]
  rfl

/-- No quoted key is applied to a list on the way along the path. -/
def KeysFields (value : Value) (root : Text) (pieces : List Piece) : Prop :=
  ∀ before quote key after, pieces = before ++ .quoted quote key :: after →
    ∀ items, value.walk? (steps root before) ≠ some (.arr items)

/-- Over an object alone a path and the expression that it is written as agree for the standard
evaluator. The accessor always answers. Where the expression comes to a value but `null`, it finds
that value. Where the expression comes to `null`, it finds nothing or `null`. And the expression
comes to what it finds, unless a quoted key is applied to a list on the way. -/
theorem evaluate_path {fields : Fields} {root : Text} {pieces : List Piece}
    (hroot : isVariable root = true) (h : ∀ piece ∈ Piece.name root :: pieces, piece.Plain)
    {s : RenderState} (hevaluator : s.evaluator = .standard)
    (hbindings : s.bindings = .ofParameter (.obj fields)) (hcache : s.memory.cache.Faithful) :
    let path := written root pieces
    let evaluated := (Render.evaluate path s).result
    ∃ found, Accessor.byPath.get? (.obj fields) path = .ok found ∧
      (∀ value, evaluated = .ok value → value ≠ .null → found = some value) ∧
      (evaluated = .ok .null → found = none ∨ found = some .null) ∧
      (∀ value, found = some value → KeysFields (.obj fields) root pieces →
        evaluated = .ok value) := by
  intro path evaluated
  have hpieces : ∀ piece ∈ pieces, piece.Plain := fun piece hpiece =>
    h piece (List.mem_cons_of_mem _ hpiece)
  have hresult : evaluated = Evaluator.meaning path (.ofParameter (.obj fields)) := by
    rw [← hbindings, ← (Evaluator.settles_value path s.bindings _ hcache).1, ← hevaluator]
    rfl
  have hread (value : Value) (hvalue : evaluated = .ok value) :
      (Value.walk? (steps root pieces) (.obj fields)).getD .null = value :=
    getD_walk? h ((meaning_written hroot hpieces value).mp (hresult.symm.trans hvalue))
  have hget := get?_written (Bool.and_eq_true_iff.mp hroot).1 hpieces (.obj fields)
  refine ⟨_, hget, fun value hvalue hne => ?_, fun hnull => ?_, fun value hfound hkeys => ?_⟩
  · have hvalue := hread value hvalue
    cases hfound : Value.walk? (steps root pieces) (.obj fields) with
    | none =>
      rw [hfound] at hvalue
      exact absurd hvalue.symm hne
    | some found =>
      rw [hfound] at hvalue
      exact congrArg some hvalue
  · have hvalue := hread .null hnull
    cases hfound : Value.walk? (steps root pieces) (.obj fields) with
    | none => exact .inl rfl
    | some found =>
      rw [hfound] at hvalue
      exact .inr (congrArg some hvalue)
  · rw [hresult]
    refine (meaning_written hroot hpieces value).mpr (foldlM_read h hfound ?_)
    intro before quote key after heq items
    -- the first piece is a name, so a quoted key stands behind it
    cases before with
    | nil => cases (List.cons.inj heq).1
    | cons first before =>
      obtain ⟨rfl, hrest⟩ := List.cons.inj heq
      exact hkeys before quote key after hrest items

/-- The second of some orders has a price under a key with a space. -/
theorem evaluate_path_to_price :
    let fields : Fields := [("orders", .arr [.null, .obj [("unit price", .ofNat 5)]])]
    let root : Text := "orders".toList
    let pieces : List Piece := [.position ['0', '1'], .quoted '\'' "unit price".toList]
    let s : RenderState :=
      { bindings := .ofParameter (.obj fields), memory := { cache := .empty 8 } }
    written root pieces = "orders[01]['unit price']".toList ∧
      (Render.evaluate (written root pieces) s).result = .ok (.ofNat 5) := by
  intro fields root pieces s
  have hpieces : ∀ piece ∈ pieces, piece.Plain := by
    intro piece h
    rcases List.mem_pair.mp h with rfl | rfl
    · exact .position (by decide) (List.all_eq_true.mp (by decide)) (by decide)
    · exact .quoted (.inl rfl) (by decide) (by decide)
  have hroot : (Piece.name root).Plain := .name (by decide) (by decide) (by decide)
  have hfields : KeysFields (.obj fields) root pieces := by
    intro before quote key after heq items hwalk
    cases before with
    | nil => cases (List.cons.inj heq).1
    | cons first before =>
      obtain ⟨rfl, hrest⟩ := List.cons.inj heq
      cases before with
      | nil => cases hwalk
      | cons second before => simp at hrest
  obtain ⟨found, hget, -, -, hcomes⟩ := evaluate_path (by decide : isVariable root = true)
    (List.forall_mem_cons.mpr ⟨hroot, hpieces⟩) (rfl : s.evaluator = .standard)
    (rfl : s.bindings = .ofParameter (.obj fields)) (Expr.Cache.faithful_empty 8)
  have hwalk := (get?_written (by decide) hpieces (.obj fields)).symm.trans hget
  exact ⟨by decide, hcomes _ (Except.ok.inj hwalk).symm hfields⟩

end SqlTemplate.Path
