import SqlTemplate.Proofs.Expr.Extending
import SqlTemplate.Proofs.Expr.Tokens

/-!
# Parsing what is written

The parser reads from a text the expression that is written there: the tokens are read first, and
the expression from them by induction on its form.
-/

namespace SqlTemplate.Expr

/-- What holds of an expression whenever it holds of the expressions directly below it holds of all
expressions. -/
theorem inductionOn {motive : Expr → Prop} (literal : ∀ value, motive (.literal value))
    (var : ∀ name, motive (.var name))
    (member : ∀ target name, motive target → motive (.member target name))
    (index : ∀ target position, motive target → motive position → motive (.index target position))
    (call : ∀ target method args, motive target → (∀ arg ∈ args, motive arg) →
      motive (.call target method args))
    (list : ∀ items, (∀ item ∈ items, motive item) → motive (.list items))
    (unary : ∀ op operand, motive operand → motive (.unary op operand))
    (binary : ∀ op left right, motive left → motive right → motive (.binary op left right))
    (e : Expr) : motive e := by
  refine @Expr.rec motive (fun items => ∀ item ∈ items, motive item)
    literal var member index call list unary binary ?_ ?_ e
  · intro item hitem
    cases hitem
  · intro first rest hfirst hrest
    exact List.forall_mem_cons.mpr ⟨hfirst, hrest⟩

variable {row least stop steps position : ℕ} {e : Expr} {kinds : List Token} {token : Token}
  {ts rest : Tokens}

/-- An expression starts with a token, which closes nothing. -/
theorem Parses.exists_cons (h : Parses 0 e kinds) :
    ∃ token others, kinds = token :: others ∧ token ≠ .symbol .closeParen ∧
      token ≠ .symbol .closeBrace := by
  let ts : Tokens := kinds.map fun token => (token, 0)
  have hkinds : ts.map Prod.fst = kinds := List.map_map.trans (List.map_id kinds)
  have hparse : expression 0 (4 * ts.length + 2) 0 (ts ++ []) = .ok (e, []) :=
    h.expression_eq hkinds (Nat.le_refl 0) (Nat.zero_le 8) (final_nil 0) (by omega)
  cases hts : kinds with
  | nil =>
    simp only [ts, hts] at hparse
    cases hparse
  | cons token others =>
    simp only [ts, hts] at hparse
    refine ⟨token, others, rfl, ?_, ?_⟩
    · rintro rfl
      cases hparse
    · rintro rfl
      cases hparse

section Items

variable {close : Symbol} {es : List Expr} {pieces : List (List Token)}

/-- Expressions between commas are parsed up to the closing symbol, if there are any. -/
theorem someItems_eq (hclose : close = .closeParen ∨ close = .closeBrace)
    (h : List.Forall₂ (Parses 0) es pieces) (hne : es ≠ [])
    (hkinds : ts.map Prod.fst = [.symbol .comma].intercalate pieces)
    (hsteps : 4 * ts.length + 1 < steps) :
    someItems stop steps close (ts ++ (.symbol close, position) :: rest) = .ok (es, rest) := by
  induction h generalizing ts steps with
  | nil => exact absurd rfl hne
  | @cons e piece es pieces he hrest ih =>
    obtain ⟨more, rfl⟩ : ∃ more, steps = more + 1 := ⟨steps - 1, by omega⟩
    cases pieces with
    | nil =>
      cases hrest
      rw [List.intercalate_singleton] at hkinds
      have htight : (Token.symbol close).tightness = 0 := by
        rcases hclose with rfl | rfl <;> rfl
      have hitem : expression stop more 0 (ts ++ (.symbol close, position) :: rest) =
          .ok (e, (.symbol close, position) :: rest) :=
        he.expression_eq hkinds (Nat.le_refl 0) (Nat.zero_le 8) (final_cons htight 0 position rest)
          (by omega)
      rw [someItems, hitem]
      rcases hclose with rfl | rfl <;> rfl
    | cons second pieces =>
      rw [List.intercalate_cons_cons, List.append_assoc, List.singleton_append] at hkinds
      obtain ⟨us, place, vs, rfl, hus, hvs⟩ := exists_split hkinds
      simp only [List.length_cons, List.length_append] at hsteps
      have hitem : expression stop more 0
          (us ++ (.symbol .comma, place) :: (vs ++ (.symbol close, position) :: rest)) =
            .ok (e, (.symbol .comma, place) :: (vs ++ (.symbol close, position) :: rest)) :=
        he.expression_eq hus (Nat.le_refl 0) (Nat.zero_le 8) (final_cons rfl 0 place _) (by omega)
      have hlater : es ≠ [] := by
        rintro rfl
        cases hrest
      have hothers : someItems stop more close (vs ++ (.symbol close, position) :: rest) =
          .ok (es, rest) := ih hlater hvs (by omega)
      rw [List.append_assoc, List.cons_append, someItems, hitem]
      change (someItems stop more close _).bind _ = _
      rw [hothers]
      rfl

/-- Unless the closing symbol comes first there is an expression. -/
theorem items_of_ne (h : token ≠ .symbol close) :
    items stop (steps + 1) close ((token, position) :: ts) =
      someItems stop steps close ((token, position) :: ts) := by
  cases token with
  | symbol s =>
    have hs : s ≠ close := by
      rintro rfl
      exact h rfl
    exact if_neg hs
  | _ => rfl

/-- Expressions between commas are parsed up to the closing symbol. -/
theorem items_eq (hclose : close = .closeParen ∨ close = .closeBrace)
    (h : List.Forall₂ (Parses 0) es pieces)
    (hkinds : ts.map Prod.fst = [.symbol .comma].intercalate pieces)
    (hsteps : 4 * ts.length + 2 < steps) :
    items stop steps close (ts ++ (.symbol close, position) :: rest) = .ok (es, rest) := by
  obtain ⟨more, rfl⟩ : ∃ more, steps = more + 1 := ⟨steps - 1, by omega⟩
  cases h with
  | nil =>
    obtain rfl := List.map_eq_nil_iff.mp hkinds
    exact if_pos rfl
  | @cons e piece es pieces he hrest =>
    -- the first token is one of an expression, so it is not the closing symbol
    obtain ⟨token, others, rfl, hparen, hbrace⟩ := he.exists_cons
    have hother : token ≠ .symbol close := by
      rcases hclose with rfl | rfl
      · exact hparen
      · exact hbrace
    have hsome : someItems stop more close (ts ++ (.symbol close, position) :: rest) =
        .ok (e :: es, rest) :=
      someItems_eq hclose (.cons he hrest) (List.cons_ne_nil e es) hkinds (by omega)
    obtain ⟨behind, hbehind⟩ :
        ∃ behind, [Token.symbol .comma].intercalate ((token :: others) :: pieces) =
          token :: behind := by
      cases pieces with
      | nil => exact ⟨others, List.intercalate_singleton⟩
      | cons second pieces => exact ⟨_, List.intercalate_cons_cons⟩
    rw [hbehind] at hkinds
    obtain ⟨⟨token, place⟩, later, rfl, rfl, -⟩ := List.map_eq_cons_iff.mp hkinds
    rw [List.cons_append] at hsome ⊢
    rw [items_of_ne hother, hsome]

/-- A call of a method behind an expression. -/
theorem Parses.call (h : Parses 8 e kinds) (method : Text)
    (hargs : List.Forall₂ (Parses 0) es pieces) :
    Parses 8 (.call e (String.ofList method) es)
      (kinds ++ .symbol .dot :: .word method :: .symbol .openParen ::
        ([.symbol .comma].intercalate pieces ++ [.symbol .closeParen])) := by
  refine h.extended (by decide) fun stop least steps position vs rest hvs _ _ hsteps => ?_
  obtain ⟨⟨_, place⟩, behind, rfl, rfl, hbehind⟩ := List.map_eq_cons_iff.mp hvs
  obtain ⟨⟨_, opening⟩, inside, rfl, rfl, hinside⟩ := List.map_eq_cons_iff.mp hbehind
  obtain ⟨us, closing, rfl, hus⟩ := exists_last hinside
  simp only [List.length_cons, List.length_append, List.length_nil] at hsteps
  have hitems : items stop steps .closeParen (us ++ (.symbol .closeParen, closing) :: rest) =
      .ok (es, rest) := items_eq (.inl rfl) hargs hus (by omega)
  simp only [List.append_assoc, List.cons_append, List.nil_append]
  rw [extend]
  change (items stop steps .closeParen _).bind _ = _
  rw [hitems]
  rfl

/-- A list in braces. -/
theorem parses_list (h : List.Forall₂ (Parses 0) es pieces) (row : ℕ) :
    Parses row (.list es)
      (.symbol .openBrace :: ([.symbol .comma].intercalate pieces ++ [.symbol .closeBrace])) := by
  refine parses_of_operand fun stop steps position vs rest hvs _ hsteps => ?_
  obtain ⟨us, closing, rfl, hus⟩ := exists_last hvs
  rw [List.length_append, List.length_singleton] at hsteps
  have hitems : items stop steps .closeBrace (us ++ (.symbol .closeBrace, closing) :: rest) =
      .ok (es, rest) := items_eq (.inr rfl) h hus (by omega)
  rw [List.append_assoc, List.singleton_append, operand, hitems]
  rfl

end Items

/-- The name of a variable is no literal and no operator. -/
theorem operand_var {name : Text} (h : isVariable name = true) :
    operand stop (steps + 1) ((.word name, position) :: rest) =
      .ok (.var (String.ofList name), rest) := by
  have hreserved : name ∉ reserved := by
    have hnot := (Bool.and_eq_true_iff.mp h).2
    simpa using hnot
  have hne (word : Text) (hword : word ∈ reserved) : name ≠ word := by
    rintro rfl
    exact hreserved hword
  rw [operand, if_neg (hne _ (by decide)), if_neg (hne _ (by decide)), if_neg (hne _ (by decide)),
    if_neg (hne _ (by decide))]

/-- What is written is parsed wherever it is asked for, if it is in its own row. -/
theorem parses_of_written (h : ∀ row kinds, Bare row e kinds → Parses row e kinds)
    (hwritten : Written least e kinds) : Parses least e kinds := by
  cases hwritten with
  | bare hrow hbare => exact (h _ _ hbare).mono hrow
  | enclosed hrow hbare => exact (h _ _ hbare).enclosed least

/-- So are expressions between commas. -/
theorem parses_items {items : List Expr} {pieces : List (List Token)}
    (h : ∀ item ∈ items, ∀ row kinds, Bare row item kinds → Parses row item kinds)
    (hwritten : List.Forall₂ (Written 0) items pieces) : List.Forall₂ (Parses 0) items pieces :=
  ((List.forall₂_and_left items pieces).mpr ⟨h, hwritten⟩).imp fun _ _ hitem =>
    parses_of_written hitem.1 hitem.2

/-- On the tokens that an expression is written with, the parser comes to extend it. -/
theorem parses_of_bare (h : Bare row e kinds) : Parses row e kinds := by
  induction e using Expr.inductionOn generalizing row kinds with
  | literal value =>
    cases h with
    | null => exact parses_single (fun _ _ _ _ => rfl) 8
    | yes => exact parses_single (fun _ _ _ _ => rfl) 8
    | no => exact parses_single (fun _ _ _ _ => rfl) 8
    | int => exact parses_single (fun _ _ _ _ => rfl) 8
    | str s =>
      refine parses_single (fun _ _ _ _ => ?_) 8
      rw [operand, String.ofList_toList]
  | var name =>
    cases h with
    | var hname =>
      refine parses_single (fun _ _ _ _ => ?_) 8
      rw [operand_var hname, String.ofList_toList]
  | member target name ih =>
    cases h with
    | member htarget hname =>
      have hparse := (parses_of_written (fun _ _ => ih) htarget).member name.toList
      rwa [String.ofList_toList] at hparse
  | index target position ih ihposition =>
    cases h with
    | index htarget hposition =>
      exact (parses_of_written (fun _ _ => ih) htarget).index
        (parses_of_written (fun _ _ => ihposition) hposition)
  | call target method args ih ihargs =>
    cases h with
    | call htarget hmethod hargs =>
      have hitems := parses_items (fun arg harg _ _ => ihargs arg harg) hargs
      have hparse := (parses_of_written (fun _ _ => ih) htarget).call method.toList hitems
      rwa [String.ofList_toList] at hparse
  | list items ih =>
    cases h with
    | list hitems => exact parses_list (parses_items (fun item hitem _ _ => ih item hitem) hitems) 8
  | unary op inner ih =>
    cases h with
    | unary hop hinner => exact (parses_of_written (fun _ _ => ih) hinner).unary hop
  | binary op left right ihleft ihright =>
    cases h with
    | binary hop hleft hright =>
      exact .binary hop (parses_of_written (fun _ _ => ihleft) hleft)
        (parses_of_written (fun _ _ => ihright) hright)

/-- A text from which the tokens of an expression are read is parsed to that expression. -/
theorem parse_of_reads {text : Text} (hreads : Reads text kinds) (h : Parses 0 e kinds) :
    parse text = .ok e := by
  obtain ⟨ts, hts, hkinds⟩ := hreads 0
  have hexpression (stop : ℕ) : expression stop (4 * ts.length + 4) 0 ts = .ok (e, []) := by
    have hall : expression stop (4 * ts.length + 4) 0 (ts ++ []) = .ok (e, []) :=
      h.expression_eq hkinds (Nat.le_refl 0) (Nat.zero_le 8) (final_nil 0) (by omega)
    rwa [List.append_nil] at hall
  rw [parse, tokens, hts, Except.bind, ofTokens, hexpression]
  rfl

/-- A text that an expression is written as is parsed to that expression. -/
theorem parse_of_writtenAs {text : Text} (h : e.WrittenAs text) : parse text = .ok e := by
  obtain ⟨pieces, kinds, hwritten, hspelled, rfl⟩ := h
  exact parse_of_reads (reads_intercalate hspelled)
    (parses_of_written (fun _ _ => parses_of_bare) hwritten)

/-- The parser follows the table. Every expression with whole numbers that are not too large and
with identifiers for names can be written as a text, with the parentheses that the table asks for
and no others, and from every such text the same expression is parsed. -/
theorem parse_eq_of_written (e : Expr) (h : e.Printable) :
    (∃ text, e.WrittenAs text) ∧ ∀ text, e.WrittenAs text → parse text = .ok e :=
  ⟨h.exists_writtenAs, fun _ => parse_of_writtenAs⟩

/-- Operators of most rows, some of them written as words, with a sum in parentheses, a string with
an escape, and variables and a property that are named like operators or literals. -/
theorem parse_eq_of_nested :
    let sum : Expr := .binary .add (.var "a") (.var "b")
    let call : Expr := .call sum "size" [.var "x", .literal (.str "it's")]
    let product : Expr := .binary .mul (.unary .neg call) (.literal (.ofNat 2))
    let first : Expr := .index (.list []) (.literal (.ofNat 0))
    let property : Expr := .unary .not (.member (.var "or") "null")
    let e : Expr := .binary .or (.binary .and (.binary .le product first) property) (.var "$eq")
    let text : Text := ("- ( a + b ) . size ( x , 'it\\'s' ) * 2 lte \x7b \x7d [ 0 ] " ++
      "and not or . null || $eq").toList
    e.Printable ∧ e.WrittenAs text ∧ parse text = .ok e := by
  intro sum call product first property e text
  have hprintable : e.Printable := by
    have hcall : call.Printable := .call (.binary (.var (by decide)) (.var (by decide))) (by decide)
      (List.forall_mem_cons.mpr ⟨.var (by decide), List.forall_mem_singleton.mpr (.str _)⟩)
    exact .binary (.binary (.binary (.binary (.unary hcall) (.int (by decide)))
        (.index (.list nofun) (.int (by decide))))
      (.unary (.member (.var (by decide)) (by decide)))) (.var (by decide))
  have hplus : BinaryOp.add.Spelled 5 (.symbol .plus) := by simp [BinaryOp.Spelled, BinaryOp.table]
  have htimes : BinaryOp.mul.Spelled 6 (.symbol .times) := by
    simp [BinaryOp.Spelled, BinaryOp.table]
  have hle : BinaryOp.le.Spelled 4 (.word "lte".toList) := by
    simp [BinaryOp.Spelled, BinaryOp.table]
  have hand : BinaryOp.and.Spelled 2 (.word "and".toList) := by
    simp [BinaryOp.Spelled, BinaryOp.table]
  have hor : BinaryOp.or.Spelled 1 (.symbol .or) := by simp [BinaryOp.Spelled, BinaryOp.table]
  have hminus : Token.symbol .minus ∈ UnaryOp.neg.spellings := List.mem_cons_self
  have hnot : Token.word "not".toList ∈ UnaryOp.not.spellings :=
    List.mem_cons_of_mem _ List.mem_cons_self
  have hvar {name : String} (h : isVariable name.toList = true) {row : ℕ} (hrow : row ≤ 8) :
      Written row (.var name) [.word name.toList] := .bare hrow (.var h)
  have hsum := Bare.binary hplus (hvar (by decide : isVariable "a".toList = true) (by decide))
    (hvar (by decide : isVariable "b".toList = true) (by decide))
  have hcall : Written 7 call _ := .bare (by decide) (.call (.enclosed (by decide) hsum) (by decide)
    (.cons (hvar (by decide) (by decide)) (.cons (.bare (by decide) (.str "it's")) .nil)))
  have hproduct : Written 4 product _ := .bare (by decide) (.binary htimes
    (.bare (by decide) (.unary hminus hcall)) (.bare (by decide) (.int (by decide))))
  have hfirst : Written 5 first _ := .bare (by decide) (.index (.bare (by decide) (.list .nil))
    (.bare (by decide) (.int (by decide))))
  have hproperty : Written 3 property _ := .bare (by decide) (.unary hnot (.bare (by decide)
    (.member (hvar (by decide) (by decide)) (by decide))))
  have he : Written 0 e _ := .bare (by decide) (.binary hor (.bare (by decide) (.binary hand
    (.bare (by decide) (.binary hle hproduct hfirst)) hproperty)) (hvar (by decide) (by decide)))
  have hquoted : Quoted '\'' "it's".toList "it\\'s".toList :=
    .plain (by decide) (by decide) (.plain (by decide) (by decide)
      (.escaped (by decide) (by decide) (.plain (by decide) (by decide) .nil)))
  let pieces : List Text := (["-", "(", "a", "+", "b", ")", ".", "size", "(", "x", ",",
    "'it\\'s'", ")", "*", "2", "lte", "\x7b", "\x7d", "[", "0", "]", "and", "not", "or", ".",
    "null", "||", "$eq"].map String.toList)
  have hword {name : Text} (h : isIdentifier name = true) : Token.Spelled name (.word name) :=
    .word h
  have hspelled : List.Forall₂ Token.Spelled pieces _ :=
    .cons (.symbol .minus) <| .cons (.symbol .openParen) <| .cons (hword (by decide)) <|
    .cons (.symbol .plus) <| .cons (hword (by decide)) <| .cons (.symbol .closeParen) <|
    .cons (.symbol .dot) <| .cons (hword (by decide)) <| .cons (.symbol .openParen) <|
    .cons (hword (by decide)) <| .cons (.symbol .comma) <| .cons (.str (.inl rfl) hquoted) <|
    .cons (.symbol .closeParen) <| .cons (.symbol .times) <| .cons (.int (n := 2) (by decide)) <|
    .cons (hword (by decide)) <| .cons (.symbol .openBrace) <| .cons (.symbol .closeBrace) <|
    .cons (.symbol .openBracket) <| .cons (.int (n := 0) (by decide)) <|
    .cons (.symbol .closeBracket) <| .cons (hword (by decide)) <| .cons (hword (by decide)) <|
    .cons (hword (by decide)) <| .cons (.symbol .dot) <| .cons (hword (by decide)) <|
    .cons (.symbol .or) <| .cons (hword (by decide)) .nil
  have hwritten : e.WrittenAs text := ⟨pieces, _, he, hspelled, by decide⟩
  exact ⟨hprintable, hwritten, (parse_eq_of_written e hprintable).2 text hwritten⟩

end SqlTemplate.Expr
