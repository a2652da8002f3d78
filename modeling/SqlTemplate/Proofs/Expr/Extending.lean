import SqlTemplate.Proofs.Expr.Written

/-!
# What the parser does with an expression

On the tokens of an expression the parser comes to extend that expression with the tokens behind
them, as long as these bind no tighter than the row that the expression is asked for. This holds of
every form of expressions if it holds of the expressions in it.
-/

namespace SqlTemplate.Expr

/-- How tightly a token binds to an expression before it: an operator by its precedence, properties
and positions tighter than all of them. A parenthesis behind a property makes a call of it. -/
def Token.tightness (token : Token) : ℕ :=
  match token with
  | .symbol .openParen => 9
  | .symbol .dot => 8
  | .symbol .openBracket => 8
  | token =>
    match BinaryOp.ofToken? token with
    | some op => op.level
    | none => 0

/-- The tokens that are left bind no tighter than a row. -/
def Loose (row : ℕ) (rest : Tokens) : Prop := ∀ t ∈ rest.head?, t.1.tightness ≤ row

/-- On the tokens of an expression, with others behind them, the parser comes to extend that
expression. Four steps for each token are enough. -/
def Parses (row : ℕ) (e : Expr) (kinds : List Token) : Prop :=
  ∀ (stop least steps : ℕ) (ts rest : Tokens), ts.map Prod.fst = kinds → least ≤ row →
    Loose row rest → 4 * ts.length ≤ steps →
    ∃ left, steps ≤ left + 4 * ts.length ∧
      expression stop steps least (ts ++ rest) = extend stop left least e rest

variable {row least stop steps position : ℕ} {e : Expr} {kinds others : List Token}
  {token : Token} {ts rest : Tokens}

/-- The precedences of operators between operands are the first six. -/
theorem BinaryOp.level_bounds (op : BinaryOp) : 0 < op.level ∧ op.level ≤ 6 := by
  cases op <;> decide

/-- The parser knows the operators of the table, with the same precedence. -/
theorem BinaryOp.table_agrees :
    table.zipIdx.all (fun (ops, i) => ops.all fun (op, spellings) => spellings.all fun token =>
      ofToken? token == some op && op.level == i + 1) = true := by
  decide

/-- A token that stands for an operator is one for the parser too, in the same row. -/
theorem BinaryOp.Spelled.ofToken? {op : BinaryOp} (h : op.Spelled row token) :
    BinaryOp.ofToken? token = some op ∧ op.level = row := by
  obtain ⟨ops, hops, spellings, hop, htoken, hrow⟩ := h
  have hplace : (ops, row - 1) ∈ table.zipIdx := List.mk_mem_zipIdx_iff_getElem?.mpr hops
  have hall := List.all_eq_true.mp (List.all_eq_true.mp
    (List.all_eq_true.mp table_agrees _ hplace) _ hop) _ htoken
  simp only [Bool.and_eq_true, beq_iff_eq] at hall
  exact ⟨hall.1, by omega⟩

/-- An operator binds as tightly as its precedence says. -/
theorem tightness_of_ofToken? {op : BinaryOp} (h : BinaryOp.ofToken? token = some op) :
    token.tightness = op.level := by
  unfold Token.tightness
  split
  · cases h
  · cases h
  · cases h
  · rw [h]

/-- No token behind an expression binds as tightly as an operator before it. -/
theorem Token.tightness_ne_seven (token : Token) : token.tightness ≠ 7 := by
  unfold tightness
  split
  · decide
  · decide
  · decide
  · split
    · next op _ =>
      have := op.level_bounds
      omega
    · decide

/-- An expression is extended by an operator that binds tightly enough, and by what follows it. -/
theorem extend_operator {op : BinaryOp} (h : BinaryOp.ofToken? token = some op)
    (hleast : least ≤ op.level) (left : Expr) :
    extend stop (steps + 1) least left ((token, position) :: ts) =
      (expression stop steps (op.level + 1) ts).bind fun (right, ts) =>
        extend stop steps least (.binary op left right) ts := by
  rw [extend.eq_def]
  dsimp only
  split
  · cases h
  · cases h
  · rw [h]
    exact if_neg (by omega)

/-- What is left starts with a token that binds no tighter than a row. -/
theorem loose_cons (h : token.tightness ≤ row) (position : ℕ) (rest : Tokens) :
    Loose row ((token, position) :: rest) := by
  intro t ht
  obtain rfl := Option.mem_some.mp ht
  exact h

/-- The tokens that are left do not go on with an expression in whose place one of at least the row
`least` is asked for. -/
def Final (least : ℕ) (rest : Tokens) : Prop :=
  ∀ t ∈ rest.head?, t.1.tightness = 0 ∨ t.1.tightness < least

/-- Nothing is left. -/
theorem final_nil (least : ℕ) : Final least [] := nofun

/-- What is left starts with a token that binds to nothing before it. -/
theorem final_cons (h : token.tightness = 0) (least position : ℕ) (rest : Tokens) :
    Final least ((token, position) :: rest) := by
  intro t ht
  obtain rfl := Option.mem_some.mp ht
  exact .inl h

/-- Where nothing goes on with it the expression is complete. -/
theorem extend_of_final (hleast : least ≤ 8) (h : Final least rest) (hsteps : 0 < steps) :
    extend stop steps least e rest = .ok (e, rest) := by
  obtain ⟨more, rfl⟩ : ∃ more, steps = more + 1 := ⟨steps - 1, by omega⟩
  rw [extend.eq_def]
  cases rest with
  | nil => rfl
  | cons t rest =>
    obtain ⟨token, position⟩ := t
    have htight := h _ rfl
    dsimp only at htight ⊢
    split
    · simp only [Token.tightness] at htight
      omega
    · simp only [Token.tightness] at htight
      omega
    · cases hop : BinaryOp.ofToken? token with
      | none => rfl
      | some op =>
        have := op.level_bounds
        rw [tightness_of_ofToken? hop] at htight
        exact if_pos (by omega)

/-- An expression is parsed up to what does not go on with it. -/
theorem Parses.expression_eq (h : Parses row e kinds) (hkinds : ts.map Prod.fst = kinds)
    (hrow : least ≤ row) (hleast : least ≤ 8) (hfinal : Final least rest)
    (hsteps : 4 * ts.length < steps) :
    expression stop steps least (ts ++ rest) = .ok (e, rest) := by
  have hloose : Loose row rest := by
    intro t ht
    have := hfinal t ht
    omega
  obtain ⟨left, hleft, hparse⟩ := h stop least steps ts rest hkinds hrow hloose (by omega)
  rw [hparse]
  exact extend_of_final hleast hfinal (by omega)

/-- What parses in a row parses in the rows above it. -/
theorem Parses.mono (h : Parses row e kinds) (hrow : least ≤ row) : Parses least e kinds := by
  intro stop lowest steps ts rest hkinds hlowest hloose hsteps
  refine h stop lowest steps ts rest hkinds (by omega) (fun t ht => ?_) hsteps
  have := hloose t ht
  omega

/-- An operand is extended by what is behind it. -/
theorem expression_of_operand {e : Expr} {after : Tokens}
    (h : operand stop steps ts = .ok (e, after)) :
    expression stop (steps + 1) least ts = extend stop steps least e after := by
  rw [Expr.expression, h]
  rfl

/-- Tokens with their positions are split where the tokens are. -/
theorem exists_split (h : ts.map Prod.fst = kinds ++ token :: others) :
    ∃ us position vs, ts = us ++ (token, position) :: vs ∧ us.map Prod.fst = kinds ∧
      vs.map Prod.fst = others := by
  obtain ⟨us, later, rfl, hus, hlater⟩ := List.map_eq_append_iff.mp h
  obtain ⟨⟨_, position⟩, vs, rfl, rfl, hvs⟩ := List.map_eq_cons_iff.mp hlater
  exact ⟨us, position, vs, rfl, hus, hvs⟩

/-- Tokens with their positions before the last one. -/
theorem exists_last (h : ts.map Prod.fst = kinds ++ [token]) :
    ∃ us position, ts = us ++ [(token, position)] ∧ us.map Prod.fst = kinds := by
  obtain ⟨us, position, vs, rfl, hus, hvs⟩ := exists_split h
  obtain rfl := List.map_eq_nil_iff.mp hvs
  exact ⟨us, position, rfl, hus⟩

/-- What a token starts and the parser takes for an operand. -/
theorem parses_of_operand (h : ∀ (stop steps position : ℕ) (vs rest : Tokens),
      vs.map Prod.fst = others → Loose row rest → 4 * vs.length + 2 ≤ steps →
      operand stop (steps + 1) ((token, position) :: (vs ++ rest)) = .ok (e, rest)) :
    Parses row e (token :: others) := by
  intro stop least steps ts rest hkinds _ hloose hsteps
  obtain ⟨⟨token, position⟩, vs, rfl, rfl, hvs⟩ := List.map_eq_cons_iff.mp hkinds
  rw [List.length_cons] at hsteps
  obtain ⟨more, rfl⟩ : ∃ more, steps = more + 2 := ⟨steps - 2, by omega⟩
  refine ⟨more + 1, by rw [List.length_cons]; omega, expression_of_operand ?_⟩
  exact h stop more position vs rest hvs hloose (by omega)

/-- What the parser extends an expression to with a token and others behind it. -/
theorem Parses.extended {larger : Expr} (h : Parses row e kinds) (htight : token.tightness ≤ row)
    (hextend : ∀ (stop least steps position : ℕ) (vs rest : Tokens), vs.map Prod.fst = others →
      least ≤ row → Loose row rest → 4 * vs.length + 3 ≤ steps →
      extend stop (steps + 1) least e ((token, position) :: (vs ++ rest)) =
        extend stop steps least larger rest) :
    Parses row larger (kinds ++ token :: others) := by
  intro stop least steps ts rest hkinds hleast hloose hsteps
  obtain ⟨us, position, vs, rfl, hus, hvs⟩ := exists_split hkinds
  simp only [List.length_cons, List.length_append] at hsteps ⊢
  obtain ⟨before, hbefore, hfirst⟩ := h stop least steps us ((token, position) :: (vs ++ rest)) hus
    hleast (loose_cons htight _ _) (by omega)
  obtain ⟨more, rfl⟩ : ∃ more, before = more + 1 := ⟨before - 1, by omega⟩
  refine ⟨more, by omega, ?_⟩
  rw [List.append_assoc, List.cons_append, hfirst]
  exact hextend stop least more position vs rest hvs hleast hloose (by omega)

/-- An operand of one token. -/
theorem parses_single (h : ∀ stop steps position rest,
      operand stop (steps + 1) ((token, position) :: rest) = .ok (e, rest)) (row : ℕ) :
    Parses row e [token] := by
  refine parses_of_operand fun stop steps position vs rest hvs _ _ => ?_
  obtain rfl := List.map_eq_nil_iff.mp hvs
  exact h stop steps position rest

/-- An expression in parentheses is one wherever it stands. -/
theorem Parses.enclosed (h : Parses row e kinds) (least : ℕ) :
    Parses least e (.symbol .openParen :: (kinds ++ [.symbol .closeParen])) := by
  refine parses_of_operand fun stop steps position vs rest hvs _ hsteps => ?_
  obtain ⟨us, closing, rfl, hus⟩ := exists_last hvs
  rw [List.length_append, List.length_singleton] at hsteps
  have hinside : expression stop steps 0 (us ++ (.symbol .closeParen, closing) :: rest) =
      .ok (e, (.symbol .closeParen, closing) :: rest) :=
    h.expression_eq hus (Nat.zero_le row) (Nat.zero_le 8) (final_cons rfl 0 closing rest) (by omega)
  rw [List.append_assoc, List.singleton_append, operand, hinside]
  rfl

/-- An operator before an operand, with its operand. -/
theorem operand_unary {op : UnaryOp} (hop : token ∈ op.spellings) :
    operand stop (steps + 1) ((token, position) :: ts) =
      (expression stop steps UnaryOp.level ts).bind fun (inner, ts) =>
        .ok (.unary op inner, ts) := by
  cases op with
  | not =>
    rcases List.mem_cons.mp hop with rfl | hword
    · rfl
    · obtain rfl := List.mem_singleton.mp hword
      rfl
  | neg =>
    obtain rfl := List.mem_singleton.mp hop
    rfl

/-- An operand behind an operator before it. -/
theorem Parses.unary {op : UnaryOp} (hop : token ∈ op.spellings) (h : Parses 7 e kinds) :
    Parses 7 (.unary op e) (token :: kinds) := by
  refine parses_of_operand fun stop steps position vs rest hvs hloose hsteps => ?_
  have hfinal : Final 7 rest := by
    intro t ht
    have := hloose t ht
    have := t.1.tightness_ne_seven
    omega
  have hinside : expression stop steps UnaryOp.level (vs ++ rest) = .ok (e, rest) :=
    h.expression_eq hvs (Nat.le_refl 7) (by decide) hfinal (by omega)
  rw [operand_unary hop, hinside]
  rfl

/-- Two operands of an operator between them. -/
theorem Parses.binary {op : BinaryOp} {left right : Expr} (hop : op.Spelled row token)
    (hleft : Parses row left kinds) (hright : Parses (row + 1) right others) :
    Parses row (.binary op left right) (kinds ++ token :: others) := by
  obtain ⟨htoken, hlevel⟩ := hop.ofToken?
  have hbounds := op.level_bounds
  have htight : token.tightness = row := (tightness_of_ofToken? htoken).trans hlevel
  refine hleft.extended (Nat.le_of_eq htight)
    fun stop least steps position vs rest hvs hleast hloose hsteps => ?_
  have hfinal : Final (row + 1) rest := by
    intro t ht
    have := hloose t ht
    omega
  have hsecond : expression stop steps (row + 1) (vs ++ rest) = .ok (right, rest) :=
    hright.expression_eq hvs (Nat.le_refl _) (by omega) hfinal (by omega)
  rw [extend_operator htoken (by omega), hlevel, hsecond]
  rfl

/-- A property, if no parenthesis follows. -/
theorem extend_member (h : Loose 8 rest) (name : Text) (place : ℕ) :
    extend stop (steps + 1) least e ((.symbol .dot, position) :: (.word name, place) :: rest) =
      extend stop steps least (.member e (String.ofList name)) rest := by
  cases rest with
  | nil => rfl
  | cons t rest =>
    obtain ⟨token, behind⟩ := t
    have htight := h _ rfl
    cases token with
    | symbol s =>
      cases s with
      | openParen => exact absurd (show 9 ≤ 8 from htight) (by decide)
      | _ => rfl
    | _ => rfl

/-- A property behind an expression. -/
theorem Parses.member (h : Parses 8 e kinds) (name : Text) :
    Parses 8 (.member e (String.ofList name)) (kinds ++ [.symbol .dot, .word name]) := by
  refine h.extended (by decide) fun stop least steps position vs rest hvs _ hloose _ => ?_
  obtain ⟨⟨_, place⟩, rfl, rfl⟩ := List.map_eq_singleton_iff.mp hvs
  exact extend_member hloose name place

/-- A position in brackets behind an expression. -/
theorem Parses.index {inner : Expr} (h : Parses 8 e kinds) (hinner : Parses 0 inner others) :
    Parses 8 (.index e inner)
      (kinds ++ .symbol .openBracket :: (others ++ [.symbol .closeBracket])) := by
  refine h.extended (by decide) fun stop least steps position vs rest hvs _ _ hsteps => ?_
  obtain ⟨us, closing, rfl, hus⟩ := exists_last hvs
  rw [List.length_append, List.length_singleton] at hsteps
  have hinside : expression stop steps 0 (us ++ (.symbol .closeBracket, closing) :: rest) =
      .ok (inner, (.symbol .closeBracket, closing) :: rest) :=
    hinner.expression_eq hus (Nat.le_refl 0) (Nat.zero_le 8) (final_cons rfl 0 closing rest)
      (by omega)
  rw [List.append_assoc, List.singleton_append, extend, hinside]
  rfl

end SqlTemplate.Expr
