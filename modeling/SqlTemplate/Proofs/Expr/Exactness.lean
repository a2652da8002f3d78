import SqlTemplate.Expr.Eval

/-!
# Exact integer arithmetic

An expression of integers has an exact value, unless a divisor in it is zero. It evaluates to this
value or it fails: it neither wraps around nor turns into a float. It fails where the value of some
part leaves the range of 64 bits, where some divisor is zero, and for one remainder whose quotient
leaves the range.
-/

namespace SqlTemplate.Expr

/-- The operators of arithmetic. -/
def BinaryOp.IsArithmetic (op : BinaryOp) : Prop := op ∈ [add, sub, mul, div, rem]

instance (op : BinaryOp) : Decidable op.IsArithmetic :=
  inferInstanceAs (Decidable (op ∈ [.add, .sub, .mul, .div, .rem]))

/-- There are five operators of arithmetic. -/
theorem BinaryOp.IsArithmetic.cases {op : BinaryOp} (hop : op.IsArithmetic) :
    op = add ∨ op = sub ∨ op = mul ∨ op = div ∨ op = rem := by
  simpa [IsArithmetic] using hop

/-- The operators with a divisor. -/
def BinaryOp.Divides (op : BinaryOp) : Prop := op = div ∨ op = rem

/-- The exact result of arithmetic. Division cuts toward zero, and a remainder has the sign of the
dividend. Neither has a result if the divisor is zero. -/
def BinaryOp.exactResult? (op : BinaryOp) (a b : Int) : Option Int :=
  match op with
  | add => some (a + b)
  | sub => some (a - b)
  | mul => some (a * b)
  | div => if b = 0 then none else some (Int.tdiv a b)
  | rem => if b = 0 then none else some (Int.tmod a b)
  | _ => none

/-- An expression of integers: literals and names in range, and operators of arithmetic. -/
inductive Integral (bindings : Bindings) : Expr → Prop
  | literal {n : Int} (h : Number.inRange n = true) : Integral bindings (.literal (.num (.int n)))
  | var {name : String} {n : Int} (hbound : bindings.get? name = some (.num (.int n)))
    (h : Number.inRange n = true) : Integral bindings (.var name)
  | neg {operand : Expr} (h : Integral bindings operand) : Integral bindings (.unary .neg operand)
  | binary {op : BinaryOp} {left right : Expr} (hop : op.IsArithmetic)
    (hleft : Integral bindings left) (hright : Integral bindings right) :
    Integral bindings (.binary op left right)

/-- An expression of integers has an exact value. -/
inductive Exactly (bindings : Bindings) : Expr → Int → Prop
  | literal {n : Int} : Exactly bindings (.literal (.num (.int n))) n
  | var {name : String} {n : Int} (hbound : bindings.get? name = some (.num (.int n))) :
    Exactly bindings (.var name) n
  | neg {operand : Expr} {n : Int} (h : Exactly bindings operand n) :
    Exactly bindings (.unary .neg operand) (-n)
  | binary {op : BinaryOp} {left right : Expr} {a b n : Int} (hleft : Exactly bindings left a)
    (hright : Exactly bindings right b) (h : op.exactResult? a b = some n) :
    Exactly bindings (.binary op left right) n

/-- An expression is part of another one, or the whole of it. -/
inductive Part (part : Expr) : Expr → Prop
  | whole : Part part part
  | operand {op : UnaryOp} {operand : Expr} (h : Part part operand) : Part part (.unary op operand)
  | left {op : BinaryOp} {left right : Expr} (h : Part part left) :
    Part part (.binary op left right)
  | right {op : BinaryOp} {left right : Expr} (h : Part part right) :
    Part part (.binary op left right)

/-- The exact value of an expression is out of range, or it divides by zero. -/
inductive Breaks (bindings : Bindings) : Expr → Prop
  | range {e : Expr} {n : Int} (h : Exactly bindings e n) (hrange : Number.inRange n = false) :
    Breaks bindings e
  | zero {op : BinaryOp} {left right : Expr} (hop : op.Divides) (h : Exactly bindings right 0) :
    Breaks bindings (.binary op left right)

/-- The one remainder in range whose quotient is not: that of the least integer by minus one. -/
inductive LeastRemainder (bindings : Bindings) : Expr → Prop
  | intro {left right : Expr} (hleft : Exactly bindings left Number.least)
    (hright : Exactly bindings right (-1)) : LeastRemainder bindings (.binary .rem left right)

variable {bindings : Bindings} {e : Expr}

/-- An expression has one exact value at most. -/
theorem Exactly.unique {n m : Int} (hn : Exactly bindings e n) (hm : Exactly bindings e m) :
    n = m := by
  induction hn generalizing m with
  | literal => cases hm; rfl
  | var hbound =>
    cases hm with
    | var hother =>
      have := hbound.symm.trans hother
      simpa using this
  | neg _ ih =>
    cases hm with
    | neg h => rw [ih h]
  | binary _ _ h ihleft ihright =>
    cases hm with
    | binary hleft hright hother =>
      rw [ihleft hleft, ihright hright, hother] at h
      exact (Option.some.inj h).symm

/-- An integer in range is a number as arithmetic sees it. -/
theorem number?_int {n : Int} (h : Number.inRange n = true) :
    Value.number? (.num (.int n)) = some (.int n) := by
  rw [Value.number?, Number.operand, if_pos h]

/-- The negative of an integer is exact, unless it is out of range. -/
theorem negate_int {n : Int} (h : Number.inRange n = true) :
    negate (.num (.int n)) =
      if Number.inRange (-n) = true then .ok (.num (.int (-n))) else .error .integerOverflow := by
  rw [negate, number?_int h]
  dsimp only
  rw [checked]
  split
  · rfl
  · rfl

/-- Only a divisor that is zero leaves arithmetic without an exact result. -/
theorem BinaryOp.IsArithmetic.exactResult?_eq_none {op : BinaryOp} (hop : op.IsArithmetic)
    {a b : Int} (h : op.exactResult? a b = none) : op.Divides ∧ b = 0 := by
  rcases hop.cases with rfl | rfl | rfl | rfl | rfl
  · cases h
  · cases h
  · cases h
  · exact ⟨.inl rfl, by simpa [exactResult?] using h⟩
  · exact ⟨.inr rfl, by simpa [exactResult?] using h⟩

/-- Arithmetic on integers gives the exact result if there is one in range, except for one
remainder. -/
theorem integerArithmetic_eq {op : BinaryOp} (hop : op.IsArithmetic) (a b : Int) :
    integerArithmetic op a b =
      match op.exactResult? a b with
      | none => .error .divisionByZero
      | some n =>
        if op = .rem ∧ a = Number.least ∧ b = -1 then .error .integerOverflow else checked n := by
  rcases hop.cases with rfl | rfl | rfl | rfl | rfl
  · rfl
  · rfl
  · rfl
  · by_cases hb : b = 0
    · simp [integerArithmetic, BinaryOp.exactResult?, hb]
    · simp [integerArithmetic, BinaryOp.exactResult?, hb]
  · by_cases hb : b = 0
    · simp [integerArithmetic, BinaryOp.exactResult?, hb]
    · simp [integerArithmetic, BinaryOp.exactResult?, hb]

/-- On integers in range an operator of arithmetic does integer arithmetic. -/
theorem apply_int {op : BinaryOp} (hop : op.IsArithmetic) {a b : Int}
    (ha : Number.inRange a = true) (hb : Number.inRange b = true) :
    apply op (.num (.int a)) (.num (.int b)) =
      (integerArithmetic op a b).map Number.toValue := by
  have harithmetic : apply op (.num (.int a)) (.num (.int b)) =
      arithmetic op (.num (.int a)) (.num (.int b)) := by
    rcases hop.cases with rfl | rfl | rfl | rfl | rfl
    all_goals rfl
  rw [harithmetic, arithmetic, number?_int ha, number?_int hb]

/-- Arithmetic evaluates its operands from left to right. -/
theorem eval_arithmetic {op : BinaryOp} (hop : op.IsArithmetic) (left right : Expr) :
    eval bindings (.binary op left right) =
      eval bindings left >>= fun a => eval bindings right >>= fun b => apply op a b := by
  have hand : op ≠ .and := by rintro rfl; exact absurd hop (by decide)
  have hor : op ≠ .or := by rintro rfl; exact absurd hop (by decide)
  rw [eval]
  · exact hand
  · exact hor

/-- A value is that of an expression all of whose parts can be computed. -/
structure Computes (bindings : Bindings) (e : Expr) (n : Int) : Prop where
  eval_eq : eval bindings e = .ok (.num (.int n))
  exactly : Exactly bindings e n
  inRange : Number.inRange n = true
  unbroken : ∀ part, Part part e → ¬ Breaks bindings part

/-- An expression fails to evaluate, and there is a part to blame. -/
structure Refuses (bindings : Bindings) (e : Expr) : Prop where
  eval_eq : eval bindings e = .error .integerOverflow ∨ eval bindings e = .error .divisionByZero
  blamed : ∃ part, Part part e ∧ (Breaks bindings part ∨ LeastRemainder bindings part)

/-- Nothing breaks in an expression with a value in range, if nothing does in its parts. -/
theorem Exactly.not_breaks {n : Int} (h : Exactly bindings e n) (hrange : Number.inRange n = true)
    (hdivides : ∀ op left right, e = .binary op left right → op.Divides →
      ¬ Exactly bindings right 0) : ¬ Breaks bindings e := by
  intro hbreaks
  cases hbreaks with
  | range hother hout =>
    rw [h.unique hother, hout] at hrange
    cases hrange
  | zero hop hzero => exact hdivides _ _ _ rfl hop hzero

/-- An operator with an exact result has no divisor that is zero. -/
theorem divisor_ne_zero {op : BinaryOp} {left right : Expr} {a b n : Int}
    (hright : Exactly bindings right b) (h : op.exactResult? a b = some n) (other : BinaryOp)
    (first second : Expr) (heq : Expr.binary op left right = .binary other first second)
    (hdivides : other.Divides) : ¬ Exactly bindings second 0 := by
  cases heq
  intro hzero
  rw [hright.unique hzero] at h
  rcases hdivides with rfl | rfl
  · cases h
  · cases h

/-- A negation computes its value, or refuses it. -/
theorem computes_neg {operand : Expr} {n : Int} (h : Computes bindings operand n) :
    Computes bindings (.unary .neg operand) (-n) ∨ Refuses bindings (.unary .neg operand) := by
  have heval : eval bindings (.unary .neg operand) = negate (.num (.int n)) := by
    rw [eval, h.eval_eq]
    rfl
  rw [negate_int h.inRange] at heval
  have hexact := Exactly.neg h.exactly
  split at heval
  · rename_i hrange
    refine .inl ⟨heval, hexact, hrange, fun part hpart => ?_⟩
    cases hpart with
    | whole => exact hexact.not_breaks hrange nofun
    | operand hpart => exact h.unbroken part hpart
  · rename_i hrange
    exact .inr ⟨.inl heval, _, .whole, .inl (.range hexact (Bool.not_eq_true _ ▸ hrange))⟩

/-- What is to blame in an operand is part of the whole. -/
theorem Refuses.extend {whole : Expr} (h : Refuses bindings e)
    (hpart : ∀ part, Part part e → Part part whole)
    (heval : ∀ fault, eval bindings e = .error fault → eval bindings whole = .error fault) :
    Refuses bindings whole := by
  obtain ⟨part, hwithin, hblame⟩ := h.blamed
  exact ⟨h.eval_eq.imp (heval _) (heval _), part, hpart part hwithin, hblame⟩

/-- An operator between two values computes its value, or refuses it. -/
theorem computes_binary {op : BinaryOp} (hop : op.IsArithmetic) {left right : Expr} {a b : Int}
    (hleft : Computes bindings left a) (hright : Computes bindings right b) :
    (∃ n, Computes bindings (.binary op left right) n) ∨
      Refuses bindings (.binary op left right) := by
  have heval : eval bindings (.binary op left right) =
      (integerArithmetic op a b).map Number.toValue := by
    rw [eval_arithmetic hop, hleft.eval_eq, hright.eval_eq]
    exact apply_int hop hleft.inRange hright.inRange
  rw [integerArithmetic_eq hop] at heval
  cases hexact : op.exactResult? a b with
  | none =>
    obtain ⟨hdivides, rfl⟩ := hop.exactResult?_eq_none hexact
    rw [hexact] at heval
    exact .inr ⟨.inr heval, _, .whole, .inl (.zero hdivides hright.exactly)⟩
  | some n =>
    have hvalue := Exactly.binary hleft.exactly hright.exactly hexact
    simp only [hexact] at heval
    split at heval
    · rename_i hleast
      obtain ⟨rfl, rfl, rfl⟩ := hleast
      exact .inr ⟨.inl heval, _, .whole, .inr (.intro hleft.exactly hright.exactly)⟩
    · rw [checked] at heval
      split at heval
      · rename_i hrange
        refine .inl ⟨n, heval, hvalue, hrange, fun part hpart => ?_⟩
        cases hpart with
        | whole => exact hvalue.not_breaks hrange (divisor_ne_zero hright.exactly hexact)
        | left hpart => exact hleft.unbroken part hpart
        | right hpart => exact hright.unbroken part hpart
      · rename_i hrange
        exact .inr ⟨.inl heval, _, .whole, .inl (.range hvalue (Bool.not_eq_true _ ▸ hrange))⟩

/-- An expression of integers computes its exact value, or refuses it. -/
theorem Integral.computes_or_refuses (h : Integral bindings e) :
    (∃ n, Computes bindings e n) ∨ Refuses bindings e := by
  induction h with
  | literal hrange =>
    refine .inl ⟨_, ?_, .literal, hrange, fun part hpart => ?_⟩
    · rw [eval]
    · cases hpart with
      | whole => exact Exactly.literal.not_breaks hrange nofun
  | var hbound hrange =>
    refine .inl ⟨_, ?_, .var hbound, hrange, fun part hpart => ?_⟩
    · rw [eval, lookup, hbound]
    · cases hpart with
      | whole => exact (Exactly.var hbound).not_breaks hrange nofun
  | neg _ ih =>
    rcases ih with ⟨n, hoperand⟩ | hoperand
    · exact (computes_neg hoperand).imp_left fun h => ⟨_, h⟩
    · refine .inr (hoperand.extend (fun _ => .operand) fun fault hfault => ?_)
      rw [eval, hfault]
      rfl
  | binary hop _ _ ihleft ihright =>
    rcases ihleft with ⟨a, hleft⟩ | hleft
    · rcases ihright with ⟨b, hright⟩ | hright
      · exact computes_binary hop hleft hright
      · refine .inr (hright.extend (fun _ => .right) fun fault hfault => ?_)
        rw [eval_arithmetic hop, hleft.eval_eq, hfault]
        rfl
    · refine .inr (hleft.extend (fun _ => .left) fun fault hfault => ?_)
      rw [eval_arithmetic hop, hfault]
      rfl

/-- Integer arithmetic is exact. A value that comes out is the exact one, and it is in range. Out
comes nothing if the exact value of some part is out of range or some divisor is zero, and only
then, except for the remainder of the least integer by minus one. -/
theorem integer_arithmetic_exact (h : Integral bindings e) :
    (∀ value, eval bindings e = .ok value →
      ∃ n, value = .num (.int n) ∧ Exactly bindings e n ∧ Number.inRange n = true) ∧
    ((∃ part, Part part e ∧ Breaks bindings part) →
      eval bindings e = .error .integerOverflow ∨ eval bindings e = .error .divisionByZero) ∧
    ((∀ part, Part part e → ¬ Breaks bindings part ∧ ¬ LeastRemainder bindings part) →
      ∃ n, eval bindings e = .ok (.num (.int n)) ∧ Exactly bindings e n) := by
  rcases h.computes_or_refuses with ⟨n, hcomputes⟩ | hrefuses
  · refine ⟨fun value hvalue => ?_, fun ⟨part, hpart, hbreaks⟩ => ?_, fun _ => ?_⟩
    · have heq := hvalue.symm.trans hcomputes.eval_eq
      exact ⟨n, Except.ok.inj heq, hcomputes.exactly, hcomputes.inRange⟩
    · exact absurd hbreaks (hcomputes.unbroken part hpart)
    · exact ⟨n, hcomputes.eval_eq, hcomputes.exactly⟩
  · obtain ⟨part, hpart, hblame⟩ := hrefuses.blamed
    refine ⟨fun value hvalue => ?_, fun _ => hrefuses.eval_eq, fun hsound => ?_⟩
    · rcases hrefuses.eval_eq with hfault | hfault
      · cases hvalue.symm.trans hfault
      · cases hvalue.symm.trans hfault
    · rcases hblame with hbreaks | hleast
      · exact absurd hbreaks (hsound part hpart).1
      · exact absurd hleast (hsound part hpart).2

/-- With `n` bound to `-7`, the exact value of `n / 2 * -(n % 2)` is `-3`. A sum fails with the
negation of the least integer in it. -/
theorem integer_arithmetic_exact_of_names :
    (∃ n, Value.num (.int (-3)) = .num (.int n) ∧
      Exactly (.ofParameter (.ofInt (-7))) (.binary .mul
        (.binary .div (.var "n") (.literal (.num (.int 2))))
        (.unary .neg (.binary .rem (.var "n") (.literal (.num (.int 2)))))) n ∧
      Number.inRange n = true) ∧
    (eval (.ofParameter (.ofInt Number.least))
        (.binary .add (.literal (.num (.int 1))) (.unary .neg (.var "n"))) =
          .error .integerOverflow ∨
      eval (.ofParameter (.ofInt Number.least))
        (.binary .add (.literal (.num (.int 1))) (.unary .neg (.var "n"))) =
          .error .divisionByZero) := by
  have hseven : Integral (.ofParameter (.ofInt (-7))) (.var "n") := .var rfl (by decide)
  have htwo : Integral (.ofParameter (.ofInt (-7))) (.literal (.num (.int 2))) :=
    .literal (by decide)
  have hleast : Integral (.ofParameter (.ofInt Number.least)) (.unary .neg (.var "n")) :=
    .neg (.var rfl (by decide))
  constructor
  · refine (integer_arithmetic_exact (.binary (by decide) (.binary (by decide) hseven htwo)
      (.neg (.binary (by decide) hseven htwo)))).1 _ ?_
    simp only [eval]
    rfl
  · refine (integer_arithmetic_exact (.binary (by decide) (.literal (by decide)) hleast)).2.1 ?_
    exact ⟨_, .right .whole, .range (.neg (.var rfl)) (by decide)⟩

end SqlTemplate.Expr
