import Mathlib.Algebra.Group.Nat.Defs
import Mathlib.Data.List.Forall2
import SqlTemplate.Expr.Parser
import SqlTemplate.Proofs.Results

/-!
# How expressions are written

An expression is written as tokens, and these as a text. The tokens follow a table:

| row | operators |
|---|---|
| 1 to 6 | between operands, `BinaryOp.table` |
| 7 | `!`, `not` and `-` before an operand |
| 8 | properties, calls and positions behind an operand, and what needs no operand |

What stands in a row is enclosed in parentheses where a row below it is asked for, and nowhere else.
-/

namespace SqlTemplate.Expr

/-- The operators between operands with the tokens that stand for them, row by row. Later rows bind
tighter, and operators of one row associate to the left. -/
def BinaryOp.table : List (List (BinaryOp × List Token)) := [
  [(or, [.word "or".toList, .symbol .or])],
  [(and, [.word "and".toList, .symbol .and])],
  [(eq, [.symbol .eq, .word "eq".toList]), (ne, [.symbol .ne, .word "neq".toList])],
  [(lt, [.symbol .lt, .word "lt".toList]), (le, [.symbol .le, .word "lte".toList]),
    (gt, [.symbol .gt, .word "gt".toList]), (ge, [.symbol .ge, .word "gte".toList])],
  [(add, [.symbol .plus]), (sub, [.symbol .minus])],
  [(mul, [.symbol .times]), (div, [.symbol .divide]), (rem, [.symbol .modulo])]]

/-- The token stands for the operator in a row of the table, counted from one. -/
def BinaryOp.Spelled (op : BinaryOp) (row : ℕ) (token : Token) : Prop :=
  ∃ ops ∈ table[row - 1]?, ∃ spellings, (op, spellings) ∈ ops ∧ token ∈ spellings ∧ 0 < row

/-- The tokens that stand for the operators before an operand. -/
def UnaryOp.spellings : UnaryOp → List Token
  | not => [.symbol .not, .word "not".toList]
  | neg => [.symbol .minus]

/-- Whether a name is an identifier. -/
def isIdentifier : Text → Bool
  | [] => false
  | c :: rest => startsWord c && rest.all continuesWord

/-- The identifiers that are no names of variables. -/
def reserved : List Text := ["null".toList, "true".toList, "false".toList, "not".toList]

/-- Whether a name is one of a variable. -/
def isVariable (name : Text) : Bool := isIdentifier name && !reserved.contains name

mutual

/-- The tokens of an expression that stands in a row of the table. -/
inductive Bare : ℕ → Expr → List Token → Prop
  | null : Bare 8 (.literal .null) [.word "null".toList]
  | yes : Bare 8 (.literal (.bool true)) [.word "true".toList]
  | no : Bare 8 (.literal (.bool false)) [.word "false".toList]
  | int {n : ℕ} (hn : n < 2 ^ 63) : Bare 8 (.literal (.ofNat n)) [.int n]
  | str (s : String) : Bare 8 (.literal (.str s)) [.str s.toList]
  | var {name : String} (hname : isVariable name.toList = true) :
    Bare 8 (.var name) [.word name.toList]
  | member {target : Expr} {name : String} {ts : List Token} (htarget : Written 8 target ts)
    (hname : isIdentifier name.toList = true) :
    Bare 8 (.member target name) (ts ++ [.symbol .dot, .word name.toList])
  | index {target position : Expr} {ts us : List Token} (htarget : Written 8 target ts)
    (hposition : Written 0 position us) :
    Bare 8 (.index target position)
      (ts ++ .symbol .openBracket :: (us ++ [.symbol .closeBracket]))
  | call {target : Expr} {method : String} {args : List Expr} {ts : List Token}
    {pieces : List (List Token)} (htarget : Written 8 target ts)
    (hmethod : isIdentifier method.toList = true) (hargs : List.Forall₂ (Written 0) args pieces) :
    Bare 8 (.call target method args)
      (ts ++ .symbol .dot :: .word method.toList :: .symbol .openParen ::
        ([.symbol .comma].intercalate pieces ++ [.symbol .closeParen]))
  | list {items : List Expr} {pieces : List (List Token)}
    (hitems : List.Forall₂ (Written 0) items pieces) :
    Bare 8 (.list items)
      (.symbol .openBrace :: ([.symbol .comma].intercalate pieces ++ [.symbol .closeBrace]))
  | unary {op : UnaryOp} {token : Token} {operand : Expr} {ts : List Token}
    (hop : token ∈ op.spellings) (hoperand : Written 7 operand ts) :
    Bare 7 (.unary op operand) (token :: ts)
  | binary {op : BinaryOp} {row : ℕ} {token : Token} {left right : Expr} {ts us : List Token}
    (hop : op.Spelled row token) (hleft : Written row left ts)
    (hright : Written (row + 1) right us) :
    Bare row (.binary op left right) (ts ++ token :: us)

/-- The tokens of an expression where one of at least the row `least` is asked for. -/
inductive Written : ℕ → Expr → List Token → Prop
  | bare {least row : ℕ} {e : Expr} {ts : List Token} (hrow : least ≤ row) (h : Bare row e ts) :
    Written least e ts
  | enclosed {least row : ℕ} {e : Expr} {ts : List Token} (hrow : row < least) (h : Bare row e ts) :
    Written least e (.symbol .openParen :: (ts ++ [.symbol .closeParen]))

end

/-- How a symbol is written. -/
def Symbol.text : Symbol → Text
  | eq => "==".toList
  | ne => "!=".toList
  | lt => "<".toList
  | le => "<=".toList
  | gt => ">".toList
  | ge => ">=".toList
  | and => "&&".toList
  | or => "||".toList
  | not => "!".toList
  | plus => "+".toList
  | minus => "-".toList
  | times => "*".toList
  | divide => "/".toList
  | modulo => "%".toList
  | openParen => "(".toList
  | closeParen => ")".toList
  | openBracket => "[".toList
  | closeBracket => "]".toList
  | openBrace => "\x7b".toList
  | closeBrace => "\x7d".toList
  | dot => ".".toList
  | comma => ",".toList

/-- A string as it is written between quotes. The quote and the backslash stand behind a backslash,
and every character may but for `n` and `t`, which stand for others there. -/
inductive Quoted (quote : Char) : Text → Text → Prop
  | nil : Quoted quote [] []
  | plain {c : Char} {chars text : Text} (hquote : c ≠ quote) (hslash : c ≠ '\\')
    (h : Quoted quote chars text) : Quoted quote (c :: chars) (c :: text)
  | escaped {c : Char} {chars text : Text} (hfeed : c ≠ 'n') (htab : c ≠ 't')
    (h : Quoted quote chars text) : Quoted quote (c :: chars) ('\\' :: c :: text)
  | feed {chars text : Text} (h : Quoted quote chars text) :
    Quoted quote ('\n' :: chars) ('\\' :: 'n' :: text)
  | tab {chars text : Text} (h : Quoted quote chars text) :
    Quoted quote ('\t' :: chars) ('\\' :: 't' :: text)

/-- A text that a token is written as. -/
inductive Token.Spelled : Text → Token → Prop
  | word {name : Text} (hname : isIdentifier name = true) : Spelled name (.word name)
  | int {n : ℕ} (hn : n < 2 ^ 63) : Spelled (Text.ofNat n) (.int n)
  | str {quote : Char} {chars text : Text} (hquote : quote = '\'' ∨ quote = '"')
    (h : Quoted quote chars text) : Spelled (quote :: (text ++ [quote])) (.str chars)
  | symbol (s : Symbol) : Spelled s.text (.symbol s)

/-- A text that an expression is written as, with single spaces between its tokens. -/
def WrittenAs (e : Expr) (text : Text) : Prop :=
  ∃ pieces ts, Written 0 e ts ∧ List.Forall₂ Token.Spelled pieces ts ∧
    text = [' '].intercalate pieces

/-- The expressions that can be written: numbers are whole and not too large, and names are
identifiers. -/
inductive Printable : Expr → Prop
  | null : Printable (.literal .null)
  | bool (b : Bool) : Printable (.literal (.bool b))
  | int {n : ℕ} (hn : n < 2 ^ 63) : Printable (.literal (.ofNat n))
  | str (s : String) : Printable (.literal (.str s))
  | var {name : String} (hname : isVariable name.toList = true) : Printable (.var name)
  | member {target : Expr} {name : String} (htarget : Printable target)
    (hname : isIdentifier name.toList = true) : Printable (.member target name)
  | index {target position : Expr} (htarget : Printable target) (hposition : Printable position) :
    Printable (.index target position)
  | call {target : Expr} {method : String} {args : List Expr} (htarget : Printable target)
    (hmethod : isIdentifier method.toList = true) (hargs : ∀ arg ∈ args, Printable arg) :
    Printable (.call target method args)
  | list {items : List Expr} (hitems : ∀ item ∈ items, Printable item) : Printable (.list items)
  | unary {op : UnaryOp} {operand : Expr} (hoperand : Printable operand) :
    Printable (.unary op operand)
  | binary {op : BinaryOp} {left right : Expr} (hleft : Printable left) (hright : Printable right) :
    Printable (.binary op left right)

/-- A token can be written. -/
def Token.Spellable (token : Token) : Prop := ∃ text, Spelled text token

/-- Every string can be written between quotes. -/
theorem exists_quoted {quote : Char} (hquote : quote = '\'' ∨ quote = '"') (chars : Text) :
    ∃ text, Quoted quote chars text := by
  induction chars with
  | nil => exact ⟨[], .nil⟩
  | cons c chars ih =>
    obtain ⟨text, htext⟩ := ih
    by_cases hplain : c ≠ quote ∧ c ≠ '\\'
    · exact ⟨c :: text, .plain hplain.1 hplain.2 htext⟩
    · have hspecial : c = '\'' ∨ c = '"' ∨ c = '\\' := by
        by_cases hslash : c = '\\'
        · exact .inr (.inr hslash)
        · have hc : c = quote := by
            by_contra hne
            exact hplain ⟨hne, hslash⟩
          rcases hquote with rfl | rfl
          · exact .inl hc
          · exact .inr (.inl hc)
      have hfeed : c ≠ 'n' := by
        rintro rfl
        exact absurd hspecial (by decide)
      have htab : c ≠ 't' := by
        rintro rfl
        exact absurd hspecial (by decide)
      exact ⟨'\\' :: c :: text, .escaped hfeed htab htext⟩

namespace Token

/-- Symbols can be written. -/
theorem spellable_symbol (s : Symbol) : (symbol s).Spellable := ⟨s.text, .symbol s⟩

/-- Identifiers can be written. -/
theorem spellable_word {name : Text} (h : isIdentifier name = true) : (word name).Spellable :=
  ⟨name, .word h⟩

/-- Strings can be written. -/
theorem spellable_str (chars : Text) : (str chars).Spellable := by
  obtain ⟨text, htext⟩ := exists_quoted (.inl rfl : '\'' = '\'' ∨ '\'' = '"') chars
  exact ⟨'\'' :: (text ++ ['\'']), .str (.inl rfl) htext⟩

end Token

/-- Every operator before an operand can be written. -/
theorem UnaryOp.exists_spelling (op : UnaryOp) : ∃ token ∈ op.spellings, token.Spellable := by
  cases op with
  | not => exact ⟨.symbol .not, List.mem_cons_self, Token.spellable_symbol _⟩
  | neg => exact ⟨.symbol .minus, List.mem_cons_self, Token.spellable_symbol _⟩

/-- Every operator between operands stands in the table with a symbol. -/
theorem BinaryOp.exists_spelled (op : BinaryOp) : ∃ row s, op.Spelled row (.symbol s) := by
  cases op with
  | or => exact ⟨1, .or, by simp [Spelled, table]⟩
  | and => exact ⟨2, .and, by simp [Spelled, table]⟩
  | eq => exact ⟨3, .eq, by simp [Spelled, table]⟩
  | ne => exact ⟨3, .ne, by simp [Spelled, table]⟩
  | lt => exact ⟨4, .lt, by simp [Spelled, table]⟩
  | le => exact ⟨4, .le, by simp [Spelled, table]⟩
  | gt => exact ⟨4, .gt, by simp [Spelled, table]⟩
  | ge => exact ⟨4, .ge, by simp [Spelled, table]⟩
  | add => exact ⟨5, .plus, by simp [Spelled, table]⟩
  | sub => exact ⟨5, .minus, by simp [Spelled, table]⟩
  | mul => exact ⟨6, .times, by simp [Spelled, table]⟩
  | div => exact ⟨6, .divide, by simp [Spelled, table]⟩
  | rem => exact ⟨6, .modulo, by simp [Spelled, table]⟩

/-- An expression is written with tokens that can be written. -/
def Writable (least : ℕ) (e : Expr) : Prop :=
  ∃ ts, Written least e ts ∧ ∀ t ∈ ts, t.Spellable

/-- What can be written in some row can be written wherever one is asked for. -/
theorem writable_of_bare {row : ℕ} {e : Expr} {ts : List Token} (h : Bare row e ts)
    (hspellable : ∀ t ∈ ts, t.Spellable) (least : ℕ) : Writable least e := by
  rcases Nat.lt_or_ge row least with hrow | hrow
  · refine ⟨_, .enclosed hrow h, List.forall_mem_cons.mpr ⟨Token.spellable_symbol _, ?_⟩⟩
    exact List.forall_mem_append.mpr
      ⟨hspellable, List.forall_mem_singleton.mpr (Token.spellable_symbol _)⟩
  · exact ⟨ts, .bare hrow h, hspellable⟩

/-- Expressions between commas can be written if each of them can. -/
theorem exists_written_items {items : List Expr} (h : ∀ item ∈ items, Writable 0 item) :
    ∃ pieces, List.Forall₂ (Written 0) items pieces ∧
      ∀ t ∈ [Token.symbol .comma].intercalate pieces, t.Spellable := by
  obtain ⟨pieces, hpieces⟩ := Results.exists_forall₂ h
  refine ⟨pieces, hpieces.imp fun _ _ hpiece => hpiece.1, ?_⟩
  induction hpieces with
  | nil =>
    intro t ht
    cases ht
  | @cons item piece items pieces hpiece hrest ih =>
    have hlater := ih fun item hitem => h item (List.mem_cons_of_mem _ hitem)
    cases pieces with
    | nil =>
      rw [List.intercalate_singleton]
      exact hpiece.2
    | cons second pieces =>
      rw [List.intercalate_cons_cons]
      exact List.forall_mem_append.mpr ⟨List.forall_mem_append.mpr
        ⟨hpiece.2, List.forall_mem_singleton.mpr (Token.spellable_symbol _)⟩, hlater⟩

/-- Printable expressions can be written, in every row. -/
theorem Printable.writable {e : Expr} (h : e.Printable) (least : ℕ) : Writable least e := by
  have one {token : Token} (htoken : token.Spellable) : ∀ t ∈ [token], t.Spellable :=
    List.forall_mem_singleton.mpr htoken
  induction h generalizing least with
  | null => exact writable_of_bare .null (one (Token.spellable_word (by decide))) least
  | bool b =>
    cases b with
    | false => exact writable_of_bare .no (one (Token.spellable_word (by decide))) least
    | true => exact writable_of_bare .yes (one (Token.spellable_word (by decide))) least
  | int hn => exact writable_of_bare (.int hn) (one ⟨_, .int hn⟩) least
  | str s => exact writable_of_bare (.str s) (one (Token.spellable_str _)) least
  | var hname =>
    have hword := Token.spellable_word (Bool.and_eq_true_iff.mp hname).1
    exact writable_of_bare (.var hname) (one hword) least
  | member htarget hname ih =>
    obtain ⟨ts, hts, hspellable⟩ := ih 8
    refine writable_of_bare (.member hts hname) (List.forall_mem_append.mpr ⟨hspellable, ?_⟩) least
    exact List.forall_mem_cons.mpr
      ⟨Token.spellable_symbol _, one (Token.spellable_word hname)⟩
  | index htarget hposition ih ihposition =>
    obtain ⟨ts, hts, hspellable⟩ := ih 8
    obtain ⟨us, hus, hposition⟩ := ihposition 0
    refine writable_of_bare (.index hts hus) (List.forall_mem_append.mpr ⟨hspellable, ?_⟩) least
    exact List.forall_mem_cons.mpr ⟨Token.spellable_symbol _,
      List.forall_mem_append.mpr ⟨hposition, one (Token.spellable_symbol _)⟩⟩
  | call htarget hmethod hargs ih ihargs =>
    obtain ⟨ts, hts, hspellable⟩ := ih 8
    obtain ⟨pieces, hpieces, hitems⟩ := exists_written_items fun arg harg => ihargs arg harg 0
    refine writable_of_bare (.call hts hmethod hpieces)
      (List.forall_mem_append.mpr ⟨hspellable, ?_⟩) least
    refine List.forall_mem_cons.mpr ⟨Token.spellable_symbol _, List.forall_mem_cons.mpr
      ⟨Token.spellable_word hmethod, List.forall_mem_cons.mpr ⟨Token.spellable_symbol _, ?_⟩⟩⟩
    exact List.forall_mem_append.mpr ⟨hitems, one (Token.spellable_symbol _)⟩
  | list hitems ih =>
    obtain ⟨pieces, hpieces, hspellable⟩ := exists_written_items fun item hitem => ih item hitem 0
    refine writable_of_bare (.list hpieces)
      (List.forall_mem_cons.mpr ⟨Token.spellable_symbol _, ?_⟩) least
    exact List.forall_mem_append.mpr ⟨hspellable, one (Token.spellable_symbol _)⟩
  | @unary op operand hoperand ih =>
    obtain ⟨token, htoken, hspelling⟩ := op.exists_spelling
    obtain ⟨ts, hts, hspellable⟩ := ih 7
    exact writable_of_bare (.unary htoken hts) (List.forall_mem_cons.mpr ⟨hspelling, hspellable⟩)
      least
  | @binary op left right hleft hright ihleft ihright =>
    obtain ⟨row, s, hop⟩ := op.exists_spelled
    obtain ⟨ts, hts, hspellable⟩ := ihleft row
    obtain ⟨us, hus, hother⟩ := ihright (row + 1)
    exact writable_of_bare (.binary hop hts hus) (List.forall_mem_append.mpr ⟨hspellable,
      List.forall_mem_cons.mpr ⟨Token.spellable_symbol s, hother⟩⟩) least

/-- Printable expressions can be written as a text. -/
theorem Printable.exists_writtenAs {e : Expr} (h : e.Printable) : ∃ text, e.WrittenAs text := by
  obtain ⟨ts, hts, hspellable⟩ := h.writable 0
  obtain ⟨pieces, hpieces⟩ := Results.exists_forall₂ hspellable
  exact ⟨_, pieces, ts, hts, hpieces.flip, rfl⟩

end SqlTemplate.Expr
