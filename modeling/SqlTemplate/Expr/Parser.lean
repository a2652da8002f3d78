import SqlTemplate.Expr.Syntax
import SqlTemplate.Expr.Token

/-!
# Parsing expressions

The parser climbs the table of precedence. Each function takes the tokens that are left and
returns those it has not used. The number of steps bounds the depth of the calls: a call that
uses no token is followed by one that does within four calls, so four steps for each token are
enough.
-/

namespace SqlTemplate.Expr

/-- Tokens with their offsets. -/
abbrev Tokens := List (Token × Nat)

/-- A result, or a fault and its position. -/
abbrev Located := Except (ParseFault × Nat)

/-- The operator that a symbol is between operands. -/
def BinaryOp.ofSymbol? : Symbol → Option BinaryOp
  | .or => some or
  | .and => some and
  | .eq => some eq
  | .ne => some ne
  | .lt => some lt
  | .le => some le
  | .gt => some gt
  | .ge => some ge
  | .plus => some add
  | .minus => some sub
  | .times => some mul
  | .divide => some div
  | .modulo => some rem
  | _ => none

/-- The words that stand for operators between operands. -/
def BinaryOp.words : List (Text × BinaryOp) := [
  ("or".toList, or), ("and".toList, and), ("eq".toList, eq), ("neq".toList, ne),
  ("lt".toList, lt), ("lte".toList, le), ("gt".toList, gt), ("gte".toList, ge)]

/-- The operator that a token is between operands. -/
def BinaryOp.ofToken? : Token → Option BinaryOp
  | .symbol s => ofSymbol? s
  | .word name => words.lookup name
  | _ => none

/-- How an expected symbol is named in messages. -/
def Symbol.quoted : Symbol → String
  | .closeParen => "')'"
  | .closeBracket => "']'"
  | .closeBrace => "'\x7d'"
  | _ => ""

/-- The tokens after the symbol that has to come next. The text ends at byte `stop`. -/
def expect (stop : Nat) (s : Symbol) : Tokens → Located Tokens
  | [] => .error (.unexpectedEnd, stop)
  | (.symbol t, position) :: rest =>
    if t = s then .ok rest else .error (.expected s.quoted, position)
  | (_, position) :: _ => .error (.expected s.quoted, position)

/-- The property name that has to come next. -/
def propertyName (stop : Nat) : Tokens → Located (String × Tokens)
  | [] => .error (.unexpectedEnd, stop)
  | (.word name, _) :: rest => .ok (String.ofList name, rest)
  | (_, position) :: _ => .error (.expectedProperty, position)

mutual

/-- An expression whose operators all have at least the precedence `least`. -/
def expression (stop : Nat) : Nat → Nat → Tokens → Located (Expr × Tokens)
  | 0, _, _ => .error (.unexpectedEnd, stop)
  | steps + 1, least, ts => do
    let (left, ts) ← operand stop steps ts
    extend stop steps least left ts

/-- An operand with the operators before it. -/
def operand (stop : Nat) : Nat → Tokens → Located (Expr × Tokens)
  | 0, _ => .error (.unexpectedEnd, stop)
  | _, [] => .error (.unexpectedEnd, stop)
  | steps + 1, (token, position) :: ts =>
    match token with
    | .int n => .ok (.literal (.ofNat n), ts)
    | .float x => .ok (.literal (.ofFloat x), ts)
    | .str text => .ok (.literal (.str (String.ofList text)), ts)
    | .word name =>
      if name = "null".toList then .ok (.literal .null, ts)
      else if name = "true".toList then .ok (.literal (.bool true), ts)
      else if name = "false".toList then .ok (.literal (.bool false), ts)
      else if name = "not".toList then do
        let (inner, ts) ← expression stop steps UnaryOp.level ts
        .ok (.unary .not inner, ts)
      else .ok (.var (String.ofList name), ts)
    | .symbol .not => do
      let (inner, ts) ← expression stop steps UnaryOp.level ts
      .ok (.unary .not inner, ts)
    | .symbol .minus => do
      let (inner, ts) ← expression stop steps UnaryOp.level ts
      .ok (.unary .neg inner, ts)
    | .symbol .openParen => do
      let (inner, ts) ← expression stop steps 0 ts
      .ok (inner, ← expect stop .closeParen ts)
    | .symbol .openBrace => do
      let (items, ts) ← items stop steps .closeBrace ts
      .ok (.list items, ts)
    | .symbol _ => .error (.unexpectedToken, position)

/-- What follows the expression `left`: properties, calls, positions and operators whose
precedence is at least `least`. -/
def extend (stop : Nat) : Nat → Nat → Expr → Tokens → Located (Expr × Tokens)
  | 0, _, _, _ => .error (.unexpectedEnd, stop)
  | _, _, left, [] => .ok (left, [])
  | steps + 1, least, left, (token, position) :: ts =>
    match token with
    | .symbol .dot => do
      let (name, ts) ← propertyName stop ts
      match ts with
      | (.symbol .openParen, _) :: ts =>
        let (args, ts) ← items stop steps .closeParen ts
        extend stop steps least (.call left name args) ts
      | ts => extend stop steps least (.member left name) ts
    | .symbol .openBracket => do
      let (inner, ts) ← expression stop steps 0 ts
      let ts ← expect stop .closeBracket ts
      extend stop steps least (.index left inner) ts
    | token =>
      match BinaryOp.ofToken? token with
      | none => .ok (left, (token, position) :: ts)
      | some op =>
        if op.level < least then .ok (left, (token, position) :: ts)
        else do
          let (right, ts) ← expression stop steps (op.level + 1) ts
          extend stop steps least (.binary op left right) ts

/-- Expressions between commas up to the closing symbol; there may be none. -/
def items (stop : Nat) : Nat → Symbol → Tokens → Located (List Expr × Tokens)
  | 0, _, _ => .error (.unexpectedEnd, stop)
  | steps + 1, close, ts =>
    match ts with
    | (.symbol s, _) :: rest => if s = close then .ok ([], rest) else someItems stop steps close ts
    | _ => someItems stop steps close ts

/-- One or more expressions between commas up to the closing symbol. -/
def someItems (stop : Nat) : Nat → Symbol → Tokens → Located (List Expr × Tokens)
  | 0, _, _ => .error (.unexpectedEnd, stop)
  | steps + 1, close, ts => do
    let (item, ts) ← expression stop steps 0 ts
    match ts with
    | [] => .error (.unexpectedEnd, stop)
    | (.symbol s, position) :: ts =>
      if s = .comma then
        let (more, ts) ← someItems stop steps close ts
        .ok (item :: more, ts)
      else if s = close then .ok ([item], ts)
      else .error (.expectedCommaOr close.quoted, position)
    | (_, position) :: _ => .error (.expectedCommaOr close.quoted, position)

end

/-- The expression that all the tokens make up. -/
def ofTokens (stop : Nat) (ts : Tokens) : Located Expr := do
  let (e, rest) ← expression stop (4 * ts.length + 4) 0 ts
  match rest with
  | [] => .ok e
  | (_, position) :: _ => .error (.trailingInput, position)

/-- The expression that a text denotes. -/
def parse (source : Text) : Except Error Expr :=
  match (tokens source).bind (ofTokens source.byteSize) with
  | .ok e => .ok e
  | .error (fault, position) => .error (.evaluation source (.parse fault position))

end SqlTemplate.Expr
