import SqlTemplate.Decimal.Binary64
import SqlTemplate.Text

/-!
# The fewest digits that read back

A float is printed with the fewest significant digits that still round to it. For each number of
digits the two neighbours of the float on that decimal grid are tested in exact arithmetic; the
first grid with a neighbour in the rounding interval gives the digits.
-/

namespace SqlTemplate.Binary64

/-- The positive number `digits * 10 ^ exponent`. -/
structure Decimal where
  digits : Nat
  exponent : Int

/-- A positive float in units of a quarter of its last place, with the ends of the interval of
numbers that round to it. -/
structure RoundingInterval where
  low : Nat
  value : Nat
  high : Nat
  /-- The ends round to the float too. -/
  closed : Bool
  /-- The unit is `2 ^ place`. -/
  place : Int

/-- The numbers that round to the fraction. Below a power of two the floats lie twice as
close. -/
def Fraction.interval (f : Fraction) : RoundingInterval :=
  let value := 4 * f.significand
  { low := if f.significand = leadingBit && f.exponent ≠ -1074 then value - 1 else value - 2
    value
    high := value + 2
    closed := f.significand % 2 == 0
    place := f.exponent - 2 }

/-- Whole numbers `a` and `b` with `a / b = 10 ^ k * 2 ^ (- place)`. -/
def gridStep (k place : Int) : Nat × Nat :=
  (Nat.pow 10 k.toNat <<< (-place).toNat, Nat.pow 10 (-k).toNat <<< place.toNat)

/-- The exponent of the first decimal digit of the float. -/
def RoundingInterval.leadingPlace (r : RoundingInterval) : Int :=
  let guess := ((r.value.log2 : Int) + r.place) * 30103 / 100000
  let (a, b) := gridStep (guess + 1) r.place
  if a ≤ r.value * b then guess + 1 else guess

/-- The nearer neighbour of the float on the grid of multiples of `10 ^ k`, among those that
round to it; an exact tie goes to the even one. -/
def RoundingInterval.onGrid? (r : RoundingInterval) (k : Int) : Option Nat :=
  let (a, b) := gridStep k r.place
  let below := r.value * b / a
  let inside (n : Nat) : Bool :=
    if r.closed then r.low * b ≤ n * a && n * a ≤ r.high * b
    else r.low * b < n * a && n * a < r.high * b
  let underBy := r.value * b - below * a
  let overBy := (below + 1) * a - r.value * b
  match inside below, inside (below + 1) with
  | false, false => none
  | true, false => some below
  | false, true => some (below + 1)
  | true, true =>
    if underBy < overBy || (underBy == overBy && below % 2 == 0) then some below
    else some (below + 1)

/-- The shortest decimal that rounds to a positive float; seventeen digits always do. -/
def Fraction.shortest (f : Fraction) : Decimal :=
  let r := f.interval
  let lead := r.leadingPlace
  let grids := (List.range 17).map fun (n : Nat) => lead - n
  match grids.findSome? fun k => (r.onGrid? k).map fun digits => Decimal.mk digits k with
  | some decimal => decimal
  | none => ⟨f.significand, 0⟩

end SqlTemplate.Binary64

namespace SqlTemplate

/-- Where a float is written positionally and how an exponent is marked. -/
structure FloatFormat where
  /-- The least exponent of the first digit that is written positionally. -/
  leastPositional : Int
  /-- The least exponent of the first digit that is no longer written positionally. -/
  firstScientific : Int
  /-- A positive exponent carries a sign. -/
  plusSign : Bool

namespace FloatFormat

/-- The digits of a decimal, without the zeros it ends with, and the exponent of the first. -/
def significantDigits (decimal : Binary64.Decimal) : Text × Int :=
  let digits := Text.ofNat decimal.digits
  ((digits.reverse.dropWhile (· == '0')).reverse, decimal.exponent + digits.length - 1)

/-- Positional notation with at least one digit on each side of the point. -/
def positional (digits : Text) (exponent : Int) : Text :=
  if exponent < 0 then
    ['0', '.'] ++ List.replicate (-exponent - 1).toNat '0' ++ digits
  else
    let whole := exponent.toNat + 1
    let rest := digits.drop whole
    digits.take whole ++ List.replicate (whole - digits.length) '0' ++ ['.'] ++
      if rest.isEmpty then ['0'] else rest

/-- One digit before the point, and a power of ten. -/
def scientific (format : FloatFormat) (digits : Text) (exponent : Int) : Text :=
  let rest := digits.drop 1
  digits.take 1 ++ (if rest.isEmpty then [] else '.' :: rest) ++ ['e'] ++
    (if 0 ≤ exponent && format.plusSign then ['+'] else []) ++ Text.ofInt exponent

/-- The text of a finite float. -/
def write (format : FloatFormat) (x : Float) : Text :=
  let f := Binary64.fraction x
  let sign := if f.negative then ['-'] else []
  if f.significand = 0 then sign ++ ['0', '.', '0']
  else
    let (digits, exponent) := significantDigits f.shortest
    sign ++
      if format.leastPositional ≤ exponent && exponent < format.firstScientific then
        positional digits exponent
      else format.scientific digits exponent

end FloatFormat

end SqlTemplate
