/-!
# Binary floating point numbers as exact fractions

A finite 64-bit float is a whole number times a power of two. Decimal reading and printing and
the remainder work on these fractions with exact arithmetic, and round once at the end.
-/

namespace SqlTemplate.Binary64

/-- The finite number `± significand * 2 ^ exponent`. -/
structure Fraction where
  negative : Bool
  significand : Nat
  exponent : Int

/-- The leading bit of a significand, which the bits of a float leave out: `2 ^ 52`. -/
def leadingBit : Nat := 1 <<< 52

/-- The fraction that the bits of a finite float stand for. -/
def fraction (x : Float) : Fraction :=
  let bits := x.toBits.toNat
  let field : Nat := (bits >>> 52) % 2048
  let low : Nat := bits % leadingBit
  { negative := bits >>> 63 == 1
    significand := if field = 0 then low else leadingBit + low
    exponent := if field = 0 then -1074 else (field : Int) - 1075 }

/-- The whole number nearest to `num / den`; a tie goes to the even neighbour. -/
def roundDiv (num den : Nat) : Nat :=
  let quotient := num / den
  let rest := num % den
  if den < 2 * rest || (2 * rest == den && quotient % 2 == 1) then quotient + 1 else quotient

/-- `num / den * 2 ^ (- exponent)` as a fraction of two whole numbers. -/
def scaleDown (num den : Nat) (exponent : Int) : Nat × Nat :=
  if 0 ≤ exponent then (num, den <<< exponent.toNat) else (num <<< (-exponent).toNat, den)

/-- The exponent of the last place of the float nearest to the positive number `num / den`: the
scaled number lies between `2 ^ 52` and `2 ^ 53`, or the exponent is the least there is. -/
def lastPlace (num den : Nat) : Int :=
  let guess : Int := (num.log2 : Int) - den.log2 - 52
  let (n, d) := scaleDown num den guess
  max (if n < d * leadingBit then guess - 1 else guess) (-1074)

/-- The bits of the float nearest to `num / den`. A carry out of the significand moves into the
exponent by itself, and what lies beyond the largest float becomes infinity. -/
def nearestBits (num den : Nat) : Nat :=
  if num = 0 then 0
  else
    let place := lastPlace num den
    let (n, d) := scaleDown num den place
    let significand := roundDiv n d
    if significand < leadingBit then significand
    else min ((place + 1074).toNat * leadingBit + significand) (2047 * leadingBit)

/-- The float nearest to `± num / den`, a tie going to the even significand. -/
def ofRatio (negative : Bool) (num den : Nat) : Float :=
  Float.ofBits (UInt64.ofNat ((if negative then 1 <<< 63 else 0) + nearestBits num den))

/-- The float nearest to a whole number. -/
def ofInt (n : Int) : Float := ofRatio (decide (n < 0)) n.natAbs 1

/-- The exact remainder of `x` by `y` with the sign of `x`, as the quotient is cut toward zero. -/
def remainder (x y : Float) : Float :=
  if x.isNaN || y.isNaN || x.isInf || y == 0 then 0 / 0
  else if y.isInf then x
  else
    let a := fraction x
    let b := fraction y
    let place := min a.exponent b.exponent
    let rest := a.significand <<< (a.exponent - place).toNat %
      b.significand <<< (b.exponent - place).toNat
    let (n, d) := scaleDown rest 1 (-place)
    ofRatio a.negative n d

end SqlTemplate.Binary64
