import SqlTemplate.Decimal.Binary64
import SqlTemplate.Text

/-!
# Reading decimals

Two readings of decimal text as a float. Text that a program converts is rounded once, correctly.
A literal of a JSON document is scaled in floating point: the digits that fit 64 bits, times or
divided by a power of ten.
-/

namespace SqlTemplate

/-- An unsigned decimal: the digits before and after the point, and the power of ten. -/
structure DecimalText where
  whole : Text
  part : Text
  exponent : Int

namespace DecimalText

/-- The digits that `text` starts with, and the rest. -/
def spanDigits (text : Text) : Text × Text := text.spanWhile Char.isDigit

/-- A power of ten after `e` or `E`; no such mark means the power `0`. -/
def exponent? : Text → Option (Int × Text)
  | 'e' :: rest => signed? rest
  | 'E' :: rest => signed? rest
  | text => some (0, text)
where
  /-- The digits of the power, after at most one sign. -/
  signed? (text : Text) : Option (Int × Text) :=
    let (negative, unsigned) : Bool × Text := match text with
      | '+' :: rest => (false, rest)
      | '-' :: rest => (true, rest)
      | _ => (false, text)
    let (digits, rest) := spanDigits unsigned
    if digits.isEmpty then none
    else
      let power : Int := Text.digitsValue 0 digits
      some (if negative then -power else power, rest)

/-- A decimal with at least one digit before or after the point, and the rest of the text. -/
def parse? (text : Text) : Option (DecimalText × Text) :=
  let (whole, afterWhole) := spanDigits text
  let (part, afterPart) := match afterWhole with
    | '.' :: rest => spanDigits rest
    | _ => ([], afterWhole)
  if whole.isEmpty && part.isEmpty then none
  else (exponent? afterPart).map fun (exponent, rest) => (⟨whole, part, exponent⟩, rest)

/-- The float nearest to the decimal. A decimal of more than four hundred places on either side
of the point is infinite or zero. -/
def toFloat (negative : Bool) (d : DecimalText) : Float :=
  let digits := Text.digitsValue 0 (d.whole ++ d.part)
  let power := d.exponent - d.part.length
  let places := power + (Text.ofNat digits).length
  if digits = 0 || places < -400 then Binary64.ofRatio negative 0 1
  else if 400 < places then Binary64.ofRatio negative (Nat.pow 10 400) 1
  else if 0 ≤ power then Binary64.ofRatio negative (digits * Nat.pow 10 power.toNat) 1
  else Binary64.ofRatio negative digits (Nat.pow 10 (-power).toNat)

end DecimalText

namespace Text

/-- The float that the whole text denotes: a decimal, `inf`, `infinity` or `nan`, after at most
one sign. -/
def toFloat? (text : Text) : Option Float :=
  let (negative, unsigned) := splitSign text
  if sameLetters unsigned "inf".toList || sameLetters unsigned "infinity".toList then
    some (if negative then -1 / 0 else 1 / 0)
  else if sameLetters unsigned "nan".toList then some (0 / 0)
  else
    match DecimalText.parse? unsigned with
    | some (decimal, []) => some (decimal.toFloat negative)
    | _ => none

end Text

namespace JsonNumber

/-- The digits of a literal that fit 64 bits, and the number of digits that follow them. -/
def significand (start : Nat) : Text → Nat × Nat
  | [] => (start, 0)
  | c :: rest =>
    let next := Text.digitsValue start [c]
    if next < UInt64.size then significand next rest else (start, rest.length + 1)

/-- `x * 10 ^ power` by one product or quotient, after quotients by `10 ^ 308` for a power below
`-308`. There is no result beyond the largest float. -/
def scale? (x : Float) (power : Int) : Option Float :=
  let tens (n : Nat) : Float := Binary64.ofRatio false (Nat.pow 10 n) 1
  if 308 < power then if x == 0 then some x else none
  else if 0 ≤ power then
    let y := x * tens power.toNat
    if y.isInf then none else some y
  else
    let whole := (-power).toNat
    -- after three quotients nothing is left of any float
    let steps := if whole ≤ 308 then 0 else min ((whole - 1) / 308) 3
    let x := steps.repeat (· / tens 308) x
    some (if 308 < whole - 308 * steps then x else x / tens (whole - 308 * steps))

/-- The float that the literal with these parts denotes. -/
def toFloat? (negative : Bool) (d : DecimalText) : Option Float :=
  let (digits, dropped) := significand 0 d.whole
  let (digits, ignored) := significand digits d.part
  let power : Int := (dropped : Int) + ignored - d.part.length + d.exponent
  (scale? (Binary64.ofRatio false digits 1) power).map fun x => if negative then -x else x

end JsonNumber

end SqlTemplate
