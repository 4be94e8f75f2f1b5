/-
  TreeShell.Decimal — the text of binary numbers and their reading from decimals.

  Numbers are written with the fewest digits that read back, positionally where the
  decimal exponent is in the layout's range and with an exponent elsewhere.
-/

import TreeShell.Decimal.Shortest
import TreeShell.Text

namespace TreeShell.Decimal

/-- The free choices of a number format. -/
structure Layout where
  /-- The exponents that are written positionally. -/
  least : Int
  greatest : Int
  exponentMark : Char
  /-- At least so many digits in an exponent; its sign is always written. -/
  exponentWidth : Nat
  infinity : Text
  nan : Text

/-- Numbers from 0.0001 to below 10^16 are positional and keep one decimal place. -/
def plain : Layout := ⟨-4, 15, 'e', 2, "inf", "nan"⟩

def stripZeros (digits : Text) : Text := Text.dropEndWhile (· == '0') digits

/-- The digits with the point after the first `places`, zeros filled in around. -/
def positional (digits : Text) (places : Int) : Text :=
  if places ≤ 0 then "0." ++ List.replicate (-places).toNat '0' ++ digits
  else
    let whole := digits.take places.toNat
    let rest := digits.drop places.toNat
    whole ++ List.replicate (places.toNat - whole.length) '0' ++ '.' ::
      (if rest = [] then ['0'] else rest)

def exponential (l : Layout) (digits : Text) (exponent : Int) : Text :=
  let mantissa := match digits with
    | [] => []
    | [d] => [d]
    | d :: rest => d :: '.' :: rest
  let power := Text.ofNat exponent.natAbs
  mantissa ++ l.exponentMark :: (if exponent < 0 then '-' else '+') ::
    (List.replicate (l.exponentWidth - power.length) '0' ++ power)

def Scaled.text (l : Layout) (d : Scaled) : Text :=
  let written := Text.ofNat d.digits
  let places := d.scale + written.length
  let digits := stripZeros written
  if l.least ≤ places - 1 && places - 1 ≤ l.greatest then positional digits places
  else exponential l digits (places - 1)

/-- The text of a double in the layout `l`; a negative number, zero included, has a minus
    sign. -/
def text (l : Layout) (x : Float) : Text :=
  let bits := x.toBits.toNat
  let negative := twoTo 63 ≤ bits
  let magnitude := bits % twoTo 63
  if 0x7FF * twoTo 52 < magnitude then l.nan
  else
    let unsigned :=
      if magnitude = 0x7FF * twoTo 52 then l.infinity
      else if magnitude = 0 then "0.0"
      else (Interval.ofBits magnitude).shortest.text l
    if negative then '-' :: unsigned else unsigned

/-- A finite double without its fraction. -/
def integerPart (x : Float) : Int :=
  let bits := x.toBits.toNat
  let biased := bits / twoTo 52 % twoTo 11
  let m := twoTo 52 + bits % twoTo 52
  let magnitude : Nat := if biased = 0 then 0 else m * twoTo (biased - 1075) / twoTo (1075 - biased)
  if bits < twoTo 63 then magnitude else -magnitude

/-- The double nearest to `digits * 10^scale`. Far outside the range of doubles the power
    of ten is not computed. -/
def nearest (negative : Bool) (digits : Nat) (scale : Int) : Float :=
  let top := scale + (Text.ofNat digits).length
  let magnitude : Float :=
    if digits = 0 || top < -400 then 0.0
    else if 400 < top then 1.0 / 0.0
    else Float.ofScientific digits (decide (scale < 0)) scale.natAbs
  if negative then -magnitude else magnitude

end TreeShell.Decimal
