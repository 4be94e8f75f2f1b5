/-
  TreeShell.Text.Wide — text in octets of two or four a unit.

  A unit of two octets is a character of the basic plane or half of another: a high
  surrogate followed by a low one. A surrogate that stands alone is no character, so units
  with one are no text. Octets that do not fill the last unit, and units above the last code
  point, cannot be read.
-/

import TreeShell.Text

namespace TreeShell.Text.Wide

/-- Which octet of a unit comes first. -/
inductive Order where
  | big
  | little
  deriving DecidableEq

/-! ## Surrogates -/

def isHighSurrogate (n : Nat) : Bool := 0xD800 ≤ n && n < 0xDC00

def isLowSurrogate (n : Nat) : Bool := 0xDC00 ≤ n && n < 0xE000

/-- The character of a unit that is not half of one. -/
def ofCodeUnit? (n : Nat) : Option Char :=
  if isHighSurrogate n || isLowSurrogate n then none else some (Char.ofNat n)

def ofSurrogates (high low : Nat) : Char :=
  Char.ofNat (0x10000 + (high - 0xD800) * 0x400 + (low - 0xDC00))

/-! ## Two octets a unit -/

def pair : Order → Nat → Nat → Nat
  | .big, a, b => 0x100 * a + b
  | .little, a, b => 0x100 * b + a

def units16? (order : Order) : List Nat → Option (List Nat)
  | [] => some []
  | [_] => none
  | a :: b :: rest => (units16? order rest).map (pair order a b :: ·)

def ofUnits16? : List Nat → Option Text
  | [] => some []
  | [n] => (ofCodeUnit? n).map ([·])
  | n :: m :: rest =>
    if isHighSurrogate n && isLowSurrogate m then (ofUnits16? rest).map (ofSurrogates n m :: ·)
    else List.cons <$> ofCodeUnit? n <*> ofUnits16? (m :: rest)

/-! ## Four octets a unit -/

def quad : Order → Nat → Nat → Nat → Nat → Nat
  | .big, a, b, c, d => 0x10000 * pair .big a b + pair .big c d
  | .little, a, b, c, d => 0x10000 * pair .little c d + pair .little a b

def lastCodePoint : Nat := 0x10FFFF

def units32? (order : Order) : List Nat → Option (List Nat)
  | [] => some []
  | a :: b :: c :: d :: rest =>
    let n := quad order a b c d
    if lastCodePoint < n then none else (units32? order rest).map (n :: ·)
  | _ => none

def ofUnits32? (units : List Nat) : Option Text := units.mapM ofCodeUnit?

example : (units16? .little [0x3D, 0xD8, 0x00, 0xDE]).map ofUnits16? = some (some "😀".toList) := by decide

example : (units32? .big [0, 0, 0, 0x37]).map ofUnits32? = some (some ['7']) := by decide

end TreeShell.Text.Wide
