/-
  TreeShell.Text.Punycode — texts of any characters, written in ASCII.

  The ASCII characters of a text come first, in their order, with a hyphen behind them.
  The others follow by ascending code point, each as the distance that a walk over all
  pairs of a code point and a place has to go from the one before. A distance is a number
  of digits `a` to `z` and `0` to `9`, the least first, whose weights adapt to the size of
  the distances so far.
-/

import TreeShell.Text

namespace TreeShell.Text.Punycode

def digit (n : Nat) : Char := Char.ofNat (if n < 26 then 'a'.toNat + n else '0'.toNat + (n - 26))

/-- The least value of a digit with more digits behind it, at the `place`-th multiple of the
    base. -/
def threshold (place bias : Nat) : Nat := max 1 (min 26 (place - bias))

theorem one_le_threshold (place bias : Nat) : 1 ≤ threshold place bias := by
  unfold threshold; omega

/-- The digits of a distance. -/
def digits (bias place n : Nat) : Text :=
  let t := threshold place bias
  if n < t then [digit n]
  else digit (t + (n - t) % (36 - t)) :: digits bias (place + 36) ((n - t) / (36 - t))
termination_by n
decreasing_by
  have := one_le_threshold place bias
  have := Nat.div_le_self (n - threshold place bias) (36 - threshold place bias)
  omega

/-- How often a distance is divided before it is small, times the base, and what is left. -/
def reduced (place n : Nat) : Nat × Nat :=
  if 455 < n then reduced (place + 36) (n / 35) else (place, n)
termination_by n
decreasing_by omega

/-- The bias after a distance, the first one or not, with so many characters written. -/
def adapted (first : Bool) (distance written : Nat) : Nat :=
  let scaled := if first then distance / 700 else distance / 2
  let (place, n) := reduced 0 (scaled + scaled / written)
  place + 36 * n / (n + 38)

structure State where
  output : Text
  distance : Nat
  bias : Nat
  /-- The number of characters written. -/
  written : Nat

/-- One character passed on the walk at code point `n`, with `ascii` of them in ASCII. -/
def pass (ascii n : Nat) (s : State) (c : Char) : State :=
  if c.toNat < n then { s with distance := s.distance + 1 }
  else if c.toNat = n then
    { output := s.output ++ digits s.bias 36 s.distance
      distance := 0
      bias := adapted (s.written = ascii) s.distance (s.written + 1)
      written := s.written + 1 }
  else s

/-- The walk over the code points still to be written, ascending, from code point `n`. -/
def walk (t : Text) (ascii : Nat) : List Nat → Nat → State → State
  | [], _, s => s
  | next :: rest, n, s =>
    let s := { s with distance := s.distance + (next - n) * (s.written + 1) }
    let s := t.foldl (pass ascii next) s
    walk t ascii rest (next + 1) { s with distance := s.distance + 1 }

def isAscii (c : Char) : Bool := c.toNat < 0x80

def encode (t : Text) : Text :=
  let ascii := t.filter isAscii
  let others := ((t.filter (!isAscii ·)).map Char.toNat).eraseDups.mergeSort
  let start := if ascii = [] then [] else ascii ++ ['-']
  (walk t ascii.length others 0x80 ⟨start, 0, 72, ascii.length⟩).output

/-! ## Reading -/

def digitValue? (c : Char) : Option Nat :=
  if c.isAlpha then some (c.toLower.toNat - 'a'.toNat)
  else if c.isDigit then some (c.toNat - '0'.toNat + 26)
  else none

/-- The distance that the digits at the start tell, and what follows them. -/
def distance? (bias place weight sum : Nat) : Text → Option (Nat × Text)
  | [] => none
  | c :: rest => do
    let d ← digitValue? c
    let t := threshold place bias
    let sum := sum + d * weight
    if d < t then some (sum, rest) else distance? bias (place + 36) (weight * (36 - t)) sum rest

/-- Puts the characters that the distances in a text tell among those of `output`; the walk
    goes on from code point `n` and place `i`. There are at most `fuel` distances. -/
def insertAll (fuel : Nat) (output : Text) (n i bias : Nat) (first : Bool) : Text → Option Text
  | [] => some output
  | t =>
    match fuel with
    | 0 => none
    | fuel + 1 => do
      let (distance, rest) ← distance? bias 36 1 0 t
      let places := output.length + 1
      let n := n + (i + distance) / places
      let i := (i + distance) % places
      if n.isValidChar then
        insertAll fuel (output.take i ++ Char.ofNat n :: output.drop i) n (i + 1)
          (adapted first distance places) false rest
      else none

/-- The text that is so written, if there is one. -/
def decode? (written : Text) : Option Text :=
  let digits := (written.reverse.takeWhile (· != '-')).reverse
  let ascii := written.take (written.length - digits.length - 1)
  insertAll digits.length ascii 0x80 0 72 true digits

example : decode? "bcher-kva" = some "bücher".toList := by decide +kernel

end TreeShell.Text.Punycode
