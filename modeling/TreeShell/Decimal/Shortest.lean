/-
  TreeShell.Decimal.Shortest — the fewest decimal digits that read back as a given
  binary number.

  A positive double is `m * 2^q`. All reals between the two half-way points to its
  neighbours read back as it, the half-way points themselves when `m` is even. The grids
  of one, two, … seventeen significant digits are tried in this order; on the first grid
  with a point in the interval, which is then one of the value's two neighbours on it,
  the nearer point is taken, and of two equally near ones the even one.
-/

namespace TreeShell.Decimal

def twoTo (n : Nat) : Nat := Nat.pow 2 n

def tenTo (n : Nat) : Nat := Nat.pow 10 n

/-- A positive value and the ends of its interval, as numerators over `den`. -/
structure Interval where
  low : Nat
  value : Nat
  high : Nat
  den : Nat
  /-- Whether the ends belong to it. -/
  closed : Bool

/-- The number `digits * 10^scale`. -/
structure Scaled where
  digits : Nat
  scale : Int
  deriving DecidableEq, Repr

/-- The interval of a positive double, from its 63 bits below the sign. -/
def Interval.ofBits (bits : Nat) : Interval :=
  let biased := bits / twoTo 52
  let fraction := bits % twoTo 52
  let m := if biased = 0 then fraction else twoTo 52 + fraction
  let q : Int := ((if biased = 0 then 1 else biased : Nat) : Int) - 1075
  let unit := twoTo (q - 2).toNat
  { low := (4 * m - if fraction = 0 && 1 < biased then 1 else 2) * unit
    value := 4 * m * unit
    high := (4 * m + 2) * unit
    den := twoTo (2 - q).toNat
    closed := m % 2 = 0 }

namespace Interval

/-- Whether `num / (den * k)` lies inside, for the common factor `k`. -/
def holds (i : Interval) (k num : Nat) : Bool :=
  if i.closed then i.low * k ≤ num && num ≤ i.high * k else i.low * k < num && num < i.high * k

/-- The multiple of `10^scale` that reads back, if one does. -/
def onGrid (i : Interval) (scale : Int) : Option Nat :=
  let k := tenTo (-scale).toNat
  let step := i.den * tenTo scale.toNat
  let below := i.value * k / step
  match i.holds k (below * step), i.holds k ((below + 1) * step) with
  | false, false => none
  | true, false => some below
  | false, true => some (below + 1)
  | true, true =>
    let double := 2 * (i.value * k)
    let middle := (2 * below + 1) * step
    if double < middle then some below
    else if middle < double then some (below + 1)
    else some (if below % 2 = 0 then below else below + 1)

/-- The least exponent from `guess` on, at most `steps` above, whose power of ten
    exceeds the value. -/
def climb (i : Interval) : Nat → Int → Int
  | 0, guess => guess
  | steps + 1, guess =>
    if i.value * tenTo (-guess).toNat < i.den * tenTo guess.toNat then guess
    else i.climb steps (guess + 1)

/-- The exponent of the least power of ten above the value. -/
def magnitude (i : Interval) : Int :=
  let log2 : Int := (i.value.log2 : Int) - i.den.log2
  i.climb 4 (Int.fdiv (log2 * 30103) 100000)

/-- The first of the grids of `n`, `n + 1`, … digits with a point that reads back. -/
def search (i : Interval) (magnitude : Int) : Nat → Nat → Scaled
  | 0, n => ⟨i.value * tenTo n / i.den, -n⟩
  | left + 1, n =>
    match i.onGrid (magnitude - n) with
    | some digits => ⟨digits, magnitude - n⟩
    | none => i.search magnitude left (n + 1)

def shortest (i : Interval) : Scaled := i.search i.magnitude 17 1

end Interval

example : (Interval.ofBits 0x3FB999999999999A).shortest = ⟨1, -1⟩ := by decide +kernel

example : (Interval.ofBits 1).shortest = ⟨5, -324⟩ := by decide +kernel

end TreeShell.Decimal
