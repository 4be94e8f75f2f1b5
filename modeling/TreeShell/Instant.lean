/-
  TreeShell.Instant — points in time, as they are written.

  A point in time is written as a date and a time of day with an optional offset, as a
  date alone, or as a number of seconds since the start of 1970, of milliseconds if the
  number is large. Of it the library keeps the year only; what matters is which texts and
  numbers are taken, and what is said of the others.
-/

import TreeShell.Decimal
import TreeShell.Text.Utf8

namespace TreeShell.Instant

/-- What is wrong with a date or a number of seconds. -/
inductive Fault where
  | tooShort
  | trailing
  | separator
  | yearDigit
  | monthDigit
  | dayDigit
  | monthRange
  | dayRange
  | tooEarly
  | tooLate
  | notANumber
  | yearZero
  deriving DecidableEq

def Fault.message : Fault → Text
  | .tooShort => "input is too short"
  | .trailing => "unexpected extra characters at the end of the input"
  | .separator => "invalid date separator, expected `-`"
  | .yearDigit => "invalid character in year"
  | .monthDigit => "invalid character in month"
  | .dayDigit => "invalid character in day"
  | .monthRange => "month value is outside expected range of 1-12"
  | .dayRange => "day value is outside expected range"
  | .tooEarly => "dates before 0000 are not supported as unix timestamps"
  | .tooLate => "dates after 9999 are not supported as unix timestamps"
  | .notANumber => "NaN values not permitted"
  | .yearZero => "year 0 is out of range"

abbrev Year := Nat

/-! ## Numbers of seconds -/

/-- Numbers of larger size count milliseconds. -/
def largestSeconds : Nat := 20000000000

/-- The first second of the year 0. -/
def firstSecond : Int := -62167219200

/-- The last second of the year 9999. -/
def lastSecond : Int := 253402300799

/-- The year of a day, counted from the first of March of the year 0. -/
def yearOfDay (day : Nat) : Year :=
  let era := day / 146097
  let ofEra := day % 146097
  let yearOfEra := (ofEra - ofEra / 1460 + ofEra / 36524 - ofEra / 146096) / 365
  let ofYear := ofEra - (365 * yearOfEra + yearOfEra / 4 - yearOfEra / 100)
  400 * era + yearOfEra + (if 306 ≤ ofYear then 1 else 0)

/-- The days from the first of March of the year 0 to the start of 1970. -/
def daysBefore1970 : Int := 719468

def yearOfSecond (second : Int) : Except Fault Year :=
  if second < firstSecond then .error .tooEarly
  else if lastSecond < second then .error .tooLate
  else .ok (yearOfDay (Int.fdiv second 86400 + daysBefore1970).toNat)

/-- The year of a number of seconds, or of milliseconds, and `micros` microseconds more. -/
def ofNumber (n : Int) (micros : Nat) : Except Fault Year :=
  if n.natAbs ≤ largestSeconds then yearOfSecond (n + micros / 1000000)
  else
    let more := (Int.fmod n 1000).toNat * 1000 + micros
    yearOfSecond (Int.fdiv n 1000 + more / 1000000)

/-- The year of a number with a fraction. A large one counts milliseconds; if the seconds
    that it comes to are themselves a large number, they count milliseconds once more. -/
def ofDouble (x : Float) : Except Fault Year :=
  let seconds := if Float.ofNat largestSeconds < x.abs then x / 1000.0 else x
  let whole := seconds.floor
  ofNumber (Decimal.integerPart whole) ((seconds - whole) * 1000000.0).round.toUInt64.toNat

example : ofNumber 0 0 = .ok 1970 := rfl

/-! ## Dates -/

def digit (fault : Fault) (c : Char) : Except Fault Nat :=
  if c.isDigit then .ok (c.toNat - '0'.toNat) else .error fault

def two (fault : Fault) (a b : Char) : Except Fault Nat := do
  return 10 * (← digit fault a) + (← digit fault b)

def isLeap (year : Year) : Bool := year % 4 = 0 && (year % 100 ≠ 0 || year % 400 = 0)

/-- The days of a month; nothing for no month. -/
def daysIn (year : Year) (month : Nat) : Option Nat :=
  if month = 2 then some (if isLeap year then 29 else 28)
  else if [4, 6, 9, 11].contains month then some 30
  else if 1 ≤ month && month ≤ 12 then some 31
  else none

def require (fault : Fault) (condition : Bool) : Except Fault Unit :=
  if condition then .ok () else .error fault

/-- The year of the date at the start of a text, and what follows the date. -/
def date : Text → Except Fault (Year × Text)
  | y₁ :: y₂ :: y₃ :: y₄ :: s₁ :: m₁ :: m₂ :: s₂ :: d₁ :: d₂ :: rest => do
    let year := 100 * (← two .yearDigit y₁ y₂) + (← two .yearDigit y₃ y₄)
    require .separator (s₁ = '-')
    let month ← two .monthDigit m₁ m₂
    require .separator (s₂ = '-')
    let day ← two .dayDigit d₁ d₂
    match daysIn year month with
    | none => .error .monthRange
    | some days =>
      require .dayRange (1 ≤ day && day ≤ days)
      return (year, rest)
  | _ => .error .tooShort

def dateAlone (t : Text) : Except Fault Year := do
  let (year, rest) ← date t
  require .trailing (rest = [])
  return year

/-! ## Times of day -/

/-- A number of two digits below `limit`, and what follows it. -/
def twoBelow (limit : Nat) : Text → Option (Nat × Text)
  | a :: b :: rest =>
    if a.isDigit && b.isDigit && Text.natural [a, b] < limit then some (Text.natural [a, b], rest)
    else none
  | _ => none

/-- What follows the digits of a fraction of a second, if there is one. -/
def afterFraction : Text → Option Text
  | c :: rest =>
    if c = '.' || c = ',' then
      match rest.span Char.isDigit with
      | ([], _) => none
      | (_, rest) => some rest
    else some (c :: rest)
  | [] => some []

/-- What follows hours, minutes and, where they are given, seconds. -/
def afterTime (t : Text) : Option Text := do
  match ← twoBelow 24 t with
  | (_, ':' :: t) =>
    match ← twoBelow 60 t with
    | (_, ':' :: t) => afterFraction (← twoBelow 60 t).2
    | (_, rest) => some rest
  | _ => none

/-- Hours and minutes of an offset, with or without a colon between them, to the end. -/
def isOffset (t : Text) : Bool :=
  match twoBelow 24 t with
  | some (_, ':' :: rest) | some (_, rest) => (twoBelow 60 rest).any fun minutes => minutes.2 = []
  | none => false

/-- The octets of the minus sign, as characters. -/
def minusSign : Text := ['\u00e2', '\u0088', '\u0092']

/-- Nothing, the letter of world time, or an offset from it. -/
def isZone : Text → Bool
  | [] => true
  | c :: rest =>
    if c = 'Z' || c = 'z' then rest = []
    else if c = '+' || c = '-' then isOffset rest
    else Text.startsWith minusSign (c :: rest) && isOffset (rest.drop 2)

def dateTime (t : Text) : Option Year :=
  match date t with
  | .ok (year, c :: rest) =>
    if "Tt _".toList.contains c && (afterTime rest).any isZone then some year else none
  | _ => none

/-! ## Texts -/

/-- A number with an optional sign and an optional fraction. -/
structure Numeral where
  negative : Bool
  whole : Nat
  /-- Nothing for a number without a point. -/
  fraction : Option Text

def Numeral.ofUnsigned? (negative : Bool) (t : Text) : Option Numeral :=
  let (digits, rest) := t.span Char.isDigit
  match digits, rest with
  | [], _ => none
  | _, [] => some ⟨negative, Text.natural digits, none⟩
  | _, '.' :: fraction =>
    if fraction.all Char.isDigit then some ⟨negative, Text.natural digits, some fraction⟩ else none
  | _, _ => none

def Numeral.ofText? : Text → Option Numeral
  | '-' :: rest => ofUnsigned? true rest
  | '+' :: rest => ofUnsigned? false rest
  | t => ofUnsigned? false t

/-- The integer before the point. -/
def Numeral.toInt (n : Numeral) : Int := if n.negative then -(n.whole : Int) else n.whole

/-- The double for the number with this fraction; the digits are added one by one. -/
def Numeral.toDouble (n : Numeral) (fraction : Text) : Float :=
  let add : Float × Float → Char → Float × Float := fun (sum, place) c =>
    (sum + Float.ofNat (c.toNat - '0'.toNat) / place, place * 10.0)
  let size := (fraction.foldl add (Float.ofNat n.whole, 10.0)).1
  if n.negative then -size else size

def Numeral.year (n : Numeral) : Except Fault Year :=
  match n.fraction with
  | none => ofNumber n.toInt 0
  | some fraction => ofDouble (n.toDouble fraction)

/-- Integers from here on, in size, are no numbers of seconds. -/
def integerLimit : Nat := 9223372036854775808

def Numeral.isCount (n : Numeral) : Bool := n.whole < integerLimit

/-- Why a text is no point in time: it is one that cannot be kept, or it is read as a date
    for want of a time and fails as that. -/
inductive Refusal where
  | instant (fault : Fault)
  | date (fault : Fault)
  deriving DecidableEq

def keepable (year : Year) : Except Refusal Year :=
  if year = 0 then .error (.instant .yearZero) else .ok year

/-- The reading of a text that is no date with time. -/
def ofOtherText (t : Text) : Except Refusal Year :=
  match dateAlone t with
  | .ok year => keepable year
  | .error fault =>
    match Numeral.ofText? t with
    | none => .error (.date fault)
    | some n =>
      if n.isCount then
        match n.year with
        | .ok year => keepable year
        | .error range => .error (.date (if n.fraction.isNone then range else fault))
      else .error (.date fault)

/-- The year of the point in time that a text tells. Lengths count octets. -/
def ofText (text : Text) : Except Refusal Year :=
  let t := (Text.Utf8.encode text).map Char.ofNat
  match dateTime t with
  | some year => keepable year
  | none => ofOtherText t

example : ofText "2024-01-01 00:00:00+05:30" = .ok 2024 := rfl

example : ofText "2024-13-01" = .error (.date .monthRange) := rfl

end TreeShell.Instant
