/-
  TreeShell.Schema — reading typed values out of JSON, with every fault reported.

  A reading either gives a value or the problems found, in the order of the fields, list
  elements and entries. Each problem says where it is, seen from the value that is read,
  and shows the part that it is about. Fields that a record does not have are ignored.

  Texts and containers are taken only as such. A boolean may also be one of the words or
  numbers for it, an integer a whole double or a text that spells one, a point in time a
  text or a number of seconds, and it is kept as it is written (`Stamp`). Doubles stand for
  integers of 64 bits only.
-/

import TreeShell.Instant
import TreeShell.Json.Display
import TreeShell.Text.Blank

namespace TreeShell.Schema

open Decimal (twoTo integerPart)

inductive Step where
  | key (name : Text)
  | index (i : Nat)
  deriving DecidableEq

inductive Fault where
  | missing
  | notText
  | notList
  | notMap
  | notRecord
  /-- What stands where the record of this name is read is no object. -/
  | notInstance (record : Text)
  | notBool
  | unreadableBool
  | notInt
  | unreadableInt
  | oversizedInt
  | fractional
  | notFinite
  | notInstant
  | badInstant (why : Instant.Fault)
  | badDate (why : Instant.Fault)
  | notAmong (expected : List Text)
  | untagged (field : Text)
  | unknownTag (field : Text) (tag : Json) (expected : List Text)
  | refused (why : Text)

structure Problem where
  fault : Fault
  loc : List Step
  input : Json

/-! ## Wording -/

def Fault.code : Fault → Text
  | .missing => "missing"
  | .notText => "string_type"
  | .notList => "list_type"
  | .notMap => "dict_type"
  | .notRecord => "model_attributes_type"
  | .notInstance _ => "model_type"
  | .notBool => "bool_type"
  | .unreadableBool => "bool_parsing"
  | .notInt => "int_type"
  | .unreadableInt => "int_parsing"
  | .oversizedInt => "int_parsing_size"
  | .fractional => "int_from_float"
  | .notFinite => "finite_number"
  | .notInstant => "datetime_type"
  | .badInstant _ => "datetime_parsing"
  | .badDate _ => "datetime_from_date_parsing"
  | .notAmong _ => "literal_error"
  | .untagged _ => "union_tag_not_found"
  | .unknownTag .. => "union_tag_invalid"
  | .refused _ => "value_error"

def ticked (s : Text) : Text := '\'' :: s ++ ['\'']

/-- The names in single quotes, the last after `or`. -/
def alternatives : List Text → Text
  | [] => []
  | [one] => ticked one
  | [one, other] => ticked one ++ " or " ++ ticked other
  | one :: rest => ticked one ++ ", " ++ alternatives rest

def Fault.message : Fault → Text
  | .missing => "Field required"
  | .notText => "Input should be a valid string"
  | .notList => "Input should be a valid list"
  | .notMap => "Input should be a valid dictionary"
  | .notRecord => "Input should be a valid dictionary or object to extract fields from"
  | .notInstance record => "Input should be a valid dictionary or instance of " ++ record
  | .notBool => "Input should be a valid boolean"
  | .unreadableBool => "Input should be a valid boolean, unable to interpret input"
  | .notInt => "Input should be a valid integer"
  | .unreadableInt => "Input should be a valid integer, unable to parse string as an integer"
  | .oversizedInt => "Unable to parse input string as an integer, exceeded maximum size"
  | .fractional => "Input should be a valid integer, got a number with a fractional part"
  | .notFinite => "Input should be a finite number"
  | .notInstant => "Input should be a valid datetime"
  | .badInstant why => "Input should be a valid datetime, " ++ why.message
  | .badDate why => "Input should be a valid datetime or date, " ++ why.message
  | .notAmong expected => "Input should be " ++ alternatives expected
  | .untagged field => "Unable to extract tag using discriminator " ++ ticked field
  | .unknownTag field tag expected =>
    "Input tag " ++ ticked tag.display ++ " found using " ++ ticked field ++
      " does not match any of the expected tags: " ++ Text.join ", " (expected.map ticked)
  | .refused why => "Value error, " ++ why

def Step.toJson : Step → Json
  | .key name => .str name
  | .index i => .int i

def Problem.toJson (p : Problem) : Json :=
  .obj [("type", .str p.fault.code), ("loc", .arr (p.loc.map Step.toJson)),
    ("msg", .str p.fault.message), ("input", p.input)]

/-! ## Readings -/

inductive Checked (α : Type) where
  | valid (a : α)
  | invalid (problems : List Problem)

namespace Checked

def map {α β : Type} (f : α → β) : Checked α → Checked β
  | valid a => valid (f a)
  | invalid ps => invalid ps

/-- Both faults are kept, the function's first. -/
def app {α β : Type} : Checked (α → β) → Checked α → Checked β
  | valid f, valid a => valid (f a)
  | valid _, invalid ps => invalid ps
  | invalid ps, valid _ => invalid ps
  | invalid ps, invalid qs => invalid (ps ++ qs)

instance : Applicative Checked where
  pure := valid
  map := map
  seq f a := app f (a ())

/-- The same reading seen from one step further out. -/
def under {α : Type} (step : Step) : Checked α → Checked α
  | valid a => valid a
  | invalid ps => invalid (ps.map fun p => { p with loc := step :: p.loc })

def fault {α : Type} (f : Fault) (input : Json) : Checked α := invalid [⟨f, [], input⟩]

end Checked

/-- How a value of type `α` is read. -/
abbrev Reading (α : Type) := Json → Checked α

open Checked

def text : Reading Text
  | .str s => valid s
  | x => fault .notText x

def any : Reading Json := valid

def elements {α : Type} (read : Reading α) : Nat → List Json → Checked (List α)
  | _, [] => valid []
  | i, x :: xs => List.cons <$> under (.index i) (read x) <*> elements read (i + 1) xs

def list {α : Type} (read : Reading α) : Reading (List α)
  | .arr xs => elements read 0 xs
  | x => fault .notList x

def entries {α : Type} (read : Reading α) : List (Text × Json) → Checked (List (Text × α))
  | [] => valid []
  | (key, x) :: rest =>
    (fun a others => (key, a) :: others) <$> under (.key key) (read x) <*> entries read rest

def map {α : Type} (read : Reading α) : Reading (List (Text × α))
  | .obj fields => entries read fields
  | x => fault .notMap x

def optional {α : Type} (read : Reading α) : Reading (Option α)
  | .null => valid none
  | x => some <$> read x

/-- One of the names, as the value that stands for it. -/
def among {α : Type} (choices : List (Text × α)) : Reading α := fun x =>
  let refusal := fault (.notAmong (choices.map Prod.fst)) x
  match x with
  | .str s => ((choices.find? fun c => c.1 == s).map fun c => valid c.2).getD refusal
  | _ => refusal

/-! ### Integers -/

/-- Integers from here on, in size, do not fit 64 bits; the least one that does is this far
    below zero. -/
def wordLimit : Nat := twoTo 63

/-- Whether the integer fits 64 bits. -/
def isWord (n : Int) : Bool := -(wordLimit : Int) ≤ n && n < wordLimit

/-- The integer that a double stands for; its size is below the limit. -/
def intOf (f : Float) : Except Fault Int :=
  if f.isNaN || f.isInf then .error .notFinite
  else if f.floor == f then
    let n := integerPart f
    if n.natAbs < wordLimit then .ok n else .error .oversizedInt
  else .error .fractional

/-- What follows the first digit of a number that starts with zeros: the zeros, and
    underscores among them, are dropped up to a digit or a minus sign. The last of them
    stays in front of a point and at the end. -/
def afterZeros (last : Char) : Text → Option Text
  | [] => some [last]
  | c :: rest =>
    if c = '0' || c = '_' then afterZeros c rest
    else if c.isDigit || c = '-' then some (c :: rest)
    else if c = '.' then some (last :: c :: rest)
    else none

def withoutZeros : Text → Option Text
  | c :: rest =>
    if c = '0' then afterZeros c rest
    else if c.isDigit then some (c :: rest)
    else none
  | [] => none

/-- A sign may stand before the zeros; a plus is dropped with them. -/
def withoutSignedZeros : Text → Option Text
  | '-' :: rest => (withoutZeros rest).map ('-' :: ·)
  | '+' :: rest => withoutZeros rest
  | s => withoutZeros s

/-- A fraction of zeros is allowed behind the integer. -/
def withoutZeroFraction (s : Text) : Text :=
  match s.span (· != '.') with
  | (whole, '.' :: zeros) => if zeros ≠ [] && zeros.all (· == '0') then whole else s
  | _ => s

/-- Underscores are allowed inside, one at a time. -/
def withoutUnderscores (s : Text) : Text :=
  if (Text.splitOn '_' s).contains [] then s else s.filter (· ≠ '_')

def maxSpelled : Nat := 4300

/-- Zero, or digits that start with another one. -/
def plainNatural? : Text → Option Nat
  | ['0'] => some 0
  | '0' :: _ => none
  | s => if Text.isNumeral s then some (Text.natural s) else none

def plainInt? : Text → Option Int
  | '-' :: digits => (plainNatural? digits).map fun n => -(n : Int)
  | digits => (plainNatural? digits).map Int.ofNat

/-- The integer that a text spells, white space around it aside. -/
def spelledInt (s : Text) : Except Fault Int :=
  match withoutSignedZeros (Text.trimWhite s) with
  | none => .error .unreadableInt
  | some s =>
    let s := withoutUnderscores (withoutZeroFraction s)
    if maxSpelled < s.length then .error .oversizedInt
    else
      match plainInt? s with
      | some n => .ok n
      | none => .error .unreadableInt

def ofExcept {α : Type} (x : Json) : Except Fault α → Checked α
  | .ok a => valid a
  | .error f => fault f x

def int : Reading Int
  | .int n => valid n
  | .bool b => valid (if b then 1 else 0)
  | x@(.float f) => ofExcept x (intOf f)
  | x@(.str s) => ofExcept x (spelledInt s)
  | x => fault .notInt x

/-! ### Booleans -/

def trueWords : List Text := ["true", "t", "yes", "y", "on", "1"]

def falseWords : List Text := ["false", "f", "no", "n", "off", "0"]

/-- Zero and one; other numbers are taken for a boolean only in so far as they fit 64
    bits. -/
def boolOf (n : Int) : Except Fault Bool :=
  if n = 0 then .ok false
  else if n = 1 then .ok true
  else if isWord n then .error .unreadableBool
  else .error .notBool

def spelledBool (s : Text) : Except Fault Bool :=
  let word := s.map Char.toLower
  if trueWords.contains word then .ok true
  else if falseWords.contains word then .ok false
  else .error .unreadableBool

def bool : Reading Bool
  | .bool b => valid b
  | x@(.int n) => ofExcept x (boolOf n)
  | x@(.float f) =>
    match intOf f with
    | .ok n => ofExcept x (boolOf n)
    | .error _ => fault .notBool x
  | x@(.str s) => ofExcept x (spelledBool s)
  | x => fault .notBool x

/-! ### Points in time -/

/-- The integer of 64 bits that is nearest. -/
def clamped (n : Int) : Int := max (-(wordLimit : Int)) (min n (wordLimit - 1))

def yearOfInt (n : Int) (micros : Nat) : Except Fault Instant.Year :=
  match Instant.ofNumber (clamped n) micros with
  | .ok 0 => .error (.badInstant .yearZero)
  | .ok year => .ok year
  | .error why => .error (.badInstant why)

/-- The part of a double behind the point, in microseconds. -/
def microsOf (f : Float) : Nat :=
  if f.isInf then 0
  else
    let part := f - (if f < 0 then f.ceil else f.floor)
    (part.abs * 1000000.0).round.toUInt64.toNat

def yearOfFloat (f : Float) : Except Fault Instant.Year :=
  if f.isNaN then .error (.badInstant .notANumber)
  else if f.isInf then yearOfInt (if f < 0 then -(wordLimit : Int) else wordLimit) 0
  else yearOfInt (integerPart f.floor) (microsOf f)

/-- The largest size of an integer that rounds to a double. -/
def roundingLimit : Nat := twoTo 1024 - twoTo 970

def yearOfText (s : Text) : Except Fault Instant.Year :=
  match Instant.ofText s with
  | .ok year => .ok year
  | .error (.instant why) => .error (.badInstant why)
  | .error (.date why) => .error (.badDate why)

/-- The year of the point in time that a value tells. -/
def yearOf : Json → Except Fault Instant.Year
  | .str s => yearOfText s
  | .int n => if n.natAbs < roundingLimit then yearOfInt n 0 else .error .notInstant
  | .float f => yearOfFloat f
  | _ => .error .notInstant

/-- A point in time, kept as it is written. -/
structure Stamp where
  written : Json
  isInstant : (yearOf written).isOk = true

def instant : Reading Stamp := fun x =>
  match h : yearOf x with
  | .ok _ => valid ⟨x, by rw [h]; rfl⟩
  | .error f => fault f x

/-! ### Records -/

def field {α : Type} (fields : List (Text × Json)) (name : Text) (read : Reading α) : Checked α :=
  under (.key name) <|
    match Json.get? fields name with
    | some x => read x
    | none => fault .missing (.obj fields)

/-- A field that may be left out. -/
def fieldD {α : Type} (fields : List (Text × Json)) (name : Text) (read : Reading α) (default : α) :
    Checked α :=
  match Json.get? fields name with
  | some x => under (.key name) (read x)
  | none => valid default

/-- An object read field by field where the record called `name` is expected. -/
def record {α : Type} (name : Text) (read : List (Text × Json) → Checked α) : Reading α
  | .obj fields => read fields
  | x => fault (.notInstance name) x

end TreeShell.Schema
