/-
  TreeShell.Json.Reader — reading JSON text.

  The grammar is that of JSON with the three words `NaN`, `Infinity` and `-Infinity` as
  numbers. White space is space, tab, line feed and carriage return. A number without
  fraction and exponent is an integer of at most 4300 digits; any other is the nearest
  double. Of several fields with one key the last value counts, at the first one's place.
  A byte order mark in front is skipped. Lists and objects may stand in each other up to
  a depth that is given: it is the stack of the machine that sets it.

  Texts are of Unicode scalar values. An escape may also tell a surrogate that stands alone,
  half a character, which is none of them: such a text is read to its end and has no value.
  Of other faults the first is reported that a reader from left to right meets.
-/

import TreeShell.Decimal
import TreeShell.Json
import TreeShell.Text.Utf8
import TreeShell.Text.Wide

namespace TreeShell.Json.Reader

inductive Fault where
  /-- The text breaks the grammar. -/
  | malformed
  | tooDeep
  /-- An integer has too many digits: so many. -/
  | tooLong (digits : Nat)
  /-- The octets are not the encoding that their start promises. -/
  | undecodable
  /-- A string has half a character in it. -/
  | halfCharacter
  deriving DecidableEq

/-- What stands at the start of a text, and the rest. It is nothing if it has half a
    character in it. -/
abbrev Read (α : Type) := Except Fault (Option α × Text)

def orMalformed {α : Type} : Option α → Except Fault α
  | some a => .ok a
  | none => .error .malformed

def isSpace (c : Char) : Bool := c == ' ' || c == '\t' || c == '\n' || c == '\r'

def skip (t : Text) : Text := t.dropWhile isSpace

/-! ## Numbers -/

def takeDigits (t : Text) : Text × Text := t.span Char.isDigit

/-- `0`, or digits that do not start with a zero. -/
def whole : Text → Option (Text × Text)
  | '0' :: rest => some (['0'], rest)
  | t =>
    match takeDigits t with
    | ([], _) => none
    | split => some split

/-- The digits after a point; no digits, no fraction. -/
def fraction : Text → Option (Text × Text)
  | '.' :: rest =>
    match takeDigits rest with
    | ([], _) => none
    | split => some split
  | _ => none

def unsignedExponent (rest : Text) : Option (Nat × Text) :=
  match takeDigits rest with
  | ([], _) => none
  | (digits, rest) => some (Text.natural digits, rest)

def exponent : Text → Option (Int × Text)
  | c :: t =>
    if c = 'e' || c = 'E' then
      match t with
      | '-' :: rest => (unsignedExponent rest).map fun (n, rest) => (-(n : Int), rest)
      | '+' :: rest => (unsignedExponent rest).map fun (n, rest) => ((n : Int), rest)
      | rest => (unsignedExponent rest).map fun (n, rest) => ((n : Int), rest)
    else none
  | [] => none

def maxDigits : Nat := 4300

def integer (negative : Bool) (digits : Text) : Except Fault Json :=
  if maxDigits < digits.length then .error (.tooLong digits.length)
  else
    let n : Int := Text.natural digits
    .ok (.int (if negative then -n else n))

/-- The number that starts with these digits. -/
def number (negative : Bool) (digits rest : Text) : Read Json :=
  match fraction rest, exponent rest with
  | none, none => (integer negative digits).map fun n => (some n, rest)
  | none, some (e, rest) => .ok (some (.float (Decimal.nearest negative (Text.natural digits) e)), rest)
  | some (places, rest), _ =>
    let (e, rest) := (exponent rest).getD (0, rest)
    let scale := e - places.length
    .ok (some (.float (Decimal.nearest negative (Text.natural (digits ++ places)) scale)), rest)

/-! ## Strings -/

def codeUnit? (a b c d : Char) : Option Nat := do
  let digits ← [a, b, c, d].mapM Text.hexDigit?
  some (digits.foldl (fun n digit => 16 * n + digit) 0)

def simpleEscape? : Char → Option Char
  | '"' => some '"'
  | '\\' => some '\\'
  | '/' => some '/'
  | 'b' => some '\x08'
  | 'f' => some '\x0c'
  | 'n' => some '\n'
  | 'r' => some '\r'
  | 't' => some '\t'
  | _ => none

/-- A character in front of what was read of a string. -/
def push (c : Option Char) : Option Text × Text → Option Text × Text
  | (s, rest) => (List.cons <$> c <*> s, rest)

open Text.Wide in
/-- A string from after its opening quote. -/
def string : Text → Option (Option Text × Text)
  | [] => none
  | '"' :: rest => some (some [], rest)
  | '\\' :: 'u' :: a :: b :: c :: d :: rest =>
    match codeUnit? a b c d with
    | none => none
    | some n =>
      match rest with
      | '\\' :: 'u' :: a' :: b' :: c' :: d' :: rest' =>
        match codeUnit? a' b' c' d' with
        | none => none
        | some n' =>
          if isHighSurrogate n && isLowSurrogate n' then
            (string rest').map (push (some (ofSurrogates n n')))
          else
            (string ('\\' :: 'u' :: a' :: b' :: c' :: d' :: rest')).map (push (ofCodeUnit? n))
      | rest => (string rest).map (push (ofCodeUnit? n))
  | '\\' :: c :: rest =>
    match simpleEscape? c with
    | none => none
    | some e => (string rest).map (push (some e))
  | c :: rest =>
    if c < ' ' || c = '\\' then none else (string rest).map (push (some c))
termination_by structural t => t

/-! ## Values -/

/-- What follows `word` in `t`, if `t` starts with it. -/
def after (word t : Text) : Option Text :=
  if Text.startsWith word t then some (t.drop word.length) else none

def word (t : Text) : Read Json :=
  orMalformed <|
    (after "null" t).map (some null, ·) <|> (after "true" t).map (some (bool true), ·) <|>
      (after "false" t).map (some (bool false), ·) <|>
      (after "NaN" t).map (some (float (0.0 / 0.0)), ·) <|>
      (after "Infinity" t).map (some (float (1.0 / 0.0)), ·) <|>
      (after "-Infinity" t).map (some (float (-(1.0 / 0.0))), ·)

def scalar : Text → Read Json
  | '"' :: rest => orMalformed ((string rest).map fun (s, rest) => (s.map str, rest))
  | '-' :: rest =>
    match whole rest with
    | some (digits, rest) => number true digits rest
    | none => word ('-' :: rest)
  | t =>
    match whole t with
    | some (digits, rest) => number false digits rest
    | none => word t

mutual

/-- A value at the start of the text, with at most `depth` lists and objects in each other.
    `fuel` bounds the depth of calls. -/
def value : Nat → Nat → Text → Read Json
  | 0, _, _ => .error .malformed
  | fuel + 1, depth, '[' :: rest =>
    if depth = 0 then .error .tooDeep
    else
      match skip rest with
      | ']' :: rest => .ok (some (arr []), rest)
      | rest => (items fuel (depth - 1) rest).map fun (xs, rest) => (xs.map arr, rest)
  | fuel + 1, depth, '\x7b' :: rest =>
    if depth = 0 then .error .tooDeep
    else
      match skip rest with
      | '\x7d' :: rest => .ok (some (obj []), rest)
      | rest => (fields fuel (depth - 1) rest).map fun (fs, rest) =>
        (fs.map fun fs => obj (fs.foldl (fun seen f => OrderedMap.put f.1 f.2 seen) []), rest)
  | _ + 1, _, t => scalar t

/-- The values of an array up to its closing bracket; at least one. -/
def items : Nat → Nat → Text → Read (List Json)
  | 0, _, _ => .error .malformed
  | fuel + 1, depth, t =>
    match value fuel depth t with
    | .error fault => .error fault
    | .ok (x, rest) =>
      match skip rest with
      | ']' :: rest => .ok (x.map ([·]), rest)
      | ',' :: rest => (items fuel depth (skip rest)).map fun (xs, rest) => (List.cons <$> x <*> xs, rest)
      | _ => .error .malformed

/-- The fields of an object up to its closing brace; at least one. -/
def fields : Nat → Nat → Text → Read (List (Text × Json))
  | fuel + 1, depth, '"' :: rest =>
    match string rest with
    | none => .error .malformed
    | some (key, rest) =>
      match skip rest with
      | ':' :: rest =>
        match value fuel depth (skip rest) with
        | .error fault => .error fault
        | .ok (x, rest) =>
          let field := Prod.mk <$> key <*> x
          match skip rest with
          | '\x7d' :: rest => .ok (field.map ([·]), rest)
          | ',' :: rest => (fields fuel depth (skip rest)).map fun (fs, rest) => (List.cons <$> field <*> fs, rest)
          | _ => .error .malformed
      | _ => .error .malformed
  | _, _, _ => .error .malformed

end

def byteOrderMark : Char := '\uFEFF'

/-- The value that the whole text denotes. -/
def parse (depth : Nat) (text : Text) : Except Fault Json :=
  let text := if text.head? = some byteOrderMark then text.drop 1 else text
  match value (2 * text.length + 2) depth (skip text) with
  | .ok (x, rest) =>
    if skip rest ≠ [] then .error .malformed
    else
      match x with
      | some x => .ok x
      | none => .error .halfCharacter
  | .error fault => .error fault

/-! ## Octets -/

inductive Encoding where
  | narrow
  | wide (order : Text.Wide.Order)
  | widest (order : Text.Wide.Order)
  deriving DecidableEq

/-- JSON text starts with an ASCII character, so the place of the zeros among its first
    octets tells how many octets a unit has. -/
def Encoding.detect : List Nat → Encoding
  | [0, _] => .wide .big
  | [_, 0] => .wide .little
  | 0 :: b :: _ :: _ :: _ => if b = 0 then .widest .big else .wide .big
  | _ :: 0 :: c :: d :: _ => if c = 0 && d = 0 then .widest .little else .wide .little
  | _ => .narrow

/-- The value of the text in these units, if there are any. -/
def parseUnits (depth : Nat) (ofUnits : List Nat → Option Text) : Option (List Nat) → Except Fault Json
  | none => .error .undecodable
  | some units =>
    match ofUnits units with
    | some t => parse depth t
    | none => .error .halfCharacter

/-- The value that the octets of a text denote, which may be those of another text in a
    wider encoding. -/
def parseOctets (depth : Nat) (text : Text) : Except Fault Json :=
  let octets := Text.Utf8.encode text
  match Encoding.detect octets with
  | .narrow => parse depth text
  | .wide order => parseUnits depth Text.Wide.ofUnits16? (Text.Wide.units16? order octets)
  | .widest order => parseUnits depth Text.Wide.ofUnits32? (Text.Wide.units32? order octets)

/-- What is said of an integer with too many digits. -/
def tooLongMessage (digits : Nat) : Text :=
  "Exceeds the limit (" ++ Text.ofNat maxDigits ++
    " digits) for integer string conversion: value has " ++ Text.ofNat digits ++
    " digits; use sys.set_int_max_str_digits() to increase the limit"

end TreeShell.Json.Reader
