/-
  TreeShell.Json.Writer — JSON text of a value, without white space.

  The quote, the backslash, the control characters and the two Unicode line ends are
  escaped, all else stands as it is. Doubles are written with the fewest digits that read
  back; those that are not finite as the words that the reader knows.
-/

import TreeShell.Decimal
import TreeShell.Json
import TreeShell.Text.Quoted

namespace TreeShell.Json

def isLineEnd (c : Char) : Bool := c == '\u2028' || c == '\u2029'

def isControl (c : Char) : Bool := c < ' ' || ('\x7f' ≤ c && c < '\u00a0')

def escaped (c : Char) : Text :=
  if c = '"' || c = '\\' then ['\\', c]
  else if isControl c || isLineEnd c then '\\' :: 'u' :: Text.hex 4 c.toNat
  else [c]

def written (s : Text) : Text := '"' :: s.flatMap escaped ++ ['"']

/-- The layout of doubles, with the reader's words for those that are not finite. -/
def numbers : Decimal.Layout := { Decimal.plain with infinity := "Infinity", nan := "NaN" }

mutual

def write : Json → Text
  | null => "null"
  | bool b => if b then "true" else "false"
  | int n => Text.ofInt n
  | float x => Decimal.text numbers x
  | str s => written s
  | arr items => '[' :: writeItems items ++ [']']
  | obj fields => '\x7b' :: writeFields fields ++ ['\x7d']

def writeItems : List Json → Text
  | [] => []
  | [x] => write x
  | x :: xs => write x ++ ',' :: writeItems xs

def writeFields : List (Text × Json) → Text
  | [] => []
  | [(key, x)] => written key ++ ':' :: write x
  | (key, x) :: rest => written key ++ ':' :: write x ++ ',' :: writeFields rest

end

end TreeShell.Json
