/-
  TreeShell.Json.Display — JSON values as they appear inside messages.

  A string by itself is shown as it is; inside a list or an object it is quoted. The
  three words are `None`, `True` and `False`, numbers are written plainly, and the parts
  of lists and objects are separated by a comma and a space.
-/

import TreeShell.Decimal
import TreeShell.Json
import TreeShell.Text.Quoted

namespace TreeShell.Json

mutual

/-- The form inside a list or an object. -/
def inner : Json → Text
  | null => "None"
  | bool b => if b then "True" else "False"
  | int n => Text.ofInt n
  | float x => Decimal.text Decimal.plain x
  | str s => Text.quoted s
  | arr items => '[' :: innerItems items ++ [']']
  | obj fields => '\x7b' :: innerFields fields ++ ['\x7d']

def innerItems : List Json → Text
  | [] => []
  | [x] => inner x
  | x :: xs => inner x ++ ", " ++ innerItems xs

def innerFields : List (Text × Json) → Text
  | [] => []
  | [(key, x)] => Text.quoted key ++ ": " ++ inner x
  | (key, x) :: rest => Text.quoted key ++ ": " ++ inner x ++ ", " ++ innerFields rest

end

def display : Json → Text
  | str s => s
  | x => inner x

end TreeShell.Json
