/-
  TreeShell.Text.Quoted — the quoted form of a text, as log records and messages show it.

  The text stands between single quotes, unless it holds a single quote and no double
  quote: then between double quotes. The backslash and the chosen quote are escaped by a
  backslash, line feed, carriage return and tab have letters, and any other unprintable
  character is written by its code point in two, four or eight lower-case hexadecimal
  digits.
-/

import TreeShell.Text.Unprintable

namespace TreeShell.Text

/-- Hexadecimal digits of `n`, zero-filled to `width` places. -/
def hex (width n : Nat) : Text :=
  let digits := Nat.toDigits 16 n
  List.replicate (width - digits.length) '0' ++ digits

def quoteFor (t : Text) : Char :=
  if t.contains '\'' && !t.contains '"' then '"' else '\''

def escapeChar (quote c : Char) : Text :=
  if c = '\\' || c = quote then ['\\', c]
  else if c = '\n' then ['\\', 'n']
  else if c = '\r' then ['\\', 'r']
  else if c = '\t' then ['\\', 't']
  else if isUnprintable c then
    let n := c.toNat
    if n < 0x100 then '\\' :: 'x' :: hex 2 n
    else if n < 0x10000 then '\\' :: 'u' :: hex 4 n
    else '\\' :: 'U' :: hex 8 n
  else [c]

def quoted (t : Text) : Text :=
  let quote := quoteFor t
  quote :: t.flatMap (escapeChar quote) ++ [quote]

example : quoted "it's" = "\"it's\"" := by decide

end TreeShell.Text
