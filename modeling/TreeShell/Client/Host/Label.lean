/-
  TreeShell.Client.Host.Label — the labels between the dots of a name.

  A label is composed, starts with no mark, has hyphens inside only and none in third and
  fourth place together, and runs one way; each of its characters is a letter or stands
  in the right company. In ASCII it starts with `xn--` if it had to be spelled, and a
  label that comes so spelled has to spell a label.
-/

import TreeShell.Client.Host.Company
import TreeShell.Client.Host.Composed
import TreeShell.Client.Host.Direction
import TreeShell.Client.Host.Letters
import TreeShell.Text.Punycode

namespace TreeShell.Client.Host

/-- Whether every character may stand where it does; `before` holds those in front, the
    nearest first. -/
def isInOrder (before : Text) : Text → Bool
  | [] => true
  | c :: behind => (isLetter c || inCompany before c behind) && isInOrder (c :: before) behind

def hasGoodHyphens (t : Text) : Bool :=
  t.head? ≠ some '-' && t.getLast? ≠ some '-' && (t.drop 2).take 2 ≠ ['-', '-']

def isLabel (t : Text) : Bool :=
  t ≠ [] && hasGoodHyphens t && !t.head?.any isMark && isInOrder [] t && isComposed t && runsOneWay t

def isAscii (t : Text) : Bool := t.all Text.Punycode.isAscii

/-- What is written before a label that is spelled in ASCII. -/
def spelledMark : Text := "xn--"

def maxLabel : Nat := 63

/-- A label in ASCII with the mark stands for the one that it spells. -/
def isAsciiLabel (t : Text) : Bool :=
  if Text.startsWith spelledMark t then
    let spelled := t.drop spelledMark.length
    spelled ≠ [] && spelled.getLast? ≠ some '-' && (Text.Punycode.decode? spelled).any isLabel
  else isLabel t

/-- The label in ASCII, where it is not shorter than before. -/
def label? (t : Text) : Option Text :=
  if maxLabel < t.length then none
  else if isAscii t then if isAsciiLabel t then some t else none
  else if isLabel t then
    let written := spelledMark ++ Text.Punycode.encode t
    if written.length ≤ maxLabel then some written else none
  else none

example : label? "bücher" = some "xn--bcher-kva".toList ∧ label? "☃" = none := by decide +kernel

end TreeShell.Client.Host
