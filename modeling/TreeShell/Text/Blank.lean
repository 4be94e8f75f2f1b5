/-
  TreeShell.Text.Blank — blank characters and the trimming of a text at both ends.

  Blank are the characters of bidirectional class B, S or WS and those of category Zs:
  the ASCII space and layout controls, the four information separators, and the
  Unicode spaces. The zero-width characters are not blank. White are the blank characters
  but the four separators.
-/

import TreeShell.Text

namespace TreeShell.Text

/-- Inclusive ranges of blank code points, ascending. -/
def blankRanges : List (Nat × Nat) :=
  [(0x09, 0x0D), (0x1C, 0x20), (0x85, 0x85), (0xA0, 0xA0), (0x1680, 0x1680), (0x2000, 0x200A),
   (0x2028, 0x2029), (0x202F, 0x202F), (0x205F, 0x205F), (0x3000, 0x3000)]

def isBlank (c : Char) : Bool := blankRanges.any fun (lo, hi) => lo ≤ c.toNat && c.toNat ≤ hi

def trimStart (t : Text) : Text := t.dropWhile isBlank

def trimEnd (t : Text) : Text := dropEndWhile isBlank t

def trim (t : Text) : Text := trimEnd (trimStart t)

/-- White space proper: blank, and no information separator. -/
def isWhite (c : Char) : Bool := isBlank c && !(0x1C ≤ c.toNat && c.toNat ≤ 0x1F)

def trimWhite (t : Text) : Text := dropEndWhile isWhite (t.dropWhile isWhite)

end TreeShell.Text
