/-
  TreeShell.Line — a submitted line cut into commands.

  The cut at `&` is textual and knows no quotes. Pieces are trimmed and blank ones
  dropped; a line whose first character after trimming is `#` is a comment and holds no
  commands.
-/

import TreeShell.Text.Blank

namespace TreeShell.Line

open Text

def separator : Char := '&'

def commentMark : Char := '#'

def commands (line : Text) : List Text :=
  let trimmed := trim line
  if trimmed.head? = some commentMark then []
  else ((splitOn separator trimmed).map trim).filter (· ≠ [])

end TreeShell.Line
