/-
  TreeShell.Token — the words of one command.

  A double quote toggles quoting and is never part of a token; a space or tab outside
  quotes ends a token; empty tokens are dropped; the end of the text closes an open
  quote. A token that starts with a dollar sign stands for the value of the variable
  named by the rest of it; the value is not cut or replaced again.
-/

import TreeShell.Environment

namespace TreeShell.Token

def quote : Char := '"'

def isSeparator (c : Char) : Bool := c == ' ' || c == '\t'

/-- The pieces between the separators outside quotes, empty ones included; `quoted`
    tells whether a quote is open at the start. -/
def pieces (quoted : Bool) : Text → List Text
  | [] => [[]]
  | c :: cs =>
    if c = quote then pieces (!quoted) cs
    else if isSeparator c && !quoted then [] :: pieces false cs
    else
      match pieces quoted cs with
      | [] => [[c]]
      | piece :: rest => (c :: piece) :: rest

theorem pieces_ne_nil (quoted : Bool) (raw : Text) : pieces quoted raw ≠ [] := by
  fun_induction pieces quoted raw <;> simp_all

def split (raw : Text) : List Text := (pieces false raw).filter (· ≠ [])

theorem ne_nil_of_mem_split {raw token : Text} (h : token ∈ split raw) : token ≠ [] := by
  simpa using (List.mem_filter.mp h).2

def substitute (env : Environment) : Text → Text
  | '$' :: name => env.get name
  | token => token

def tokens (env : Environment) (raw : Text) : List Text := (split raw).map (substitute env)

end TreeShell.Token
