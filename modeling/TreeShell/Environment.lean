/-
  TreeShell.Environment — the variables of a shell, in order of their first setting.

  An unset variable reads as the empty text. `PATH` is kept as the colon-join of the
  search path by `syncSearchPath`; `problems` tells where it is not, and which required
  variables are missing.
-/

import TreeShell.OrderedMap

namespace TreeShell

structure Environment where
  bindings : OrderedMap Text Text
  deriving DecidableEq

namespace Environment

def joinedPath (searchPath : List Text) : Text := Text.join [':'] searchPath

def seeded (home user : Text) (searchPath : List Text) : Environment :=
  let unset : OrderedMap Text Text := OrderedMap.empty
  ⟨((unset.insert "HOME" home).insert "USER" user).insert "PATH" (joinedPath searchPath)⟩

def get (env : Environment) (name : Text) : Text := (env.bindings.get? name).getD []

def has (env : Environment) (name : Text) : Bool := env.bindings.contains name

def names (env : Environment) : List Text := env.bindings.keys

/-- Refused: a variable has to have a name. -/
inductive NameError where
  | empty
  deriving DecidableEq

def NameError.message : NameError → Text
  | .empty => "Variable name must not be empty"

def set (env : Environment) (name value : Text) : Except NameError Environment :=
  if name = [] then .error .empty else .ok ⟨env.bindings.insert name value⟩

def syncSearchPath (env : Environment) (searchPath : List Text) : Environment :=
  ⟨env.bindings.insert "PATH" (joinedPath searchPath)⟩

/-- Erases without regard to what is required. -/
def delete (env : Environment) (name : Text) : Environment := ⟨env.bindings.erase name⟩

/-! ## Problems -/

inductive Problem where
  | missing (name : Text)
  | pathMismatch (actual expected : Text)
  deriving DecidableEq

def Problem.message : Problem → Text
  | .missing name => "required variable " ++ name ++ " is missing"
  | .pathMismatch actual expected =>
    "PATH '" ++ actual ++ "' does not match search path '" ++ expected ++ "'"

def required : List Text := ["HOME", "USER", "PATH"]

def problems (env : Environment) (searchPath : List Text) : List Problem :=
  (required.filter fun name => !env.has name).map .missing ++
    match env.bindings.get? "PATH" with
    | some actual =>
      let expected := joinedPath searchPath
      if actual = expected then [] else [.pathMismatch actual expected]
    | none => []

end Environment

end TreeShell
