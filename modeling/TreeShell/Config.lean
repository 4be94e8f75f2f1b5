/-
  TreeShell.Config — the seed of a session: home directory, user and search path.

  The home of a configuration is a normalized absolute path: `make` normalizes, and the
  readers below refuse a relative one.
-/

import TreeShell.Path
import TreeShell.Schema

namespace TreeShell

structure Config where
  home : Text
  user : Text
  searchPath : List Text
  home_normal : Path.normalize home = home

namespace Config

open Schema

def make (home user : Text) (searchPath : List Text) : Config :=
  ⟨Path.normalize home, user, searchPath, Path.normalize_normalize home⟩

def defaultHome : Text := "/home/user"

def defaultUser : Text := "user"

def defaultSearchPath : List Text := ["/bin"]

def standard : Config := make defaultHome defaultUser defaultSearchPath

/-- A text that starts with a slash. -/
def absolute : Reading Text := fun x =>
  match text x with
  | .valid home =>
    if Path.isAbsolute home then .valid home
    else Checked.fault (.refused ("home must be an absolute path, got '" ++ home ++ "'")) x
  | .invalid ps => .invalid ps

/-- What is left out keeps its default. -/
def ofFields (fields : List (Text × Json)) : Checked Config :=
  make <$> fieldD fields "home" absolute defaultHome <*> fieldD fields "user" text defaultUser <*>
    fieldD fields "search_path" (list text) defaultSearchPath

/-- The entries of a colon-joined search path; empty ones do not count. -/
def splitPath (raw : Text) : List Text := (Text.splitOn ':' raw).filter (· ≠ [])

/-- The field `name`, if the variable `source` gives its value. -/
def setting (given : OrderedMap Text Text) (name source : Text) (value : Text → Json) : List (Text × Json) :=
  match given.get? source with
  | some raw => [(name, value raw)]
  | none => []

/-- The fields that the variables of the process give. -/
def settings (given : OrderedMap Text Text) : List (Text × Json) :=
  setting given "home" "WITSSHELL_HOME" .str ++ setting given "user" "WITSSHELL_USER" .str ++
    setting given "search_path" "WITSSHELL_PATH" fun raw => Json.texts (splitPath raw)

/-- From the variables that carry the settings of the process. -/
def ofVariables (given : OrderedMap Text Text) : Checked Config := ofFields (settings given)

def toJson (c : Config) : Json :=
  .obj [("home", .str c.home), ("user", .str c.user), ("search_path", Json.texts c.searchPath)]

end Config

end TreeShell
