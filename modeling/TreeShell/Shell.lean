/-
  TreeShell.Shell — the state that commands read and change, and why a command can fail.

  Nothing else decides what a command does: history and configuration are not part of it.
-/

import TreeShell.Command
import TreeShell.Environment

namespace TreeShell

structure Shell where
  tree : Tree
  environment : Environment
  searchPath : List Text
  cwd : Text

/-- The cause of a failed command. A user never sees it, only that the command failed. -/
inductive ShellError where
  | missingOperand (builtin : Builtin)
  | tooManyArguments (builtin : Builtin)
  | path (error : PathError)
  | unresolved (word : Text)
  deriving DecidableEq

/-- The output of every failed command. -/
def genericFailure : Text := "An error has occurred"

def ShellError.message : ShellError → Text
  | .missingOperand b => b.name ++ ": missing operand"
  | .tooManyArguments b => b.name ++ ": takes no arguments"
  | .path e => e.message
  | .unresolved word => word ++ ": command not found"

/-- Replaces the search path and `PATH` with it. -/
def Shell.setSearchPath (s : Shell) (directories : List Text) : Shell :=
  { s with searchPath := directories, environment := s.environment.syncSearchPath directories }

end TreeShell
