/-
  TreeShell.Log — what a session reports about its work.
-/

import TreeShell.Shell
import TreeShell.Text.Quoted

namespace TreeShell.Log

inductive Record where
  | created (creation : Creation)
  | failed (command : Text) (cause : ShellError)
  | executed (session line : Text) (commands failures : Nat)
  | reset (session : Text)
  deriving DecidableEq

inductive Level where
  | debug
  | info
  deriving DecidableEq, Repr

def Record.level : Record → Level
  | .created _ | .failed .. => .debug
  | .executed .. | .reset _ => .info

def Record.message : Record → Text
  | .created c => "Created " ++ c.kind.name ++ ' ' :: c.path
  | .failed command cause => "Command " ++ Text.quoted command ++ " failed: " ++ cause.message
  | .executed session line commands failures =>
    "Session " ++ session ++ " executed " ++ Text.quoted line ++ ": " ++ Text.ofNat commands ++
      " command(s), " ++ Text.ofNat failures ++ " failed"
  | .reset session => "Session " ++ session ++ " reset"

end TreeShell.Log
