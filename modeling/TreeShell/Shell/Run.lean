/-
  TreeShell.Shell.Run — running commands and lines on a shell.

  A command is cut into tokens with the variables of the moment; its first token is
  dispatched with the others as arguments. A failed command answers with the generic text,
  on the shell that it left. The commands of a line run one after another, each on the state
  that the one before left; one without tokens has no result.
-/

import TreeShell.Line
import TreeShell.Log
import TreeShell.Shell.Builtin
import TreeShell.Token

namespace TreeShell

/-- The outcome of one command, as it is shown. -/
structure Result where
  command : Text
  output : Text
  isError : Bool := false
  erases : Bool := false
  deriving DecidableEq

/-- What running something produced, and the state after it. -/
structure Ran (α : Type) where
  value : α
  shell : Shell
  records : List Log.Record

namespace Shell

/-- What a word stands for, at work. One on the search path is only named, nothing is
    started. -/
def work (word : Text) (args : List Text) : Working Done :=
  match Builtin.ofName? word with
  | some b => b.handler args
  | none => do
    let s ← Working.shell
    match Command.resolve word s.searchPath s.tree with
    | some _ => return { output := "Executed: " ++ Text.join [' '] (word :: args) }
    | none => throw (.unresolved word)

def dispatch (s : Shell) (word : Text) (args : List Text) : Ending := (work word args).run ⟨s, []⟩

/-- The result for the command with this text, from how its dispatch ended. -/
def conclude (command : Text) : Ending → Ran Result
  | .ok d w =>
    { value := { command, output := d.output, erases := d.erases }
      shell := w.shell
      records := w.created.map .created }
  | .error e w =>
    { value := { command, output := genericFailure, isError := true }
      shell := w.shell
      records := w.created.map .created ++ [.failed command e] }

/-- Runs one command; none if it has no tokens. -/
def run (s : Shell) (command : Text) : Option (Ran Result) :=
  match Token.tokens s.environment command with
  | [] => none
  | word :: args => some (conclude command (s.dispatch word args))

def runAll (s : Shell) : List Text → Ran (List Result)
  | [] => ⟨[], s, []⟩
  | command :: commands =>
    match s.run command with
    | none => s.runAll commands
    | some first =>
      let rest := first.shell.runAll commands
      ⟨first.value :: rest.value, rest.shell, first.records ++ rest.records⟩

def runLine (s : Shell) (line : Text) : Ran (List Result) := s.runAll (Line.commands line)

end Shell

end TreeShell
