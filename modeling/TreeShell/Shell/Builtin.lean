/-
  TreeShell.Shell.Builtin — what the builtin commands do.

  A builtin works on the shell step by step (`Working`). At any step it may fail with a
  cause, and then leaves the shell as it is by then: nothing is undone, so a builtin that
  is to change nothing where it fails has to look before it changes anything. There is no
  other way to fail: each builtin has a handler, and a look-up that finds nothing is a case
  of it. `clear` changes nothing at all: it asks whoever keeps the history to erase it.
-/

import TreeShell.Shell

namespace TreeShell

/-- The shell as it is at a step of a command, and the nodes that the command has made. -/
structure Work where
  shell : Shell
  created : List Creation := []

/-- Steps of a command. -/
abbrev Working := EStateM ShellError Work

/-- What a command that succeeded has to say. -/
structure Done where
  output : Text := []
  /-- The history is to be erased instead of getting this command. -/
  erases : Bool := false

/-- How a command ended, with what it left. -/
abbrev Ending := EStateM.Result ShellError Work Done

namespace Working

def shell : Working Shell := do return (← get).shell

def setShell (s : Shell) : Working Unit := modify fun w => { w with shell := s }

def look {α : Type} : Except PathError α → Working α
  | .ok a => pure a
  | .error e => throw (.path e)

/-- Takes over what an operation leaves of the tree, also where it fails. -/
def onTree (operation : Tree → Tree.Grown × Option PathError) : Working Unit := do
  let w ← get
  let (grown, error) := operation w.shell.tree
  set { shell := { w.shell with tree := grown.tree }, created := w.created ++ grown.created : Work }
  match error with
  | some e => throw (.path e)
  | none => pure ()

end Working

namespace Builtin

open Working

def farewell : Text := "Goodbye! (exit not available in this session)"

def listSeparator : Text := "  "

def operand (b : Builtin) : List Text → Working Text
  | [] => throw (.missingOperand b)
  | arg :: _ => pure arg

/-- `~` is the home directory, also in front of a slash. -/
def expandHome (home : Text) : Text → Text
  | ['~'] => home
  | '~' :: '/' :: rest => home ++ '/' :: rest
  | target => target

def entryName : Text × Bool → Text
  | (name, isDirectory) => if isDirectory then name ++ ['/'] else name

def assignment : Text × Text → Text
  | (name, value) => name ++ '=' :: value

def changeDirectory (arg : Text) : Working Done := do
  let s ← shell
  let path := Path.resolve (expandHome (s.environment.get "HOME") arg) s.cwd
  if s.tree.isDirectory path then
    setShell { s with cwd := path }
    return {}
  else throw (.path ⟨path, .notADirectory⟩)

def handler (b : Builtin) (args : List Text) : Working Done :=
  match b with
  | cd => do changeDirectory (← operand cd args)
  | path => do
    setShell ((← shell).setSearchPath args)
    return {}
  | exit => if args = [] then return { output := farewell } else throw (.tooManyArguments exit)
  | ls => do
    let s ← shell
    let entries ← look (s.tree.list s.cwd)
    return { output := Text.join listSeparator (entries.map entryName) }
  | pwd => do return { output := (← shell).cwd }
  | echo => return { output := Text.join [' '] args }
  | env => do
    let s ← shell
    return { output := Text.join ['\n'] (s.environment.bindings.entries.map assignment) }
  | mkdir => do
    let name ← operand mkdir args
    let path := Path.resolve name (← shell).cwd
    onTree fun t => t.createDirectory path
    return {}
  | touch => do
    let name ← operand touch args
    let path := Path.resolve name (← shell).cwd
    onTree fun t => t.createFile path []
    return {}
  | cat => do
    let name ← operand cat args
    let s ← shell
    return { output := ← look (s.tree.read (Path.resolve name s.cwd)) }
  | clear => return { erases := true }

/-- A builtin by itself. -/
def run (b : Builtin) (s : Shell) (args : List Text) : Ending := (b.handler args).run ⟨s, []⟩

end Builtin

end TreeShell
