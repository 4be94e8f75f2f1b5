/-
  TreeShell.Session — a shell with its configuration and history.

  A line's results go to the history in order after the whole line has run; a result
  that erases drops what was recorded before it and is not recorded itself. An entry also
  tells when it was recorded: a session holds the readings of its clock that are still to
  come, and each entry uses up the next one.
-/

import TreeShell.Config
import TreeShell.Shell.Run
import TreeShell.Tree.Problem

namespace TreeShell

/-- The readings of a clock that are still to come. -/
structure Clock where
  reading : Nat → Schema.Stamp

namespace Clock

def now (c : Clock) : Schema.Stamp := c.reading 0

/-- What is still to come after `n` readings. -/
def after (c : Clock) (n : Nat) : Clock := ⟨fun k => c.reading (n + k)⟩

/-- A clock that stopped at the start of 1970. -/
def stopped : Clock := ⟨fun _ => ⟨.str "1970-01-01T00:00:00Z", rfl⟩⟩

end Clock

structure Entry where
  command : Text
  output : Text
  isError : Bool
  timestamp : Schema.Stamp

structure Session where
  id : Text
  config : Config
  shell : Shell
  /-- Oldest first. -/
  history : List Entry
  clock : Clock

namespace Session

/-- Always present, whatever the configuration says. -/
def seedDirectories : List Text := ["/bin"]

def seedShell (config : Config) : Shell where
  tree := Tree.seeded (config.home :: seedDirectories ++ config.searchPath)
  environment := Environment.seeded config.home config.user config.searchPath
  searchPath := config.searchPath
  cwd := config.home

def create (id : Text) (config : Config) (clock : Clock) : Session :=
  ⟨id, config, seedShell config, [], clock⟩

/-! ## Execution -/

/-- The history after a result, with the clock as it then is. -/
def recordResult : List Entry × Clock → Result → List Entry × Clock
  | (history, clock), r =>
    if r.erases then ([], clock)
    else (history ++ [⟨r.command, r.output, r.isError, clock.now⟩], clock.after 1)

/-- The session with these results in its history, one after another. -/
def recording (s : Session) (results : List Result) : Session :=
  let recorded := results.foldl recordResult (s.history, s.clock)
  { s with history := recorded.1, clock := recorded.2 }

structure Execution where
  results : List Result
  session : Session
  records : List Log.Record

/-- The closing record of a line; a line without results has none. -/
def closingRecord (id line : Text) (results : List Result) : List Log.Record :=
  if results = [] then []
  else [.executed id (Text.trim line) results.length (results.countP (·.isError))]

def execute (s : Session) (line : Text) : Execution :=
  let ran := s.shell.runLine line
  { results := ran.value
    session := { s with shell := ran.shell }.recording ran.value
    records := ran.records ++ closingRecord s.id line ran.value }

/-! ## Other operations -/

def setSearchPath (s : Session) (directories : List Text) : Session :=
  { s with shell := s.shell.setSearchPath directories }

/-- Also the number of entries removed. -/
def clearHistory (s : Session) : Nat × Session := (s.history.length, { s with history := [] })

def reset (s : Session) : Session × List Log.Record :=
  ({ s with shell := seedShell s.config, history := [] }, [.reset s.id])

/-! ## Problems -/

inductive Problem where
  | tree (problem : Tree.Problem)
  | environment (problem : Environment.Problem)
  | cwd (path : Text)
  deriving DecidableEq

def Problem.message : Problem → Text
  | .tree p => "filesystem: " ++ p.message
  | .environment p => "environment: " ++ p.message
  | .cwd path => "current directory " ++ path ++ " is not a directory"

def problems (s : Session) : List Problem :=
  s.shell.tree.problems.map .tree ++
    (s.shell.environment.problems s.shell.searchPath).map .environment ++
    if s.shell.tree.isDirectory s.shell.cwd then [] else [.cwd s.shell.cwd]

end Session

end TreeShell
