/-
  TreeShell.Wire — the shapes of the service's answers.

  Both sides of the wire use them: the service writes an answer with `toJson`, the client
  reads it with `read`. Counts and points in time are kept as they come; nothing here checks
  that the counts agree with the lists beside them.
-/

import TreeShell.Command
import TreeShell.Schema
import TreeShell.Session

namespace TreeShell

open Schema

def Kind.read : Reading Kind := among [("directory", .directory), ("file", .file)]

def pairsToJson (pairs : List (Text × Text)) : Json := .obj (pairs.map fun (k, v) => (k, .str v))

/-! ## Commands and history -/

namespace Result

def toJson (r : Result) : Json :=
  .obj [("command", .str r.command), ("output", .str r.output), ("is_error", .bool r.isError),
    ("suppress_record", .bool r.erases)]

def readFields (fields : List (Text × Json)) : Checked Result :=
  Result.mk <$> field fields "command" text <*> field fields "output" text <*>
    field fields "is_error" bool <*> fieldD fields "suppress_record" bool false

def read : Reading Result := record "CommandResultResponse" readFields

end Result

namespace Entry

def toJson (e : Entry) : Json :=
  .obj [("command", .str e.command), ("output", .str e.output), ("is_error", .bool e.isError),
    ("timestamp", e.timestamp.written)]

def readFields (fields : List (Text × Json)) : Checked Entry :=
  Entry.mk <$> field fields "command" text <*> field fields "output" text <*>
    field fields "is_error" bool <*> field fields "timestamp" instant

def read : Reading Entry := record "HistoryEntryResponse" readFields

end Entry

namespace Wire

/-- The results of a line and the directory it leaves the shell in. -/
structure Executed where
  results : List Result
  historyCleared : Bool
  cwd : Text

def Executed.toJson (x : Executed) : Json :=
  .obj [("results", .arr (x.results.map Result.toJson)), ("history_cleared", .bool x.historyCleared),
    ("current_directory", .str x.cwd)]

def Executed.read (fields : List (Text × Json)) : Checked Executed :=
  Executed.mk <$> field fields "results" (list Result.read) <*>
    fieldD fields "history_cleared" bool false <*> field fields "current_directory" text

structure History where
  entries : List Entry
  count : Int

def History.toJson (x : History) : Json :=
  .obj [("entries", .arr (x.entries.map Entry.toJson)), ("count", .int x.count)]

def History.read (fields : List (Text × Json)) : Checked History :=
  History.mk <$> field fields "entries" (list Entry.read) <*> field fields "count" int

structure Cleared where
  cleared : Int

def Cleared.toJson (x : Cleared) : Json := .obj [("cleared", .int x.cleared)]

def Cleared.read (fields : List (Text × Json)) : Checked Cleared :=
  Cleared.mk <$> field fields "cleared" int

/-! ## Session -/

structure State where
  session : Text
  cwd : Text
  searchPath : List Text
  historyCount : Int
  summary : Text

def State.toJson (x : State) : Json :=
  .obj [("session_id", .str x.session), ("current_directory", .str x.cwd),
    ("search_path", Json.texts x.searchPath), ("history_count", .int x.historyCount),
    ("filesystem_summary", .str x.summary)]

def State.read (fields : List (Text × Json)) : Checked State :=
  State.mk <$> field fields "session_id" text <*> field fields "current_directory" text <*>
    field fields "search_path" (list text) <*> field fields "history_count" int <*>
    field fields "filesystem_summary" text

/-- Variables in their order, nodes ascending by path, a node as any object. -/
structure Snapshot where
  session : Text
  cwd : Text
  searchPath : List Text
  environment : List (Text × Text)
  tree : List (Text × List (Text × Json))
  historyCount : Int

def Snapshot.toJson (x : Snapshot) : Json :=
  .obj [("session_id", .str x.session), ("current_directory", .str x.cwd),
    ("search_path", Json.texts x.searchPath), ("environment", pairsToJson x.environment),
    ("filesystem", .obj (x.tree.map fun (path, node) => (path, .obj node))),
    ("history_count", .int x.historyCount)]

def Snapshot.read (fields : List (Text × Json)) : Checked Snapshot :=
  Snapshot.mk <$> field fields "session_id" text <*> field fields "current_directory" text <*>
    field fields "search_path" (list text) <*> field fields "environment" (map text) <*>
    field fields "filesystem" (map (map any)) <*> field fields "history_count" int

structure WasReset where
  status : Text
  message : Text
  cwd : Text

def WasReset.toJson (x : WasReset) : Json :=
  .obj [("status", .str x.status), ("message", .str x.message), ("current_directory", .str x.cwd)]

def WasReset.read (fields : List (Text × Json)) : Checked WasReset :=
  WasReset.mk <$> field fields "status" text <*> field fields "message" text <*>
    field fields "current_directory" text

structure Builtins where
  names : List Text
  count : Int

def Builtins.toJson (x : Builtins) : Json :=
  .obj [("builtins", Json.texts x.names), ("count", .int x.count)]

def Builtins.read (fields : List (Text × Json)) : Checked Builtins :=
  Builtins.mk <$> field fields "builtins" (list text) <*> field fields "count" int

inductive Resolved.Kind where
  | builtin
  | external
  deriving DecidableEq

def Resolved.Kind.name : Resolved.Kind → Text
  | .builtin => "builtin"
  | .external => "external"

structure Resolved where
  kind : Resolved.Kind
  name : Text
  path : Option Text

def Resolved.ofReference : Command.Reference → Resolved
  | .builtin name => ⟨.builtin, name, none⟩
  | .external name path => ⟨.external, name, some path⟩

def Resolved.toJson (x : Resolved) : Json :=
  .obj [("kind", .str x.kind.name), ("name", .str x.name), ("path", Json.opt x.path)]

def Resolved.read (fields : List (Text × Json)) : Checked Resolved :=
  Resolved.mk <$>
    field fields "kind" (among [("builtin", Resolved.Kind.builtin), ("external", .external)]) <*>
    field fields "name" text <*> fieldD fields "path" (optional text) none

/-! ## Tree -/

/-- A node by itself; what does not belong to its kind is absent. -/
structure NodeView where
  path : Text
  kind : Kind
  children : Option (List Text)
  content : Option Text

def NodeView.ofNode (path : Text) : Node → NodeView
  | .directory children => ⟨path, .directory, some children, none⟩
  | .file content => ⟨path, .file, none, some content⟩

def NodeView.toJson (x : NodeView) : Json :=
  .obj [("path", .str x.path), ("node_type", .str x.kind.name),
    ("children", (x.children.map Json.texts).getD .null), ("content", Json.opt x.content)]

def NodeView.read (fields : List (Text × Json)) : Checked NodeView :=
  NodeView.mk <$> field fields "path" text <*> field fields "node_type" Kind.read <*>
    fieldD fields "children" (optional (list text)) none <*>
    fieldD fields "content" (optional text) none

structure Child where
  name : Text
  kind : Kind

def Child.ofListed : Text × Bool → Child
  | (name, isDirectory) => ⟨name, if isDirectory then .directory else .file⟩

def Child.toJson (x : Child) : Json :=
  .obj [("name", .str x.name), ("node_type", .str x.kind.name)]

def Child.read : Reading Child := record "DirectoryEntry" fun fields =>
  Child.mk <$> field fields "name" text <*> field fields "node_type" Kind.read

structure Listing where
  path : Text
  entries : List Child
  count : Int

def Listing.toJson (x : Listing) : Json :=
  .obj [("path", .str x.path), ("entries", .arr (x.entries.map Child.toJson)), ("count", .int x.count)]

def Listing.read (fields : List (Text × Json)) : Checked Listing :=
  Listing.mk <$> field fields "path" text <*> field fields "entries" (list Child.read) <*>
    field fields "count" int

structure Check where
  valid : Bool
  errors : List Text
  checkedAt : Stamp

def Check.toJson (x : Check) : Json :=
  .obj [("valid", .bool x.valid), ("errors", Json.texts x.errors), ("checked_at", x.checkedAt.written)]

def Check.read (fields : List (Text × Json)) : Checked Check :=
  Check.mk <$> field fields "valid" bool <*> fieldD fields "errors" (list text) [] <*>
    field fields "checked_at" instant

/-! ## Environment and health -/

structure Variable where
  name : Text
  value : Text

def Variable.toJson (x : Variable) : Json := .obj [("name", .str x.name), ("value", .str x.value)]

def Variable.read (fields : List (Text × Json)) : Checked Variable :=
  Variable.mk <$> field fields "name" text <*> field fields "value" text

structure Variables where
  bindings : List (Text × Text)
  count : Int
  searchPath : List Text

def Variables.toJson (x : Variables) : Json :=
  .obj [("variables", pairsToJson x.bindings), ("count", .int x.count),
    ("search_path", Json.texts x.searchPath)]

def Variables.read (fields : List (Text × Json)) : Checked Variables :=
  Variables.mk <$> field fields "variables" (map text) <*> field fields "count" int <*>
    field fields "search_path" (list text)

structure Health where
  status : Text

def Health.toJson (x : Health) : Json := .obj [("status", .str x.status)]

def Health.read (fields : List (Text × Json)) : Checked Health :=
  Health.mk <$> field fields "status" text

end Wire

end TreeShell
