/-
  TreeShell.Http.Service — the service: one session, or none yet, behind the routes.

  Only three endpoints change the session: running a line, erasing the history and
  resetting. An endpoint that needs the session fails without one before its body or query
  is looked at.
-/

import TreeShell.Http.Failure
import TreeShell.Http.Route
import TreeShell.Tree.Schema
import TreeShell.Wire

namespace TreeShell.Http

open Schema

/-- An endpoint's answer, and the session after it. -/
abbrev Served := Except Failure Json × Session

namespace Service

def version : Text := "0.1.0"

def welcome : Json :=
  .obj [("message", .str "Welcome to the WitsShell API"), ("version", .str version),
    ("docs_url", .str "/docs")]

def health : Wire.Health := ⟨"healthy"⟩

def builtins : Wire.Builtins := ⟨Builtin.names, Builtin.names.length⟩

/-- The session that a started service has: from the given settings, else from those that
    the process's variables carry. -/
def start (id : Text) (clock : Clock) (settings : Option Config) (given : OrderedMap Text Text) :
    Checked Session :=
  (Session.create id · clock) <$>
    match settings with
    | some config => .valid config
    | none => Config.ofVariables given

/-! ## Reading requests -/

/-- The line of a request's body. -/
def lineOf (body : Option Json) : Checked Text :=
  Checked.under (.key "body") <|
    match body with
    | none | some .null => Checked.fault .missing .null
    | some (.obj fields) => field fields "line" text
    | some x => Checked.fault .notRecord x

def pathOf (r : Request) : Checked Text :=
  match r.query? "path" with
  | some path => .valid path
  | none => Checked.under (.key "query") (Checked.under (.key "path") (Checked.fault .missing .null))

def withValid {α : Type} (s : Session) (c : Checked α) (use : α → Served) : Served :=
  match c with
  | .valid a => use a
  | .invalid problems => (.error (.invalidRequest problems), s)

/-! ## Endpoints -/

def execute (s : Session) (line : Text) : Wire.Executed × Session :=
  let x := s.execute line
  (⟨x.results, x.results.any (·.erases), x.session.shell.cwd⟩, x.session)

def history (s : Session) : Wire.History := ⟨s.history, s.history.length⟩

def state (s : Session) : Wire.State :=
  ⟨s.id, s.shell.cwd, s.shell.searchPath, s.history.length, s.shell.tree.summary⟩

def snapshot (s : Session) : Wire.Snapshot where
  session := s.id
  cwd := s.shell.cwd
  searchPath := s.shell.searchPath
  environment := s.shell.environment.bindings.entries
  tree := s.shell.tree.snapshot.map fun (path, node) => (path, node.fields)
  historyCount := s.history.length

def wasReset (s : Session) : Wire.WasReset :=
  ⟨"reset", "Session restored to its initial state", s.shell.cwd⟩

def resolve (s : Session) (word : Text) : Except Failure Wire.Resolved :=
  match Command.resolve word s.shell.searchPath s.shell.tree with
  | some reference => .ok (Wire.Resolved.ofReference reference)
  | none => .error (.commandNotFound (.str word) (Json.texts s.shell.searchPath))

def node (s : Session) (path : Text) : Except Failure Wire.NodeView :=
  let normalized := Path.normalize path
  match s.shell.tree.node? normalized with
  | some node => .ok (Wire.NodeView.ofNode normalized node)
  | none => .error (.pathNotFound (.str normalized))

/-- Without a path, or with an empty one, the current directory as it is recorded. -/
def listedPath (s : Session) : Option Text → Text
  | none | some [] => s.shell.cwd
  | some path => Path.normalize path

/-- A listing that failed behind the two checks would be an unexpected failure. -/
def list (s : Session) (path : Option Text) : Except Failure Wire.Listing :=
  let key := listedPath s path
  if !s.shell.tree.exists key then .error (.pathNotFound (.str key))
  else if !s.shell.tree.isDirectory key then .error (.notADirectory key)
  else
    match s.shell.tree.list key with
    | .ok children => .ok ⟨key, children.map Wire.Child.ofListed, children.length⟩
    | .error e => .error (.unexpected "PathError" e.message)

/-- The check tells the next reading of the clock and does not use it up. -/
def validate (s : Session) : Wire.Check where
  valid := s.problems.isEmpty
  errors := s.problems.map Session.Problem.message
  checkedAt := s.clock.now

def environment (s : Session) : Wire.Variables :=
  ⟨s.shell.environment.bindings.entries, s.shell.environment.bindings.size, s.shell.searchPath⟩

def variableNamed (s : Session) (name : Text) : Except Failure Wire.Variable :=
  if s.shell.environment.has name then .ok ⟨name, s.shell.environment.get name⟩
  else .error (.variableNotFound (.str name) (Json.texts s.shell.environment.names))

/-- An endpoint on a session. -/
def serve (s : Session) (r : Request) : Endpoint → Served
  | .execute => withValid s (lineOf r.body) fun line =>
    let (executed, s') := execute s line
    (.ok executed.toJson, s')
  | .history => (.ok (history s).toJson, s)
  | .clearHistory =>
    let (removed, s') := s.clearHistory
    (.ok (Wire.Cleared.mk removed).toJson, s')
  | .state => (.ok (state s).toJson, s)
  | .snapshot => (.ok (snapshot s).toJson, s)
  | .reset =>
    let (s', _) := s.reset
    (.ok (wasReset s').toJson, s')
  | .builtins => (.ok builtins.toJson, s)
  | .resolve word => ((resolve s word).map Wire.Resolved.toJson, s)
  | .node => withValid s (pathOf r) fun path => ((node s path).map Wire.NodeView.toJson, s)
  | .list => ((list s (r.query? "path")).map Wire.Listing.toJson, s)
  | .validate => (.ok (validate s).toJson, s)
  | .environment => (.ok (environment s).toJson, s)
  | .variableNamed name => ((variableNamed s name).map Wire.Variable.toJson, s)
  | .welcome => (.ok welcome, s)
  | .health => (.ok health.toJson, s)

/-- The endpoints that answer without a session. -/
def serveWithout : Endpoint → Except Failure Json
  | .builtins => .ok builtins.toJson
  | .welcome => .ok welcome
  | .health => .ok health.toJson
  | _ => .error .noSession

/-- A failure whose reply has no JSON text is replied to as an invalid value. -/
def replyTo : Except Failure Json → Reply
  | .ok body => Reply.ok body
  | .error failure =>
    if failure.reply.isFinite then failure.reply else (Failure.invalidValue Json.notFinite).reply

/-- The reply to a request, and the session after it. -/
def handle (session : Option Session) (r : Request) : Reply × Option Session :=
  match target r.method r.path with
  | .endpoint e =>
    match session with
    | some s =>
      let (answer, s') := serve s r e
      (replyTo answer, some s')
    | none => (replyTo (serveWithout e), none)
  | .wrongMethod allowed =>
    ({ Reply.detail 405 "Method Not Allowed" with allow := some allowed }, session)
  | .redirect path => (⟨307, none, some (location r path), none⟩, session)
  | .nowhere => (Reply.detail 404 "Not Found", session)

end Service

end TreeShell.Http
