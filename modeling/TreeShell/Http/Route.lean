/-
  TreeShell.Http.Route — which endpoint a request reaches.

  A fixed path may be followed by one line feed. A path with a name at its end matches any
  rest that is not empty and has no slash. The first route whose path matches decides what
  method a request of another method is told to use. A path that would match with its
  trailing slashes removed, or with one added, is redirected there.

  The routes are the service's own. The pages in which the web framework describes them,
  `/docs` with its `/docs/oauth2-redirect`, `/redoc` and `/openapi.json`, are none of them:
  they only show this table, and no endpoint here depends on them.
-/

import TreeShell.Http.Message
import TreeShell.Http.Percent

namespace TreeShell.Http

inductive Endpoint where
  | execute
  | history
  | clearHistory
  | state
  | snapshot
  | reset
  | builtins
  | resolve (word : Text)
  | node
  | list
  | validate
  | environment
  | variableNamed (name : Text)
  | welcome
  | health
  deriving DecidableEq

inductive Pattern where
  | fixed (path : Text) (endpoint : Endpoint)
  /-- A base, up to and with its last slash, and a name. -/
  | named (base : Text) (endpoint : Text → Endpoint)

structure Route where
  method : Text
  pattern : Pattern

def Pattern.endpoint? (path : Text) : Pattern → Option Endpoint
  | .fixed p endpoint => if path = p || path = p ++ ['\n'] then some endpoint else none
  | .named base endpoint =>
    if Text.startsWith base path then
      let name := path.drop base.length
      if name = [] || name.contains '/' then none else some (endpoint name)
    else none

def routes : List Route :=
  [⟨"POST", .fixed "/shell/execute" .execute⟩,
   ⟨"GET", .fixed "/shell/history" .history⟩,
   ⟨"DELETE", .fixed "/shell/history" .clearHistory⟩,
   ⟨"GET", .fixed "/shell/state" .state⟩,
   ⟨"GET", .fixed "/shell/snapshot" .snapshot⟩,
   ⟨"POST", .fixed "/shell/reset" .reset⟩,
   ⟨"GET", .fixed "/shell/commands" .builtins⟩,
   ⟨"GET", .named "/shell/resolve/" .resolve⟩,
   ⟨"GET", .fixed "/filesystem/nodes" .node⟩,
   ⟨"GET", .fixed "/filesystem/list" .list⟩,
   ⟨"GET", .fixed "/filesystem/validate" .validate⟩,
   ⟨"GET", .fixed "/environment/variables" .environment⟩,
   ⟨"GET", .named "/environment/variables/" .variableNamed⟩,
   ⟨"GET", .fixed "/" .welcome⟩,
   ⟨"GET", .fixed "/health" .health⟩]

/-- The routes whose path matches, with the endpoint each leads to. -/
def matching (path : Text) : List (Text × Endpoint) :=
  routes.filterMap fun r => (r.pattern.endpoint? path).map fun endpoint => (r.method, endpoint)

inductive Target where
  | endpoint (e : Endpoint)
  | wrongMethod (allowed : Text)
  | redirect (path : Text)
  | nowhere
  deriving DecidableEq

def endsWithSlash (path : Text) : Bool := path.getLast? == some '/'

/-- The path as it would be without its trailing slashes, or with one. -/
def otherSpelling (path : Text) : Text :=
  if endsWithSlash path then Text.dropEndWhile (· == '/') path else path ++ ['/']

def target (method path : Text) : Target :=
  match matching path with
  | (allowed, first) :: others =>
    match ((allowed, first) :: others).find? fun m => m.1 == method with
    | some (_, e) => .endpoint e
    | none => .wrongMethod allowed
  | [] =>
    if path ≠ ['/'] && !(matching (otherSpelling path)).isEmpty then .redirect (otherSpelling path)
    else .nowhere

/-! ## Redirection -/

/-- Left as they are in the address of a redirection. -/
def keptInLocation (c : Char) : Bool :=
  Percent.unreserved c || ":/%#?=@[]!$&'()*+,;".toList.contains c

def location (r : Request) (path : Text) : Text :=
  let query := if r.query = [] then [] else '?' :: Percent.encodeQuery r.query
  Percent.encode keptInLocation ("http://" ++ r.host ++ path ++ query)

end TreeShell.Http
