/-
  TreeShell.Client.Exchange — one call over a transport, sent again where that is allowed.

  A transport answers a request or fails. With retries enabled a failure of transport and
  the statuses 502, 503 and 504 make the client wait and send the same request again, as
  long as attempts are left; the last outcome alone decides the result. The transport may
  have a state of its own, which is handed through.
-/

import TreeShell.Client.Backoff
import TreeShell.Client.Response
import TreeShell.Client.Url
import TreeShell.Text.Capitals

namespace TreeShell.Client

/-- What a client is made with, and how deep the answers are that it can read. The base
    address has to be given. -/
structure Settings where
  baseUrl : Text
  /-- The time limit, a number. -/
  timeout : Json := .float 30.0
  retryEnabled : Bool := false
  maxRetries : Int := 3
  /-- So many lists and objects may stand in each other in an answer. The machine sets this
      limit, not who makes the client. -/
  depth : Nat

/-- The base address without slashes at its end. -/
def Settings.base (s : Settings) : Text := Text.dropEndWhile (· == '/') s.baseUrl

/-- The attempts after the first. -/
def Settings.retries (s : Settings) : Nat := if s.retryEnabled then s.maxRetries.toNat else 0

/-- Settings with the base address that they name. -/
structure Connection where
  settings : Settings
  base : Url

def Settings.connect? (s : Settings) : Option Connection := (Url.base? s.base).map (⟨s, ·⟩)

/-! ## Transport -/

/-- A request as it is sent. -/
structure Sent where
  method : Text
  path : Text
  query : List (Text × Text)
  body : Json

inductive FaultKind where
  | timeout
  | connection
  | foreign
  deriving DecidableEq, Repr

/-- The named failures of transport that are not timeouts. -/
def connectionFaults : List Text :=
  ["TransportError", "NetworkError", "ConnectError", "ReadError", "WriteError", "CloseError",
   "ProtocolError", "LocalProtocolError", "RemoteProtocolError", "ProxyError",
   "UnsupportedProtocol"]

def timeoutFaults : List Text :=
  ["TimeoutException", "ConnectTimeout", "ReadTimeout", "WriteTimeout", "PoolTimeout"]

def FaultKind.ofName (name : Text) : FaultKind :=
  if timeoutFaults.contains name then .timeout
  else if connectionFaults.contains name then .connection
  else .foreign

inductive Outcome where
  | failed (name : Text)
  | answered (response : Response)
  /-- An answer came from an address that answers are not taken from. -/
  | refused (fault : Origin.Fault)

abbrev Transport (σ : Type) := Sent → σ → Outcome × σ

def retryStatuses : List Int := [502, 503, 504]

def Outcome.mayRetry : Outcome → Bool
  | failed name => FaultKind.ofName name ≠ .foreign
  | answered r => retryStatuses.contains r.status
  | refused _ => false

/-- What a call with this last outcome comes to; `url` is what it was sent to. -/
def Outcome.conclude (s : Settings) (url : Text) : Outcome → Except CallError Json
  | answered r => r.value s.depth
  | refused fault => .error (.origin fault)
  | failed name =>
    match FaultKind.ofName name with
    | .timeout =>
      .error (.client (.timeout ("Request to " ++ url ++ " timed out") s.timeout (some url)))
    | .connection =>
      .error (.client (.connection ("Failed to connect to " ++ url) (some url) (some name)))
    | .foreign => .error (.foreign name)

/-! ## Exchange -/

/-- A call with all that it did. -/
structure Call (σ α : Type) where
  result : Except CallError α
  requests : List Sent
  /-- Seconds waited, in order. -/
  delays : List Float
  state : σ

def Call.andThen {σ α β : Type} (c : Call σ α) (f : α → Except CallError β) : Call σ β :=
  { result := c.result.bind f, requests := c.requests, delays := c.delays, state := c.state }

/-- Sends `request` as attempt number `attempt`, with `left` more attempts allowed. The
    blocking client and the awaited one are both this exchange: they decide alike what is
    sent, retried and returned, and differ in how they wait for the transport and through a
    delay, of which only the length is part of a call. -/
def exchange {σ : Type} (s : Settings) (url : Text) (transport : Transport σ) (request : Sent) :
    (left attempt : Nat) → σ → Call σ Json
  | 0, _, state =>
    let (outcome, state) := transport request state
    ⟨outcome.conclude s url, [request], [], state⟩
  | left + 1, attempt, state =>
    let (outcome, state) := transport request state
    if outcome.mayRetry then
      match backoff backoffBase attempt with
      | none => ⟨.error .waitOverflow, [request], [], state⟩
      | some delay =>
        let rest := exchange s url transport request left (attempt + 1) state
        { rest with requests := request :: rest.requests, delays := delay :: rest.delays }
    else ⟨outcome.conclude s url, [request], [], state⟩

/-! ## Queries -/

/-- The text of a value in a query. -/
def queryText : Json → Text
  | .null => []
  | .bool b => if b then "true" else "false"
  | x => x.display

/-- A list stands for its elements, one after another. -/
def queryPairs : Text × Json → List (Text × Text)
  | (key, .arr items) => items.map fun x => (key, queryText x)
  | (key, x) => [(key, queryText x)]

/-- The parameters of a call, null ones left out. Null is no parameters, and what else
    counts as nothing is an empty list of them. -/
def paramsOf : Json → Except CallError (Option (List (Text × Json)))
  | .null => .ok none
  | .obj fields => .ok (some (fields.filter fun p => !p.2.isNull))
  | x => if x.isNothing then .ok (some []) else .error .badParams

/-! ## Requests -/

/-- A request and where it goes. -/
structure Addressed where
  url : Url
  sent : Sent

/-- The query that parameters make; without any there is none. -/
def encodedQuery (params : List (Text × Json)) : Option Text :=
  if params.isEmpty then none else some (Http.Percent.encodeQuery (params.flatMap queryPairs))

/-- The address of a path, with the parameters in place of its query if they are given. -/
def urlFor (base : Url) (path : Text) : Option (List (Text × Json)) → Option Url
  | none => base.resolve path
  | some params => do (← base.resolve path).withQuery (encodedQuery params)

/-- What is sent for a path, parameters and a body; null is no body. The method is written
    in capitals. -/
def addressed (c : Connection) (method path : Text) (params body : Json) :
    Except CallError Addressed := do
  let given ← paramsOf params
  match urlFor c.base path given with
  | none => .error .invalidUrl
  | some url =>
    if body.allFinite then
      let query := (given.map fun params => params.flatMap queryPairs).getD url.decodedQuery
      return ⟨url, ⟨Text.capitals method, url.decodedPath, query, body⟩⟩
    else .error .notFinite

/-- Answers are taken only where their origin stands the check. -/
def checked {σ : Type} (url : Url) (transport : Transport σ) : Transport σ := fun sent state =>
  match transport sent state with
  | (.answered response, state) =>
    (match Origin.check url with
      | .ok _ => .answered response
      | .error fault => .refused fault, state)
  | failed => failed

/-- A call of `method` on `path`. -/
def request {σ : Type} (c : Connection) (transport : Transport σ) (method path : Text)
    (params body : Json) (state : σ) : Call σ Json :=
  match addressed c method path params body with
  | .ok a => exchange c.settings (c.settings.base ++ path) (checked a.url transport) a.sent
      c.settings.retries 0 state
  | .error e => ⟨.error e, [], [], state⟩

end TreeShell.Client
