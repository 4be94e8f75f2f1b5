/-
  TreeShell.Client — the client of the service.

  One function for each thing the service offers, over any transport. Arguments that
  go into the path are put there as they are; those that go into a body or a query are
  JSON values, and the service refuses what it cannot use.
-/

import TreeShell.Client.Exchange
import TreeShell.Wire

namespace TreeShell.Client

open Schema

/-- The address of the service, if none is given. -/
def defaultBaseUrl : Text := "http://localhost:8000"

/-- The settings of a client that is made with none. -/
def standard (depth : Nat) : Settings := { baseUrl := defaultBaseUrl, depth }

variable {σ : Type} (c : Connection) (transport : Transport σ)

/-- The record that an answer holds. -/
def decode {α : Type} (read : List (Text × Json) → Checked α) : Json → Except CallError α
  | .obj fields =>
    match read fields with
    | .valid a => .ok a
    | .invalid problems => .error (.rejected problems)
  | _ => .error .notAnObject

def get {α : Type} (path : Text) (params : Json) (read : List (Text × Json) → Checked α)
    (state : σ) : Call σ α :=
  (request c transport "GET" path params .null state).andThen (decode read)

def post {α : Type} (path : Text) (body : Json) (read : List (Text × Json) → Checked α) (state : σ) :
    Call σ α :=
  (request c transport "POST" path .null body state).andThen (decode read)

def delete {α : Type} (path : Text) (read : List (Text × Json) → Checked α) (state : σ) : Call σ α :=
  (request c transport "DELETE" path .null .null state).andThen (decode read)

/-! ## Shell -/

def execute (line : Json) : σ → Call σ Wire.Executed :=
  post c transport "/shell/execute" (.obj [("line", line)]) Wire.Executed.read

def history : σ → Call σ Wire.History := get c transport "/shell/history" .null Wire.History.read

def clearHistory : σ → Call σ Wire.Cleared :=
  delete c transport "/shell/history" Wire.Cleared.read

def state : σ → Call σ Wire.State := get c transport "/shell/state" .null Wire.State.read

def snapshot : σ → Call σ Wire.Snapshot :=
  get c transport "/shell/snapshot" .null Wire.Snapshot.read

def reset : σ → Call σ Wire.WasReset :=
  post c transport "/shell/reset" .null Wire.WasReset.read

def builtins : σ → Call σ Wire.Builtins :=
  get c transport "/shell/commands" .null Wire.Builtins.read

def resolve (word : Text) : σ → Call σ Wire.Resolved :=
  get c transport ("/shell/resolve/" ++ word) .null Wire.Resolved.read

/-! ## Tree -/

def node (path : Json) : σ → Call σ Wire.NodeView :=
  get c transport "/filesystem/nodes" (.obj [("path", path)]) Wire.NodeView.read

/-- Null lists the current directory. -/
def list (path : Json) : σ → Call σ Wire.Listing :=
  get c transport "/filesystem/list" (.obj [("path", path)]) Wire.Listing.read

def validate : σ → Call σ Wire.Check :=
  get c transport "/filesystem/validate" .null Wire.Check.read

/-! ## Environment and health -/

def environment : σ → Call σ Wire.Variables :=
  get c transport "/environment/variables" .null Wire.Variables.read

def variableNamed (name : Text) : σ → Call σ Wire.Variable :=
  get c transport ("/environment/variables/" ++ name) .null Wire.Variable.read

def health : σ → Call σ Wire.Health := get c transport "/health" .null Wire.Health.read

end TreeShell.Client
