/-
  TreeShell.Client.Local — transports that need no network.

  `inProcess` hands requests to the service and carries values unchanged; its state is
  the service's. `scripted` plays outcomes from a list, the last one again and again.
-/

import TreeShell.Client.Exchange
import TreeShell.Http.Service

namespace TreeShell.Client

open Http

def Sent.toRequest (r : Sent) : Request :=
  { method := r.method
    path := r.path
    query := r.query
    body := if r.body.isNull then none else some r.body }

def Response.ofReply (r : Reply) : Response :=
  ⟨r.status, match r.body with
    | some value => .json value
    | none => .text []⟩

def inProcess : Transport (Option Session) := fun sent session =>
  let (reply, session) := Service.handle session sent.toRequest
  (.answered (.ofReply reply), session)

/-- Without any outcome the connection fails. -/
def scripted : Transport (List Outcome) := fun _ outcomes =>
  match outcomes with
  | [] => (.failed "ConnectError", [])
  | [last] => (last, [last])
  | next :: rest => (next, rest)

end TreeShell.Client
