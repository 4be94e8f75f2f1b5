/-
  TreeShell.Http.Message — requests and replies of the service.
-/

import TreeShell.Json

namespace TreeShell.Http

structure Request where
  method : Text
  /-- Decoded. -/
  path : Text
  query : List (Text × Text) := []
  body : Option Json := none
  host : Text := []

/-- Of a repeated key the last value counts. -/
def Request.query? (r : Request) (key : Text) : Option Text :=
  (r.query.reverse.find? fun pair => pair.1 == key).map Prod.snd

structure Reply where
  status : Nat
  /-- Nothing when the reply is empty. -/
  body : Option Json
  location : Option Text := none
  allow : Option Text := none

/-- Whether there is JSON text for its body. -/
def Reply.isFinite (r : Reply) : Bool := r.body.all Json.allFinite

def Reply.ok (body : Json) : Reply := ⟨200, some body, none, none⟩

/-- A reply that is no more than its explanation. -/
def Reply.detail (status : Nat) (detail : Text) : Reply :=
  ⟨status, some (.obj [("detail", .str detail)]), none, none⟩

end TreeShell.Http
