/-
  TreeShell.Client.Response — answers of the server, and the errors that they amount to.

  An error body may hold a list of problems, a detail text, or an error with a type; a
  body of another form is its own message. The status alone decides the kind of the
  error, except that the type is read from the body where the kind has none. A body that
  is not JSON is a text, but one whose lists and objects stand too deep in each other is
  not read at all. How deep is too deep is a parameter. Nor is one read that has half a
  character in it, which is no text here.
-/

import TreeShell.Client.Error
import TreeShell.Json.Reader

namespace TreeShell.Client

/-- What came with an answer: text, or a value that was handed over as one. -/
inductive Content where
  | text (raw : Text)
  | json (value : Json)

structure Response where
  status : Int
  content : Content

namespace Response

/-- The value of the body, read up to this depth. -/
def json (r : Response) (depth : Nat) : Except Json.Reader.Fault Json :=
  match r.content with
  | .text raw => Json.Reader.parseOctets depth raw
  | .json value => .ok value

def isEmpty (r : Response) : Bool :=
  match r.content with
  | .text raw => raw == []
  | .json _ => false

def rawText (r : Response) : Text :=
  match r.content with
  | .text raw => raw
  | .json _ => []

def isSuccess (r : Response) : Bool := 200 ≤ r.status && r.status ≤ 299

/-! ## Error bodies -/

/-- The last element of a location; one that is nothing is unknown. -/
def lastOf (location : Json) : Except ProblemFault Json :=
  if location.isNothing then .ok (.str "unknown")
  else
    match location with
    | .arr items => .ok (items.getLast?.getD .null)
    | .str s => .ok (.str (s.getLast?.toList))
    | .obj _ => .error .keyedLocation
    | _ => .error .noLastElement

def describeProblem : Json → Except ProblemFault Text
  | .obj fields => do
    let place ← lastOf ((Json.get? fields "loc").getD .null)
    let message := (Json.get? fields "msg").getD (.str "invalid")
    return place.display ++ ": " ++ message.display
  | _ => .error .notAnObject

def describeProblems (problems : List Json) : Except ProblemFault Text := do
  return Text.join "; " (← problems.mapM describeProblem)

/-- What an error body says. -/
structure Description where
  message : Text
  errorType : Json
  details : Json

def describeObject (fields : List (Text × Json)) : Except ProblemFault Description :=
  let body := Json.obj fields
  let get (name : Text) := (Json.get? fields name).getD .null
  match get "detail" with
  | .arr problems => do
    return ⟨← describeProblems problems, .str "validation_error", .obj [("errors", .arr problems)]⟩
  | .str detail => .ok ⟨detail, if (get "error").isNothing then get "type" else get "error", body⟩
  | _ =>
    match Json.get? fields "error" with
    | some error => .ok ⟨error.display, get "type", body⟩
    | none => .ok ⟨body.display, .null, .null⟩

/-- The body as a value; as its text if it is not JSON. -/
def body (r : Response) (depth : Nat) : Except CallError Json :=
  match r.json depth with
  | .ok value => .ok value
  | .error .tooDeep => .error (.unreadable .tooDeep)
  | .error .halfCharacter => .error (.unreadable .halfCharacter)
  | .error _ => .ok (.str r.rawText)

/-- What the text of a body that is not JSON says. -/
def describeText (r : Response) : Description :=
  let shown := Text.trim r.rawText
  ⟨if shown = [] then "HTTP " ++ Text.ofInt r.status ++ " error" else shown, .null, .null⟩

def describe (r : Response) (depth : Nat) : Except CallError Description :=
  match r.json depth with
  | .ok (.obj fields) => (describeObject fields).mapError .undescribable
  | .ok body => .ok ⟨body.display, .null, .null⟩
  | .error .tooDeep => .error (.unreadable .tooDeep)
  | .error .halfCharacter => .error (.unreadable .halfCharacter)
  | .error _ => .ok r.describeText

/-! ## Outcome -/

def kindOf (status : Int) : ApiKind :=
  if status = 422 then .validation
  else if status = 404 then .notFound
  else if 500 ≤ status then .server
  else .general

/-- The type of the kinds that have one of their own. -/
def typeOf (kind : ApiKind) (found : Json) : Json :=
  match kind with
  | .general => found
  | .validation => .str "validation_error"
  | .notFound => .str "not_found"
  | .server => .str "server_error"

def errorOf (r : Response) (d : Description) (body : Json) : ApiError where
  kind := kindOf r.status
  message := d.message
  status := r.status
  errorType := typeOf (kindOf r.status) d.errorType
  details := d.details
  body := body

/-- Nothing for a successful answer. -/
def check (r : Response) (depth : Nat) : Except CallError Unit :=
  if r.isSuccess then .ok ()
  else do
    let description ← r.describe depth
    let body ← r.body depth
    .error (.client (.api (r.errorOf description body)))

/-- The value of a successful answer, null if it is empty. -/
def value (r : Response) (depth : Nat) : Except CallError Json := do
  r.check depth
  if r.isEmpty then return .null else (r.json depth).mapError .unreadable

end Response

end TreeShell.Client
