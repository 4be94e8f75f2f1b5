/-
  TreeShell.Client.Error — why a call of the client fails.

  A `ClientError` is what the client reports about the server or the way to it. The other
  causes of a `CallError` are requests and answers that the client cannot make sense of.
-/

import TreeShell.Client.Origin
import TreeShell.Json.Reader
import TreeShell.Schema

namespace TreeShell.Client

/-- Error statuses fall into four kinds; the first is for all that have none of their own. -/
inductive ApiKind where
  | general
  | validation
  | notFound
  | server
  deriving DecidableEq, Repr

/-- The server answered with an error status. Type and details are null where the answer
    has none. -/
structure ApiError where
  kind : ApiKind
  message : Text
  status : Int
  errorType : Json
  details : Json
  /-- The answer's body, as JSON if it is JSON and as text if not. -/
  body : Json

inductive ClientError where
  | general (message : Text)
  | connection (message : Text) (url cause : Option Text)
  /-- The time limit is a number, null if it is not known. -/
  | timeout (message : Text) (limit : Json) (url : Option Text)
  | api (error : ApiError)

namespace ClientError

def message : ClientError → Text
  | general m => m
  | connection m _ _ => m
  | timeout m _ _ => m
  | api e => e.message

/-- An empty address counts as none. -/
def urlNote (url : Option Text) : List Text :=
  match url with
  | none | some [] => []
  | some u => ["url: " ++ u]

def limitNote (limit : Json) : List Text :=
  if limit.isNull then [] else ["timeout: " ++ limit.display ++ ['s']]

def withNotes (message : Text) (notes : List Text) : Text :=
  if notes = [] then message else message ++ " (" ++ Text.join ", " notes ++ [')']

/-- The message with what else is known. -/
def display : ClientError → Text
  | general m => m
  | connection m url _ => withNotes m (urlNote url)
  | timeout m limit url => withNotes m (limitNote limit ++ urlNote url)
  | api e =>
    let typeNote : Text := if e.errorType.isNothing then [] else " [" ++ e.errorType.display ++ "]"
    "[HTTP " ++ Text.ofInt e.status ++ "]" ++ typeNote ++ " " ++ e.message

end ClientError

/-- What is wrong with an entry of a list of problems that cannot be put into words. -/
inductive ProblemFault where
  | notAnObject
  /-- Its location has no last element, not being a list or text. -/
  | noLastElement
  /-- Its location is an object. -/
  | keyedLocation
  deriving DecidableEq

inductive CallError where
  | client (error : ClientError)
  | undescribable (fault : ProblemFault)
  /-- The parameters are no object. -/
  | badParams
  | invalidUrl
  /-- The request has a body that cannot be sent. -/
  | notFinite
  /-- An answer came from an address that answers are not taken from. -/
  | origin (fault : Origin.Fault)
  /-- The body of an answer cannot be read. -/
  | unreadable (fault : Json.Reader.Fault)
  /-- A successful answer without an object. -/
  | notAnObject
  | rejected (problems : List Schema.Problem)
  /-- The wait before the next attempt cannot be computed. -/
  | waitOverflow
  /-- A failure, by its name, that is not one of transport. -/
  | foreign (name : Text)

/-- What is said of the errors that are about a value, where that is all they say. -/
def CallError.message : CallError → Option Text
  | notFinite => some Json.notFinite
  | origin fault => some fault.message
  | unreadable (.tooLong digits) => some (Json.Reader.tooLongMessage digits)
  | _ => none

end TreeShell.Client
