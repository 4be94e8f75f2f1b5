/-
  TreeShell.Http.Failure — requests that cannot be served, and the replies to them.

  A failed command is not among them: it is an ordinary result. An unexpected failure
  shows its kind and nothing else. What was asked for is kept as the value that the reply
  repeats. A reply to a faulty request repeats the request without the fields whose names
  are reserved.
-/

import TreeShell.Http.Message
import TreeShell.Schema

namespace TreeShell.Http

inductive Failure where
  | pathNotFound (path : Json)
  | variableNotFound (name available : Json)
  | commandNotFound (word searchPath : Json)
  | notADirectory (path : Text)
  /-- Settings that could not be read. -/
  | invalidSettings (problems : List Schema.Problem)
  /-- The request's body or query could not be read. -/
  | invalidRequest (problems : List Schema.Problem)
  | invalidValue (why : Text)
  | noSession
  | runtime (why : Text)
  | unexpected (kind why : Text)

namespace Failure

def noSessionDetail : Text :=
  "ShellSession not initialized. Call initialize_shell_session() first."

/-! ## Reserved names -/

def isReserved (name : Text) : Bool := Text.startsWith "_sa" name

mutual

/-- The value without the fields of reserved names. -/
def unreserved : Json → Json
  | .arr items => .arr (unreservedItems items)
  | .obj fields => .obj (unreservedFields fields)
  | x => x

def unreservedItems : List Json → List Json
  | [] => []
  | x :: xs => unreserved x :: unreservedItems xs

def unreservedFields : List (Text × Json) → List (Text × Json)
  | [] => []
  | (name, x) :: rest =>
    if isReserved name then unreservedFields rest else (name, unreserved x) :: unreservedFields rest

end

/-! ## Descriptions and replies -/

/-- The failure in one line, where it has one. -/
def description : Failure → Option Text
  | pathNotFound path => some ("Path '" ++ path.display ++ "' not found")
  | variableNotFound name _ => some ("Variable '" ++ name.display ++ "' not set")
  | commandNotFound word _ => some ("Command '" ++ word.display ++ "' not found")
  | notADirectory path => some ("Path '" ++ path ++ "' is not a directory")
  | invalidSettings _ => none
  | invalidRequest _ => none
  | invalidValue why => some why
  | noSession => some noSessionDetail
  | runtime why => some why
  | unexpected _ why => some why

/-- The reply with the fields `error` and `detail` and what else belongs to the failure. -/
def explained (status : Nat) (error detail : Text) (others : List (Text × Json)) : Reply :=
  ⟨status, some (.obj (("error", .str error) :: ("detail", .str detail) :: others)), none, none⟩

def runtimeReply (why : Text) : Reply :=
  explained 500 "Runtime Error" why [("type", .str "RuntimeError")]

def reply : Failure → Reply
  | pathNotFound path =>
    explained 404 "Path Not Found" ("The path '" ++ path.display ++ "' does not exist")
      [("requested_path", path)]
  | variableNotFound name available =>
    explained 404 "Variable Not Found" ("The variable '" ++ name.display ++ "' is not set")
      [("requested_variable", name), ("available_variables", available)]
  | commandNotFound word searchPath =>
    explained 404 "Command Not Found"
      ("The command '" ++ word.display ++ "' is not a builtin and is not on the search path")
      [("requested_command", word), ("search_path", searchPath)]
  | notADirectory path => Reply.detail 400 ("Path '" ++ path ++ "' is not a directory")
  | invalidSettings problems =>
    explained 422 "Validation Error" "The request data failed validation"
      [("validation_errors", .arr (problems.map Schema.Problem.toJson))]
  | invalidRequest problems =>
    ⟨422, some (.obj [("detail", unreserved (.arr (problems.map Schema.Problem.toJson)))]), none, none⟩
  | invalidValue why => explained 400 "Invalid Value" why [("type", .str "ValueError")]
  | noSession => runtimeReply noSessionDetail
  | runtime why => runtimeReply why
  | unexpected kind _ =>
    explained 500 "Internal Server Error" "An unexpected error occurred" [("type", .str kind)]

end Failure

end TreeShell.Http
