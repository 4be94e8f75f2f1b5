/-
  TreeShell.Proofs.Client.Local — calls of a client whose service is in the same process.

  The client's base address is a root (`Url.IsRoot`). A call of a plain path is then one
  request, and its reply decides the call at once: no reply of the service is one that the
  client would ask for again (`request_inProcess`). What an endpoint answers with is what
  the call comes to, or the failure with the status and the body of its reply.

  Main statement: on the session after any operations the calls come to what the session
  itself says, and only running a line changes it (`calls_agree`). Queries count only as
  far as an address holds them (`IsCarried`).
-/

import TreeShell.Proofs.Client.Url
import TreeShell.Proofs.Http.Service
import TreeShell.Proofs.Wire

namespace TreeShell

namespace Client

open Http

/-! ## One request, one reply -/

theorem mayRetry_ofReply {r : Reply} (h : r.status < 500) :
    (Outcome.answered (.ofReply r)).mayRetry = false := by
  have hstatus : (r.status : Int) < 500 := by omega
  show retryStatuses.contains (r.status : Int) = false
  simp [retryStatuses]
  omega

section

variable {c : Connection} {method path : Text} {params body : Json} {a : Addressed} {s : Session}

/-- The first answer ends the call. -/
theorem request_inProcess (ha : addressed c method path params body = .ok a)
    (hcheck : Origin.check a.url = .ok ()) :
    request c inProcess method path params body (some s) =
      ⟨(Response.ofReply (Service.handle (some s) a.sent.toRequest).1).value c.settings.depth, [a.sent], [],
        (Service.handle (some s) a.sent.toRequest).2⟩ := by
  have hanswer : checked a.url inProcess a.sent (some s) =
      (.answered (.ofReply (Service.handle (some s) a.sent.toRequest).1),
        (Service.handle (some s) a.sent.toRequest).2) := by
    unfold checked inProcess
    simp only [hcheck]
  have houtcome : (checked a.url inProcess).outcomes a.sent (some s) 0 =
      .answered (.ofReply (Service.handle (some s) a.sent.toRequest).1) := congrArg Prod.fst hanswer
  have hfinal := mayRetry_ofReply (Service.handle_status_lt s a.sent.toRequest)
  rw [request_of_addressed ha, exchange_last (.inr (houtcome ▸ hfinal)), houtcome]
  exact congrArg (fun state => Call.mk _ _ _ state) (congrArg Prod.snd hanswer)

end

/-- What a call sends for a plain path. -/
def sentFor (method path : Text) (given : Option (List (Text × Json))) (body : Json) : Sent :=
  ⟨Text.capitals method, Percent.decode path,
    (given.map fun params => params.flatMap queryPairs).getD [], body⟩

/-- The call goes out with the parameters `given`, and to the endpoint `e`. -/
structure Reaches (method path : Text) (params body : Json) (given : Option (List (Text × Json)))
    (e : Endpoint) : Prop where
  plain : Url.IsPlain path
  params_eq : paramsOf params = .ok given
  short : Url.isShort ((given.bind encodedQuery).getD []) = true
  finite : body.allFinite = true
  target_eq : target (Text.capitals method) (Percent.decode path) = .endpoint e

/-- The call comes to `a` and leaves the session `s`. -/
structure Call.Gives {α : Type} (call : Call (Option Session) α) (a : α) (s : Session) : Prop where
  result_eq : call.result = .ok a
  state_eq : call.state = some s

/-- The service reports the error `e`, and the session is `s`. -/
structure Call.Reports {α : Type} (call : Call (Option Session) α) (e : ApiError) (s : Session) : Prop where
  result_eq : call.result = .error (.client (.api e))
  state_eq : call.state = some s

/-- The error of a path where there is nothing. -/
def ApiError.IsNotFoundAt (e : ApiError) (path : Text) : Prop :=
  e.kind = .notFound ∧ ∃ fields, e.body = .obj fields ∧ Json.get? fields "requested_path" = some (.str path)

/-- The error of a bad request, which has no kind of its own. -/
def ApiError.IsBadRequest (e : ApiError) : Prop := e.kind = .general ∧ e.status = 400

section

variable {c : Connection} {method path : Text} {params body : Json}
  {given : Option (List (Text × Json))} {e : Endpoint} {s s' : Session} {α : Type}
  {read : List (Text × Json) → Schema.Checked α}

theorem request_of_reaches (hroot : c.base.IsRoot) (h : Reaches method path params body given e)
    {answer : Except Failure Json}
    (hserve : Service.serve s (sentFor method path given body).toRequest e = (answer, s')) :
    request c inProcess method path params body (some s) =
      ⟨(Response.ofReply (Service.replyTo answer)).value c.settings.depth, [sentFor method path given body], [],
        some s'⟩ := by
  have hhandle : Service.handle (some s) (sentFor method path given body).toRequest =
      (Service.replyTo answer, some s') := by
    have htarget : target (sentFor method path given body).toRequest.method
        (sentFor method path given body).toRequest.path = .endpoint e := h.target_eq
    unfold Service.handle
    rw [htarget]
    simp only [hserve]
  have ha : addressed c method path params body = .ok ⟨_, sentFor method path given body⟩ :=
    addressed_of_isPlain hroot h.plain h.params_eq h.short h.finite
  have hcall := request_inProcess (s := s) ha (check_of_isPlain hroot h.plain _)
  simp only [hhandle] at hcall
  exact hcall

theorem gives_of_serve (hroot : c.base.IsRoot) (h : Reaches method path params body given e)
    {answer : Json} {a : α}
    (hserve : Service.serve s (sentFor method path given body).toRequest e = (.ok answer, s'))
    (hread : decode read answer = .ok a) :
    ((request c inProcess method path params body (some s)).andThen (decode read)).Gives a s' := by
  rw [request_of_reaches hroot h hserve]
  exact ⟨hread, rfl⟩

theorem reports_of_serve (hroot : c.base.IsRoot) (h : Reaches method path params body given e)
    {f : Failure} {error : ApiError}
    (hserve : Service.serve s (sentFor method path given body).toRequest e = (.error f, s'))
    (hvalue : (Response.ofReply (Service.replyTo (.error f))).value c.settings.depth = .error (.client (.api error))) :
    ((request c inProcess method path params body (some s)).andThen (decode read)).Reports error s' := by
  rw [request_of_reaches hroot h hserve, hvalue]
  exact ⟨rfl, rfl⟩

end

/-! ## Calls without a query -/

section

variable {c : Connection} (hroot : c.base.IsRoot) (s : Session)

include hroot

theorem execute_gives (line : Text) :
    (execute c inProcess (.str line) (some s)).Gives (Service.execute s line).1
      (Service.execute s line).2 := by
  have h : Reaches "POST" "/shell/execute" .null (.obj [("line", .str line)]) none .execute :=
    ⟨by decide, rfl, by decide, rfl, by decide⟩
  exact gives_of_serve hroot h rfl (decode_executed _)

theorem history_gives : (history c inProcess (some s)).Gives (Service.history s) s := by
  have h : Reaches "GET" "/shell/history" .null .null none .history :=
    ⟨by decide, rfl, by decide, rfl, by decide⟩
  exact gives_of_serve hroot h rfl (decode_history _)

theorem state_gives : (state c inProcess (some s)).Gives (Service.state s) s := by
  have h : Reaches "GET" "/shell/state" .null .null none .state :=
    ⟨by decide, rfl, by decide, rfl, by decide⟩
  exact gives_of_serve hroot h rfl (decode_state _)

theorem snapshot_gives : (snapshot c inProcess (some s)).Gives (Service.snapshot s) s := by
  have h : Reaches "GET" "/shell/snapshot" .null .null none .snapshot :=
    ⟨by decide, rfl, by decide, rfl, by decide⟩
  exact gives_of_serve hroot h rfl (decode_snapshot _)

theorem environment_gives : (environment c inProcess (some s)).Gives (Service.environment s) s := by
  have h : Reaches "GET" "/environment/variables" .null .null none .environment :=
    ⟨by decide, rfl, by decide, rfl, by decide⟩
  exact gives_of_serve hroot h rfl (decode_variables _)

end

/-! ## Calls with a path in the query -/

/-- As a query the path is short enough for an address. -/
def IsCarried (path : Text) : Prop := Url.isShort (Percent.encodeQuery [("path".toList, path)]) = true

instance (path : Text) : Decidable (IsCarried path) := inferInstanceAs (Decidable (_ = _))

theorem value_pathNotFound (path : Text) (depth : Nat) :
    ∃ e, (Response.ofReply (Service.replyTo (.error (.pathNotFound (.str path))))).value depth =
        .error (.client (.api e)) ∧
      e.IsNotFoundAt path :=
  ⟨_, rfl, rfl, _, rfl, rfl⟩

theorem value_notADirectory (path : Text) (depth : Nat) :
    ∃ e, (Response.ofReply (Service.replyTo (.error (.notADirectory path)))).value depth =
        .error (.client (.api e)) ∧
      e.IsBadRequest :=
  ⟨_, rfl, rfl, rfl⟩

theorem reaches_node {path : Text} (hpath : IsCarried path) :
    Reaches "GET" "/filesystem/nodes" (.obj [("path", .str path)]) .null (some [("path", .str path)]) .node :=
  ⟨by decide, rfl, hpath, rfl, by decide⟩

/-- Without a path there is no query. -/
def listed (path : Option Text) : List (Text × Json) :=
  (path.map fun path => ("path".toList, Json.str path)).toList

theorem reaches_list {path : Option Text} (hpath : ∀ p, path = some p → IsCarried p) :
    Reaches "GET" "/filesystem/list" (.obj [("path", Json.opt path)]) .null (some (listed path)) .list := by
  cases path with
  | none => exact ⟨by decide, rfl, by decide, rfl, by decide⟩
  | some path => exact ⟨by decide, rfl, hpath path rfl, rfl, by decide⟩

section

variable {c : Connection} (hroot : c.base.IsRoot) (s : Session)

include hroot

/-- The node at the normal form of the path, if there is one. -/
theorem node_spec {path : Text} (hpath : IsCarried path) :
    let call := node c inProcess (.str path) (some s)
    match s.shell.tree.nodes.get? (Path.normalize path) with
    | some n => call.Gives (Wire.NodeView.ofNode (Path.normalize path) n) s
    | none => ∃ e, call.Reports e s ∧ e.IsNotFoundAt (Path.normalize path) := by
  intro call
  have hserve : Service.serve s
      (sentFor "GET" "/filesystem/nodes" (some [("path", .str path)]) .null).toRequest .node =
      ((Service.node s path).map Wire.NodeView.toJson, s) := rfl
  rw [Service.node_eq] at hserve
  cases hnode : s.shell.tree.nodes.get? (Path.normalize path) with
  | some n =>
    rw [hnode] at hserve
    exact gives_of_serve hroot (reaches_node hpath) hserve (decode_nodeView _)
  | none =>
    rw [hnode] at hserve
    obtain ⟨e, hvalue, he⟩ := value_pathNotFound (Path.normalize path) c.settings.depth
    exact ⟨e, reports_of_serve hroot (reaches_node hpath) hserve hvalue, he⟩

/-- The names in the directory at a normal path, or what is there instead. -/
theorem list_spec {path : Option Text} (hpath : ∀ p, path = some p → IsCarried p) {key : Text}
    (hkey : Service.listedPath s path = key) (hnormal : Path.normalize key = key) :
    let call := list c inProcess (Json.opt path) (some s)
    match s.shell.tree.nodes.get? key with
    | some (.directory children) => call.Gives ⟨key, children.map fun name =>
        ⟨name, if s.shell.tree.isDirectoryAt (Path.child key name) then .directory else .file⟩, children.length⟩ s
    | some (.file _) => ∃ e, call.Reports e s ∧ e.IsBadRequest
    | none => ∃ e, call.Reports e s ∧ e.IsNotFoundAt key := by
  intro call
  have hquery :
      (sentFor "GET" "/filesystem/list" (some (listed path)) .null).toRequest.query? "path" = path := by
    cases path <;> rfl
  have hserve : Service.serve s
      (sentFor "GET" "/filesystem/list" (some (listed path)) .null).toRequest .list =
      ((Service.list s path).map Wire.Listing.toJson, s) := by
    unfold Service.serve
    simp only [hquery]
  have hreaches := reaches_list hpath
  rw [Service.list_eq hkey hnormal] at hserve
  cases hnode : s.shell.tree.nodes.get? key with
  | none =>
    rw [hnode] at hserve
    obtain ⟨e, hvalue, he⟩ := value_pathNotFound key c.settings.depth
    exact ⟨e, reports_of_serve hroot hreaches hserve hvalue, he⟩
  | some n =>
    rw [hnode] at hserve
    cases n with
    | file content =>
      obtain ⟨e, hvalue, he⟩ := value_notADirectory key c.settings.depth
      exact ⟨e, reports_of_serve hroot hreaches hserve hvalue, he⟩
    | directory children => exact gives_of_serve hroot hreaches hserve (decode_listing _)

/-- On the session after any operations the calls of a client at a root come to what the
    session itself says, and leave it as it is: the history, the counts, the snapshot and
    the variables in their order, and of a path that a query holds the node, or the names
    in the directory, at its normal form. Where nothing is the call fails and names the
    normal form, and a file cannot be listed. Without a path, or with an empty one, the
    current directory is listed. A line that is executed leaves the session, and gives the
    results, that it does without the client. -/
theorem calls_agree (id : Text) (config : Config) (clock : Clock) (actions : List Session.Action) :
    let s := (Session.create id config clock).after actions
    (∀ line, let x := s.execute line
      (execute c inProcess (.str line) (some s)).Gives
        ⟨x.results, x.results.any (·.erases), x.session.shell.cwd⟩ x.session) ∧
    (history c inProcess (some s)).Gives ⟨s.history, s.history.length⟩ s ∧
    (state c inProcess (some s)).Gives
      ⟨s.id, s.shell.cwd, s.shell.searchPath, s.history.length, s.shell.tree.summary⟩ s ∧
    (snapshot c inProcess (some s)).Gives
      ⟨s.id, s.shell.cwd, s.shell.searchPath, s.shell.environment.bindings.entries,
        s.shell.tree.snapshot.map fun (path, n) => (path, n.fields), s.history.length⟩ s ∧
    (environment c inProcess (some s)).Gives
      ⟨s.shell.environment.bindings.entries, s.shell.environment.bindings.size, s.shell.searchPath⟩ s ∧
    (∀ path, IsCarried path →
      let call := node c inProcess (.str path) (some s)
      match s.shell.tree.nodes.get? (Path.normalize path) with
      | some n => call.Gives (Wire.NodeView.ofNode (Path.normalize path) n) s
      | none => ∃ e, call.Reports e s ∧ e.IsNotFoundAt (Path.normalize path)) ∧
    ∀ path : Option Text, (∀ p, path = some p → IsCarried p) →
      let key := if path.getD [] = [] then s.shell.cwd else Path.normalize (path.getD [])
      let call := list c inProcess (Json.opt path) (some s)
      (path.getD [] = [] → s.shell.tree.isDirectoryAt key = true) ∧
      match s.shell.tree.nodes.get? key with
      | some (.directory children) => call.Gives ⟨key, children.map fun name =>
          ⟨name, if s.shell.tree.isDirectoryAt (Path.child key name) then .directory else .file⟩, children.length⟩ s
      | some (.file _) => ∃ e, call.Reports e s ∧ e.IsBadRequest
      | none => ∃ e, call.Reports e s ∧ e.IsNotFoundAt key := by
  intro s
  have hsettled : s.shell.Settled config :=
    Session.settled_after (s := Session.create id config clock) (Session.settled_seedShell config) actions
  refine ⟨execute_gives hroot s, history_gives hroot s, state_gives hroot s, snapshot_gives hroot s,
    environment_gives hroot s, fun path => node_spec hroot s, ?_⟩
  intro path hpath key call
  have hkey : Service.listedPath s path = key := by
    cases path with
    | none => rfl
    | some p => cases p <;> rfl
  by_cases hempty : path.getD [] = []
  · have hcwd : key = s.shell.cwd := if_pos hempty
    have hnormal : Path.normalize key = key := by rw [hcwd, hsettled.cwd_normal]
    exact ⟨fun _ => hcwd ▸ hsettled.cwd, list_spec hroot s hpath hkey hnormal⟩
  · have hnormal : Path.normalize key = key := by
      show Path.normalize (if path.getD [] = [] then _ else _) = if path.getD [] = [] then _ else _
      rw [if_neg hempty, Path.normalize_normalize]
    exact ⟨fun h => absurd h hempty, list_spec hroot s hpath hkey hnormal⟩

end

/-- A directory and a file in it, by paths that are not normal, and a path read from the root. -/
theorem calls_agree_docs :
    let c : Connection := ⟨standard 100, localhost⟩
    let s := (Session.create "s" Config.standard .stopped).after [.execute "mkdir docs & touch docs/a"]
    (c.settings.connect? = some c ∧ c.base.IsRoot) ∧
      (list c inProcess .null (some s)).Gives ⟨"/home/user", [⟨"docs", .directory⟩], 1⟩ s ∧
      (node c inProcess (.str "home//user/docs/") (some s)).Gives
        ⟨"/home/user/docs", .directory, some ["a".toList], none⟩ s ∧
      (∃ e, (list c inProcess (.str "/home/user/docs/a") (some s)).Reports e s ∧ e.IsBadRequest) ∧
      ∃ e, (node c inProcess (.str "docs") (some s)).Reports e s ∧ e.IsNotFoundAt "/docs" := by
  intro c s
  have hs : (Session.create "s" Config.standard .stopped).after [.execute "mkdir docs & touch docs/a"] = s :=
    rfl
  obtain ⟨-, -, -, -, -, hnode, hlist⟩ :=
    calls_agree (c := c) Url.isRoot_localhost "s" Config.standard .stopped
      [.execute "mkdir docs & touch docs/a"]
  rw [hs] at hnode hlist
  have hcwd : s.shell.cwd = "/home/user" := by decide
  have hhome : s.shell.tree.nodes.get? "/home/user" = some (.directory ["docs".toList]) := by decide
  have hdocs : s.shell.tree.nodes.get? "/home/user/docs" = some (.directory ["a".toList]) := by
    decide
  have hfile : s.shell.tree.nodes.get? "/home/user/docs/a" = some (.file []) := by decide
  have hnone : s.shell.tree.nodes.get? "/docs" = none := by decide
  have hchild : s.shell.tree.isDirectoryAt (Path.child "/home/user" "docs") = true := by decide
  have hlistHome := (hlist none nofun).2
  have hnodeDocs := hnode "home//user/docs/" (by decide)
  have hlistFile := (hlist (some "/home/user/docs/a") (fun p hp => by cases hp; decide)).2
  have hnodeNone := hnode "docs" (by decide)
  simp only [Option.getD_none, if_true, hcwd, hhome, List.map_cons, List.map_nil, hchild] at hlistHome
  simp only [show Path.normalize "home//user/docs/" = "/home/user/docs" by decide, hdocs] at hnodeDocs
  simp only [Option.getD_some, if_neg (show "/home/user/docs/a".toList ≠ [] by decide),
    show Path.normalize "/home/user/docs/a" = "/home/user/docs/a" by decide, hfile] at hlistFile
  simp only [show Path.normalize "docs" = "/docs" by decide, hnone] at hnodeNone
  exact ⟨⟨rfl, Url.isRoot_localhost⟩, hlistHome, hnodeDocs, hlistFile, hnodeNone⟩

end Client

end TreeShell
