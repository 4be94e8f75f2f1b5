/-
  TreeShell.Proofs.Http.Service — the service as operations on its session.

  Three kinds of request stand for an operation (`Service.action`): one that posts a line
  to be executed, one that posts a reset, and one that deletes the history. Which they are
  is said of method, path and body alone; that the routes lead exactly these to the
  endpoints that change the session is `target_eq_execute_iff` and its two siblings.

  An endpoint leaves the session as its operation does, or as it was (`serve_session`),
  and what it fails with is a fault of the request (`serve_error`): a directory that is
  there can be listed.

  Main statement: after any requests the session is the one that the operations among them
  leave, no reply has a status of the server's own faults, and the reply to a line holds
  what its execution gave (`run_refines`).
-/

import TreeShell.Http.Service
import TreeShell.Proofs.Session.Run

namespace TreeShell.Http

open Session (Action)

/-! ## Operations of requests -/

/-- Of this method, and for this path. The routes let one line feed behind a path pass. -/
def Request.asks (r : Request) (method path : Text) : Prop :=
  r.method = method ∧ (r.path = path ∨ r.path = path ++ ['\n'])

instance (r : Request) (method path : Text) : Decidable (r.asks method path) :=
  inferInstanceAs (Decidable (_ ∧ _))

namespace Service

/-- The text `line` of an object. -/
def sentLine : Option Json → Option Text
  | some (.obj fields) =>
    match Json.get? fields "line" with
    | some (.str line) => some line
    | _ => none
  | _ => none

/-- The operation that a request stands for, if it does for one. -/
def action (r : Request) : Option Action :=
  if r.asks "POST" "/shell/execute" then (sentLine r.body).map .execute
  else if r.asks "POST" "/shell/reset" then some .reset
  else if r.asks "DELETE" "/shell/history" then some .clearHistory
  else none

/-- The replies to requests, one after another, and the session behind them. -/
def run (session : Option Session) : List Request → List Reply × Option Session
  | [] => ([], session)
  | r :: requests =>
    let (reply, session) := handle session r
    let (replies, session) := run session requests
    (reply :: replies, session)

end Service

/-! ## Routes -/

theorem exists_route_of_target {method path : Text} {e : Endpoint} (h : target method path = .endpoint e) :
    ∃ route ∈ routes, route.method = method ∧ route.pattern.endpoint? path = some e := by
  unfold target at h
  split at h
  · rename_i allowed first others hmatching
    split at h
    · rename_i m e' hfind
      cases h
      have hmem : (m, e) ∈ matching path := hmatching ▸ List.mem_of_find?_eq_some hfind
      have hmethod : m = method := by simpa using List.find?_some hfind
      obtain ⟨route, hroute, hmap⟩ := List.mem_filterMap.mp hmem
      obtain ⟨e'', he, hpair⟩ := Option.map_eq_some_iff.mp hmap
      cases hpair
      exact ⟨route, hroute, hmethod, he⟩
    · cases h
  · split at h <;> cases h

/-- A route that leads to `e` only if it is that of the method with the fixed path `p`. -/
def OnlyFixed (method p : Text) (e : Endpoint) (route : Route) : Prop :=
  match route.pattern with
  | .fixed p' e' => e' = e → route.method = method ∧ p' = p
  | .named _ endpoint => ∀ name, endpoint name ≠ e

theorem target_eq_iff {method p : Text} {e : Endpoint} (honly : ∀ route ∈ routes, OnlyFixed method p e route)
    (hplain : target method p = .endpoint e) (hfeed : target method (p ++ ['\n']) = .endpoint e) (r : Request) :
    target r.method r.path = .endpoint e ↔ r.asks method p := by
  constructor
  · intro h
    obtain ⟨⟨m, pattern⟩, hroute, hmethod, he⟩ := exists_route_of_target h
    have honly := honly _ hroute
    cases pattern with
    | fixed p' e' =>
      simp only [Pattern.endpoint?] at he
      split at he
      · rename_i hpath
        obtain ⟨hm, rfl⟩ := honly (Option.some.inj he)
        exact ⟨hmethod.symm.trans hm, by simpa using hpath⟩
      · cases he
    | named base endpoint =>
      -- whatever the name, the endpoint is another
      simp only [Pattern.endpoint?] at he
      split at he
      · split at he
        · cases he
        · exact absurd (Option.some.inj he) (honly _)
      · cases he
  · rintro ⟨hmethod, hpath | hpath⟩
    · rw [hmethod, hpath, hplain]
    · rw [hmethod, hpath, hfeed]

theorem target_eq_execute_iff (r : Request) :
    target r.method r.path = .endpoint .execute ↔ r.asks "POST" "/shell/execute" := by
  refine target_eq_iff ?_ (by decide) (by decide) r
  simp [routes, OnlyFixed]

theorem target_eq_reset_iff (r : Request) :
    target r.method r.path = .endpoint .reset ↔ r.asks "POST" "/shell/reset" := by
  refine target_eq_iff ?_ (by decide) (by decide) r
  simp [routes, OnlyFixed]

theorem target_eq_clearHistory_iff (r : Request) :
    target r.method r.path = .endpoint .clearHistory ↔ r.asks "DELETE" "/shell/history" := by
  refine target_eq_iff ?_ (by decide) (by decide) r
  simp [routes, OnlyFixed]

namespace Service

/-! ## Endpoints -/

/-- The operation that a request is at an endpoint. -/
def actionAt (r : Request) : Endpoint → Option Action
  | .execute => (sentLine r.body).map .execute
  | .reset => some .reset
  | .clearHistory => some .clearHistory
  | _ => none

theorem action_eq (r : Request) :
    action r = match target r.method r.path with
      | .endpoint e => actionAt r e
      | _ => none := by
  have hexecute := target_eq_execute_iff r
  have hreset := target_eq_reset_iff r
  have hclear := target_eq_clearHistory_iff r
  -- with routes in the place of methods and paths, an endpoint decides every condition
  unfold action
  simp only [← hexecute, ← hreset, ← hclear]
  cases target r.method r.path with
  | endpoint e => cases e <;> rfl
  | _ => rfl

theorem lineOf_of_sentLine {body : Option Json} {line : Text} (h : sentLine body = some line) :
    lineOf body = .valid line := by
  unfold sentLine at h
  split at h
  · split at h
    · rename_i line' hget
      cases h
      unfold lineOf Schema.field
      simp only [hget]
      rfl
    · cases h
  · cases h

theorem lineOf_of_sentLine_eq_none {body : Option Json} (h : sentLine body = none) :
    ∃ problems, lineOf body = .invalid problems := by
  unfold sentLine at h
  split at h
  · rename_i fields
    unfold lineOf Schema.field
    simp only
    cases hget : Json.get? fields "line" with
    | none => exact ⟨_, rfl⟩
    | some x =>
      rw [hget] at h
      cases x with
      | str line => cases h
      | _ => exact ⟨_, rfl⟩
  · rename_i hobj
    cases body with
    | none => exact ⟨_, rfl⟩
    | some x =>
      cases x with
      | obj fields => exact absurd rfl (hobj fields)
      | _ => exact ⟨_, rfl⟩

theorem serve_session (s : Session) (r : Request) (e : Endpoint) :
    (serve s r e).2 = ((actionAt r e).map s.act).getD s := by
  cases e with
  | execute =>
    unfold serve actionAt
    cases hsent : sentLine r.body with
    | some line => rw [lineOf_of_sentLine hsent]; rfl
    | none =>
      obtain ⟨problems, hline⟩ := lineOf_of_sentLine_eq_none hsent
      rw [hline]
      rfl
  | node =>
    unfold serve withValid
    simp only
    split <;> rfl
  | _ => rfl

/-! ### What is at a path -/

theorem node_eq (s : Session) (path : Text) :
    node s path = match s.shell.tree.nodes.get? (Path.normalize path) with
      | some n => .ok (Wire.NodeView.ofNode (Path.normalize path) n)
      | none => .error (.pathNotFound (.str (Path.normalize path))) := by
  have hnormal : s.shell.tree.node? (Path.normalize path) = s.shell.tree.nodes.get? (Path.normalize path) :=
    congrArg s.shell.tree.nodes.get? (Path.normalize_normalize path)
  unfold node
  cases hnode : s.shell.tree.nodes.get? (Path.normalize path) <;> simp only [hnormal, hnode]

theorem list_eq {s : Session} {path : Option Text} {key : Text} (hkey : listedPath s path = key)
    (hnormal : Path.normalize key = key) :
    list s path = match s.shell.tree.nodes.get? key with
      | some (.directory children) => .ok ⟨key, children.map fun name =>
          ⟨name, if s.shell.tree.isDirectoryAt (Path.child key name) then .directory else .file⟩, children.length⟩
      | some (.file _) => .error (.notADirectory key)
      | none => .error (.pathNotFound (.str key)) := by
  unfold list Tree.exists Tree.isDirectory Tree.isDirectoryAt Tree.list Tree.node?
  simp only [hkey, hnormal]
  cases s.shell.tree.nodes.get? key with
  | none => rfl
  | some n =>
    cases n with
    | file content => rfl
    | directory children =>
      simp only [List.map_map, List.length_map]
      rfl

/-! ## Replies -/

/-- What is asked for is not there, or it is not asked for properly. -/
def isOfRequest : Failure → Bool
  | .pathNotFound _ | .variableNotFound .. | .commandNotFound .. | .notADirectory _ | .invalidRequest _ => true
  | _ => false

theorem status_lt_of_isOfRequest {f : Failure} (h : isOfRequest f = true) : f.reply.status < 500 := by
  cases f with
  | pathNotFound path => exact (by decide : 404 < 500)
  | variableNotFound name available => exact (by decide : 404 < 500)
  | commandNotFound word searchPath => exact (by decide : 404 < 500)
  | notADirectory path => exact (by decide : 400 < 500)
  | invalidRequest problems => exact (by decide : 422 < 500)
  | _ => cases h

theorem replyTo_status_lt {answer : Except Failure Json} (h : ∀ f, answer = .error f → isOfRequest f = true) :
    (replyTo answer).status < 500 := by
  cases answer with
  | ok body => exact (by decide : 200 < 500)
  | error f =>
    unfold replyTo
    simp only
    split
    · exact status_lt_of_isOfRequest (h f rfl)
    · exact (by decide : 400 < 500)

theorem isOfRequest_of_resolve {s : Session} {word : Text} {f : Failure} (h : resolve s word = .error f) :
    isOfRequest f = true := by
  unfold resolve at h
  split at h <;> cases h
  rfl

theorem isOfRequest_of_node {s : Session} {path : Text} {f : Failure} (h : node s path = .error f) :
    isOfRequest f = true := by
  unfold node at h
  simp only at h
  split at h <;> cases h
  rfl

/-- A path that is a directory's can be listed. -/
theorem isOfRequest_of_list {s : Session} {path : Option Text} {f : Failure} (h : list s path = .error f) :
    isOfRequest f = true := by
  unfold list at h
  simp only at h
  split at h
  · cases h; rfl
  · split at h
    · cases h; rfl
    · rename_i hdir
      have hdirectory : s.shell.tree.isDirectory (listedPath s path) = true := by simpa using hdir
      obtain ⟨children, hchildren⟩ := Tree.isDirectoryAt_iff.mp hdirectory
      split at h
      · cases h
      · rename_i e hlist
        unfold Tree.list at hlist
        simp only [hchildren] at hlist
        cases hlist

theorem isOfRequest_of_variableNamed {s : Session} {name : Text} {f : Failure} (h : variableNamed s name = .error f) :
    isOfRequest f = true := by
  unfold variableNamed at h
  split at h <;> cases h
  rfl

theorem error_of_map_error {ε α β : Type} {x : Except ε α} {g : α → β} {e : ε} (h : x.map g = .error e) :
    x = .error e := by
  cases x with
  | ok a => cases h
  | error e' => cases h; rfl

/-- An endpoint fails with faults of the request only. -/
theorem serve_error {s : Session} {r : Request} {e : Endpoint} {f : Failure} (h : (serve s r e).1 = .error f) :
    isOfRequest f = true := by
  cases e with
  | execute =>
    unfold serve withValid at h
    simp only at h
    split at h <;> cases h
    rfl
  | resolve word => exact isOfRequest_of_resolve (error_of_map_error h)
  | node =>
    unfold serve withValid at h
    simp only at h
    split at h
    · exact isOfRequest_of_node (error_of_map_error h)
    · cases h; rfl
  | list => exact isOfRequest_of_list (error_of_map_error h)
  | variableNamed name => exact isOfRequest_of_variableNamed (error_of_map_error h)
  | _ => cases h

/-! ## Requests -/

variable (s : Session) (r : Request)

theorem handle_session : (handle (some s) r).2 = some (((action r).map s.act).getD s) := by
  rw [action_eq]
  unfold handle
  cases target r.method r.path with
  | endpoint e => exact congrArg some (serve_session s r e)
  | _ => rfl

theorem handle_status_lt : (handle (some s) r).1.status < 500 := by
  unfold handle
  cases target r.method r.path with
  | endpoint e => exact replyTo_status_lt fun _ => serve_error
  | wrongMethod allowed => exact (by decide : 405 < 500)
  | redirect path => exact (by decide : 307 < 500)
  | nowhere => exact (by decide : 404 < 500)

theorem asks_of_action {line : Text} (h : action r = some (.execute line)) :
    r.asks "POST" "/shell/execute" ∧ sentLine r.body = some line := by
  unfold action at h
  split at h
  · rename_i hasks
    obtain ⟨line', hsent, hline⟩ := Option.map_eq_some_iff.mp h
    cases hline
    exact ⟨hasks, hsent⟩
  · split at h
    · cases h
    · split at h <;> cases h

theorem handle_execute {line : Text} (h : action r = some (.execute line)) :
    let x := s.execute line
    (handle (some s) r).1 = .ok (Wire.Executed.toJson ⟨x.results, x.results.any (·.erases), x.session.shell.cwd⟩) := by
  obtain ⟨hasks, hsent⟩ := asks_of_action r h
  unfold handle serve
  simp only [(target_eq_execute_iff r).mpr hasks, lineOf_of_sentLine hsent]
  rfl

/-! ## Runs of requests -/

theorem run_cons (session : Option Session) (requests : List Request) :
    run session (r :: requests) =
      ((handle session r).1 :: (run (handle session r).2 requests).1, (run (handle session r).2 requests).2) := rfl

/-- The operation of a request comes before those of the requests after it. -/
theorem after_filterMap_cons (requests : List Request) :
    s.after ((r :: requests).filterMap action) =
      (((action r).map s.act).getD s).after (requests.filterMap action) := by
  cases h : action r with
  | none => rw [List.filterMap_cons_none h]; rfl
  | some a => rw [List.filterMap_cons_some h]; rfl

theorem run_session (requests : List Request) :
    (run (some s) requests).2 = some (s.after (requests.filterMap action)) := by
  induction requests generalizing s with
  | nil => rfl
  | cons r requests ih => rw [run_cons, handle_session, ih, after_filterMap_cons]

theorem run_status_lt (requests : List Request) : ∀ reply ∈ (run (some s) requests).1, reply.status < 500 := by
  induction requests generalizing s with
  | nil => exact nofun
  | cons r requests ih =>
    intro reply hreply
    rw [run_cons, handle_session] at hreply
    rcases List.mem_cons.mp hreply with rfl | hrest
    · exact handle_status_lt s r
    · exact ih _ reply hrest

theorem run_reply (before later : List Request) :
    (run (some s) (before ++ r :: later)).1[before.length]? =
      some (handle (some (s.after (before.filterMap action))) r).1 := by
  induction before generalizing s with
  | nil => rfl
  | cons b before ih =>
    rw [List.cons_append, run_cons, handle_session, after_filterMap_cons, List.length_cons,
      List.getElem?_cons_succ, ih]

/-- After any requests the session is the one that the operations among them leave, in
    order. No reply has a status from 500 on, and the reply to a line that is executed
    holds the results, whether one of them erased, and the directory that the shell is
    then in. -/
theorem run_refines (requests : List Request) :
    (run (some s) requests).2 = some (s.after (requests.filterMap action)) ∧
      (∀ reply ∈ (run (some s) requests).1, reply.status < 500) ∧
      ∀ before r later line, requests = before ++ r :: later → action r = some (.execute line) →
        let x := (s.after (before.filterMap action)).execute line
        (run (some s) requests).1[before.length]? =
          some (.ok (Wire.Executed.toJson ⟨x.results, x.results.any (·.erases), x.session.shell.cwd⟩)) := by
  refine ⟨run_session s requests, run_status_lt s requests, ?_⟩
  rintro before r later line rfl haction
  rw [run_reply]
  exact congrArg some (handle_execute _ r haction)

end Service

end TreeShell.Http
