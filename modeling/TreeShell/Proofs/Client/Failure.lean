/-
  TreeShell.Proofs.Client.Failure — what a client makes of the failures of the service.

  A reply to a failure has one of four statuses, of which none is a success or asked again for
  (`failureKinds`, `Response.isFinal_of_mem`). Its body is an object with a detail text
  (`Explains`), but for a faulty request: there a list of problems stands in that place, and
  each is told by the last of its places and its message (`Tells`).

  Main statement: a call that is answered with the reply fails with an error of the failure's
  kind, which holds the whole body, and whose message is the detail text, or what the problems
  tell in their order (`request_repeats_failure`). In what text the body came does not matter,
  as long as that is read as the body (`Response.Carries`).
-/

import Mathlib.Data.List.Forall2
import TreeShell.Proofs.Client.Response

namespace TreeShell

open Http

namespace Client

/-! ## What failures are replied to with -/

/-- What a client is to take a failure for. -/
def kindOfFailure : Failure → ApiKind
  | .pathNotFound _ | .variableNotFound .. | .commandNotFound .. => .notFound
  | .invalidSettings _ | .invalidRequest _ => .validation
  | .notADirectory _ | .invalidValue _ => .general
  | .noSession | .runtime _ | .unexpected .. => .server

/-- The statuses of failures, with the kind of error that each stands for. -/
def failureKinds : List (Int × ApiKind) := [(400, .general), (404, .notFound), (422, .validation), (500, .server)]

theorem mem_failureKinds (f : Failure) : ((f.reply.status : Int), kindOfFailure f) ∈ failureKinds := by
  have hgeneral : ((400 : Int), ApiKind.general) ∈ failureKinds := by decide
  have hnotFound : ((404 : Int), ApiKind.notFound) ∈ failureKinds := by decide
  have hvalidation : ((422 : Int), ApiKind.validation) ∈ failureKinds := by decide
  have hserver : ((500 : Int), ApiKind.server) ∈ failureKinds := by decide
  cases f with
  | pathNotFound path | variableNotFound name available | commandNotFound word searchPath => exact hnotFound
  | invalidSettings problems | invalidRequest problems => exact hvalidation
  | notADirectory path | invalidValue why => exact hgeneral
  | noSession | runtime why | unexpected kind why => exact hserver

/-- The body of these fields has a text for its detail, and any title of it is its type. -/
structure Explains (reply : Reply) (fields : List (Text × Json)) (detail : Text) : Prop where
  body_eq : reply.body = some (.obj fields)
  detail_eq : Json.get? fields "detail" = some (.str detail)
  titled : ((Json.get? fields "error").getD .null).isNothing = true →
    Json.get? fields "error" = none ∧ Json.get? fields "type" = none

theorem explains_explained (status : Nat) {error : Text} (h : error ≠ []) (detail : Text)
    (others : List (Text × Json)) :
    Explains (Failure.explained status error detail others)
      (("error", .str error) :: ("detail", .str detail) :: others) detail where
  body_eq := rfl
  detail_eq := rfl
  titled hnothing := by
    have hempty : (error == []) = true := hnothing
    exact absurd (beq_iff_eq.mp hempty) h

theorem explains_detail (status : Nat) (detail : Text) :
    Explains (Reply.detail status detail) [("detail", .str detail)] detail :=
  ⟨rfl, rfl, fun _ => ⟨rfl, rfl⟩⟩

theorem exists_explains {f : Failure} (h : ∀ problems, f ≠ .invalidRequest problems) :
    ∃ fields detail, Explains f.reply fields detail := by
  cases f with
  | invalidRequest problems => exact absurd rfl (h problems)
  | notADirectory path => exact ⟨_, _, explains_detail _ _⟩
  | _ => exact ⟨_, _, explains_explained _ (by decide) _ _⟩

/-! ## Problems -/

/-- What is told of a problem: the last of its places, and its message. -/
inductive Tells : Json → Text → Prop
  | mk (fields : List (Text × Json)) (above : List Json) (place : Json) (message : Text) :
      Json.get? fields "loc" = some (.arr (above ++ [place])) → Json.get? fields "msg" = some (.str message) →
      Tells (.obj fields) (place.display ++ ": " ++ message)

/-- How a problem of a request is told, which has a place. -/
def told (p : Schema.Problem) : Text :=
  (p.loc.getLast?.map fun step => step.toJson.display).getD [] ++ ": " ++ p.fault.message

theorem unreservedItems_steps (loc : List Schema.Step) :
    Failure.unreservedItems (loc.map Schema.Step.toJson) = loc.map Schema.Step.toJson := by
  induction loc with
  | nil => rfl
  | cons step loc ih =>
    rw [List.map_cons, Failure.unreservedItems, ih]
    cases step <;> rfl

/-- What a reply leaves out of a problem is none of what is told. -/
theorem tells_unreserved {p : Schema.Problem} (h : p.loc ≠ []) : Tells (Failure.unreserved p.toJson) (told p) := by
  have hlast := List.dropLast_concat_getLast h
  have hproblem : Failure.unreserved p.toJson =
      .obj [("type", .str p.fault.code), ("loc", .arr (Failure.unreservedItems (p.loc.map Schema.Step.toJson))),
        ("msg", .str p.fault.message), ("input", Failure.unreserved p.input)] := rfl
  have hloc : p.loc.map Schema.Step.toJson =
      p.loc.dropLast.map Schema.Step.toJson ++ [(p.loc.getLast h).toJson] := by
    rw [← List.map_singleton, ← List.map_append, hlast]
  have htold : told p = (p.loc.getLast h).toJson.display ++ ": " ++ p.fault.message := by
    unfold told
    rw [List.getLast?_eq_some_getLast h]
    rfl
  rw [hproblem, unreservedItems_steps, hloc, htold]
  exact .mk _ _ _ _ rfl rfl

theorem tells_unreservedItems {problems : List Schema.Problem} (h : ∀ p ∈ problems, p.loc ≠ []) :
    List.Forall₂ Tells (Failure.unreservedItems (problems.map Schema.Problem.toJson)) (problems.map told) := by
  induction problems with
  | nil => exact .nil
  | cons p problems ih =>
    exact .cons (tells_unreserved (h p (by simp))) (ih fun q hq => h q (List.mem_cons_of_mem _ hq))

namespace Response

theorem describeProblem_of_tells {problem : Json} {part : Text} (h : Tells problem part) :
    describeProblem problem = .ok part := by
  cases h with
  | mk fields above place message hloc hmsg =>
    have hplace : lastOf (.arr (above ++ [place])) = .ok place := by
      unfold lastOf
      have hsome : (Json.arr (above ++ [place])).isNothing = false := by simp [Json.isNothing]
      rw [hsome]
      simp
    unfold describeProblem
    simp only [hloc, hmsg, Option.getD_some, hplace]
    rfl

theorem mapM_eq_ok {ε α β : Type} {f : α → Except ε β} {xs : List α} {ys : List β}
    (h : List.Forall₂ (fun x y => f x = .ok y) xs ys) : xs.mapM f = .ok ys := by
  induction h with
  | nil => rfl
  | cons hx _ ih =>
    rw [List.mapM_cons, hx, ih]
    rfl

theorem describeProblems_of_tells {problems : List Json} {parts : List Text} (h : List.Forall₂ Tells problems parts) :
    describeProblems problems = .ok (Text.join "; " parts) := by
  unfold describeProblems
  rw [mapM_eq_ok (h.imp fun _ _ => describeProblem_of_tells)]
  rfl

/-! ## Error answers -/

section

variable {r : Response}

/-- Such a status is no success, is not asked again for, and has its kind. -/
theorem isFinal_of_mem {kind : ApiKind} (h : (r.status, kind) ∈ failureKinds) :
    r.isSuccess = false ∧ (Outcome.answered r).mayRetry = false ∧ kindOf r.status = kind := by
  have hretry : (Outcome.answered r).mayRetry = retryStatuses.contains r.status := rfl
  rw [hretry]
  unfold isSuccess
  simp only [failureKinds, List.mem_cons, Prod.mk.injEq, List.not_mem_nil, or_false] at h
  rcases h with ⟨hstatus, rfl⟩ | ⟨hstatus, rfl⟩ | ⟨hstatus, rfl⟩ | ⟨hstatus, rfl⟩ <;> rw [hstatus] <;> decide

theorem value_of_description {depth : Nat} {fields : List (Text × Json)} {d : Description}
    (hbad : r.isSuccess = false) (hjson : r.json depth = .ok (.obj fields)) (hd : describeObject fields = .ok d) :
    r.value depth = .error (.client (.api (r.errorOf d (.obj fields)))) := by
  unfold value check describe body
  rw [hbad, hjson]
  simp only [hd]
  rfl

/-- A title is the type; where there is none the type is none. -/
theorem describeObject_of_explains {reply : Reply} {fields : List (Text × Json)} {detail : Text}
    (h : Explains reply fields detail) :
    describeObject fields = .ok ⟨detail, (Json.get? fields "error").getD .null, .obj fields⟩ := by
  unfold describeObject
  simp only [h.detail_eq, Option.getD_some]
  split
  · rename_i hnothing
    obtain ⟨herror, htype⟩ := h.titled hnothing
    rw [herror, htype]
  · rfl

theorem describeObject_of_tells {fields : List (Text × Json)} {problems : List Json} {parts : List Text}
    (hdetail : Json.get? fields "detail" = some (.arr problems)) (h : List.Forall₂ Tells problems parts) :
    describeObject fields =
      .ok ⟨Text.join "; " parts, .str "validation_error", .obj [("errors", .arr problems)]⟩ := by
  unfold describeObject
  simp only [hdetail, Option.getD_some]
  rw [describeProblems_of_tells h]
  rfl

end

end Response

/-- The status and the body of the reply came over, in whatever text that is read up to this
    depth. -/
structure Response.Carries (r : Response) (depth : Nat) (reply : Reply) : Prop where
  status_eq : r.status = reply.status
  json_eq : ∀ body, reply.body = some body → r.json depth = .ok body

theorem Response.carries_ofReply (depth : Nat) (reply : Reply) : (Response.ofReply reply).Carries depth reply where
  status_eq := rfl
  json_eq := by
    intro body hbody
    unfold Response.json Response.ofReply
    rw [hbody]

/-- The fields as pairs of texts, if each value is one. -/
def pairsOf? : List (Text × Json) → Option (List (Text × Text))
  | [] => some []
  | (name, .str s) :: fields => (pairsOf? fields).map ((name, s) :: ·)
  | _ => none

theorem obj_of_pairsOf? {fields : List (Text × Json)} {pairs : List (Text × Text)}
    (h : pairsOf? fields = some pairs) : Json.obj fields = pairsToJson pairs := by
  refine congrArg Json.obj ?_
  induction fields generalizing pairs with
  | nil =>
    cases h
    rfl
  | cons field fields ih =>
    obtain ⟨name, value⟩ := field
    cases value with
    | str s =>
      obtain ⟨others, hothers, rfl⟩ := Option.map_eq_some_iff.mp h
      rw [ih hothers]
      rfl
    | _ => cases h

namespace Response

/-- The pairs of a body in which each value is a text. Bodies cannot be compared, since doubles
    cannot; pairs of texts can. -/
def pairs? (r : Response) (depth : Nat) : Option (List (Text × Text)) :=
  match r.json depth with
  | .ok (.obj fields) => pairsOf? fields
  | _ => none

theorem json_of_pairs? {r : Response} {depth : Nat} {pairs : List (Text × Text)} (h : r.pairs? depth = some pairs) :
    r.json depth = .ok (pairsToJson pairs) := by
  unfold pairs? at h
  split at h
  · rename_i hread
    rw [hread, obj_of_pairsOf? h]
  · cases h

theorem carries_of_pairs? {r : Response} {depth : Nat} {reply : Reply} (pairs : List (Text × Text))
    (hstatus : r.status = reply.status) (hbody : reply.body = some (pairsToJson pairs))
    (h : r.pairs? depth = some pairs) : r.Carries depth reply where
  status_eq := hstatus
  json_eq := by
    intro body hsome
    rw [json_of_pairs? h, Option.some.inj (hbody.symm.trans hsome)]

end Response

/-- The error has the status of the reply, its detail text for a message, and its whole body. -/
structure ApiError.Repeats (e : ApiError) (reply : Reply) (fields : List (Text × Json)) : Prop where
  body_eq : reply.body = some (.obj fields)
  status : e.status = reply.status
  message : Json.get? fields "detail" = some (.str e.message)
  details : e.details = .obj fields
  body : e.body = .obj fields

section

variable {σ : Type} {c : Connection} {transport : Transport σ} {method path : Text} {params body : Json} {state : σ}
  {a : Addressed} {r : Response}

section

variable (ha : addressed c method path params body = .ok a)
  (hr : (checked a.url transport).outcomes a.sent state 0 = .answered r)

include ha hr

/-- The first answer ends the call if its status is one of a failure. -/
theorem request_result_of_failure {kind : ApiKind} (hkind : (r.status, kind) ∈ failureKinds) :
    (request c transport method path params body state).result = r.value c.settings.depth := by
  have hends : EndsAt ((checked a.url transport).outcomes a.sent state) c.settings.retries 0 :=
    ⟨Nat.zero_le _, fun i hi => absurd hi i.not_lt_zero, .inr (hr ▸ (Response.isFinal_of_mem hkind).2.1)⟩
  exact request_result_of_answered ha hends (Nat.zero_le _) hr

theorem request_repeats_explained {f : Failure} (hf : ∀ problems, f ≠ .invalidRequest problems)
    (h : r.Carries c.settings.depth f.reply) :
    ∃ fields e, (request c transport method path params body state).result = .error (.client (.api e)) ∧
      (e.status, e.kind) ∈ failureKinds ∧ e.kind = kindOfFailure f ∧ e.Repeats f.reply fields ∧
      (e.kind = .general → e.errorType = (Json.get? fields "error").getD .null) := by
  obtain ⟨fields, detail, hexplains⟩ := exists_explains hf
  have hmem := mem_failureKinds f
  rw [← h.status_eq] at hmem
  obtain ⟨hbad, -, hkind⟩ := Response.isFinal_of_mem hmem
  have hvalue := Response.value_of_description hbad (h.json_eq _ hexplains.body_eq)
    (Response.describeObject_of_explains hexplains)
  rw [← hkind] at hmem
  refine ⟨fields, _, (request_result_of_failure ha hr hmem).trans hvalue, hmem, hkind,
    ⟨hexplains.body_eq, h.status_eq, hexplains.detail_eq, rfl, rfl⟩, fun hgeneral => ?_⟩
  have hgeneral : Response.kindOf r.status = .general := hgeneral
  unfold Response.errorOf
  rw [hgeneral]
  rfl

theorem request_tells_problems {fields : List (Text × Json)} {problems : List Json} {parts : List Text}
    (h422 : r.status = 422) (hjson : r.json c.settings.depth = .ok (.obj fields))
    (hdetail : Json.get? fields "detail" = some (.arr problems)) (htells : List.Forall₂ Tells problems parts) :
    ∃ e, (request c transport method path params body state).result = .error (.client (.api e)) ∧
      e.kind = .validation ∧ e.message = Text.join "; " parts ∧ e.details = .obj [("errors", .arr problems)] ∧
      e.body = .obj fields := by
  have hmem : (r.status, ApiKind.validation) ∈ failureKinds := h422 ▸ by decide
  obtain ⟨hbad, -, hkind⟩ := Response.isFinal_of_mem hmem
  have hvalue := Response.value_of_description hbad hjson (Response.describeObject_of_tells hdetail htells)
  exact ⟨_, (request_result_of_failure ha hr hmem).trans hvalue, hkind, rfl, rfl, rfl⟩

end

/-- Whatever a failure of the service is about, the call whose answer carries its reply fails
    with an error of the failure's kind, which repeats the reply; where the kind has no type
    of its own, that is the reply's title. An answer with a list of problems is an error as
    well, whose message tells the problems in order, whose details are the list and whose body
    is whole; the service's reply to a faulty request is such an answer. -/
theorem request_repeats_failure (ha : addressed c method path params body = .ok a)
    (hr : (checked a.url transport).outcomes a.sent state 0 = .answered r) :
    let result := (request c transport method path params body state).result
    (∀ f : Failure, (∀ problems, f ≠ .invalidRequest problems) → r.Carries c.settings.depth f.reply →
      ∃ fields e, result = .error (.client (.api e)) ∧ (e.status, e.kind) ∈ failureKinds ∧
        e.kind = kindOfFailure f ∧ e.Repeats f.reply fields ∧
        (e.kind = .general → e.errorType = (Json.get? fields "error").getD .null)) ∧
    (∀ fields problems parts, r.status = 422 → r.json c.settings.depth = .ok (.obj fields) →
      Json.get? fields "detail" = some (.arr problems) → List.Forall₂ Tells problems parts →
      ∃ e, result = .error (.client (.api e)) ∧ e.kind = .validation ∧ e.message = Text.join "; " parts ∧
        e.details = .obj [("errors", .arr problems)] ∧ e.body = .obj fields) ∧
    ∀ problems : List Schema.Problem, (∀ p ∈ problems, p.loc ≠ []) →
      r.Carries c.settings.depth (Failure.invalidRequest problems).reply →
      ∃ e, result = .error (.client (.api e)) ∧ e.kind = .validation ∧
        e.message = Text.join "; " (problems.map told) ∧
        some e.body = (Failure.invalidRequest problems).reply.body := by
  intro result
  refine ⟨fun f hf h => request_repeats_explained ha hr hf h,
    fun fields problems parts h422 hjson hdetail htells => request_tells_problems ha hr h422 hjson hdetail htells, ?_⟩
  intro problems hplaces h
  obtain ⟨e, he, hkind, hmessage, -, hbody⟩ :=
    request_tells_problems ha hr h.status_eq (h.json_eq _ rfl) rfl (tells_unreservedItems hplaces)
  exact ⟨e, he, hkind, hmessage, congrArg some hbody⟩

end

/-- A failure that says nothing, as text, and a request without a line. -/
theorem request_repeats_failure_scripted :
    let c : Connection := ⟨localSettings, localhost⟩
    let empty : Response :=
      ⟨400, .text "\x7b\"error\": \"Invalid Value\", \"detail\": \"\", \"type\": \"ValueError\"\x7d"⟩
    let problems : List Schema.Problem := [⟨.missing, [.key "body", .key "line"], .obj []⟩]
    let faulty : Response := .ofReply (Failure.invalidRequest problems).reply
    let outcome (r : Response) := (checked healthCheck.url scripted).outcomes healthCheck.sent [.answered r] 0
    let result (r : Response) := (request c scripted "GET" "/health" .null .null [.answered r]).result
    (addressed c "GET" "/health" .null .null = .ok healthCheck ∧ outcome empty = .answered empty ∧
        outcome faulty = .answered faulty) ∧
      (∃ e, result empty = .error (.client (.api e)) ∧ e.kind = .general ∧ e.message = []) ∧
      ∃ e, result faulty = .error (.client (.api e)) ∧ e.kind = .validation ∧ e.message = "line: Field required" := by
  intro c empty problems faulty outcome result
  have ha := addressed_health c.settings
  have hempty : outcome empty = .answered empty := rfl
  have hfaulty : outcome faulty = .answered faulty := rfl
  have hcarries : empty.Carries c.settings.depth (Failure.invalidValue []).reply :=
    Response.carries_of_pairs? [("error", "Invalid Value"), ("detail", []), ("type", "ValueError")] rfl rfl
      (by decide +kernel)
  obtain ⟨hexplained, -, -⟩ := request_repeats_failure ha hempty
  obtain ⟨-, -, hproblems⟩ := request_repeats_failure ha hfaulty
  obtain ⟨fields, e, he, -, hkind, hrepeats, -⟩ := hexplained (.invalidValue []) nofun hcarries
  obtain ⟨e', he', hkind', hmessage, -⟩ := hproblems problems (by simp [problems]) (Response.carries_ofReply _ _)
  have hdetail := hrepeats.message
  rw [← Json.obj.inj (Option.some.inj hrepeats.body_eq)] at hdetail
  have hsilent : e.message = [] := (Json.str.inj (Option.some.inj hdetail)).symm
  exact ⟨⟨ha, hempty, hfaulty⟩, ⟨e, he, hkind, hsilent⟩, e', he', hkind', hmessage⟩

end Client

end TreeShell
