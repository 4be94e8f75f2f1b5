/-
  TreeShell.Proofs.Client.Response — which answers are reported as errors of the server.

  An answer without success is an error of the server only if its body can be put into
  words. That is tried with a list of problems as it comes: each has to be an object, with
  a location that has a last part (`isDescribable`). Every other body has words, except
  one whose lists and objects stand too deep in each other, whatever depth is too much.
  Bodies with half a character in them are no texts here and are left out (`isWhole`).

  Main statement: the answer that ends an exchange without success is reported as an error
  of the server exactly if it is describable, with its status, its body and the kind that
  the status alone decides (`request_raises_api_iff`). Any other makes the call fail in
  another way, such as a text among the problems (`request_undescribable_text`).
-/

import TreeShell.Proofs.Client.Exchange

namespace TreeShell.Client

namespace Response

/-! ## Lists of problems -/

/-- An object whose location is nothing, a list or a text. -/
def isDescribableProblem : Json → Bool
  | .obj fields =>
    match (Json.get? fields "loc").getD .null with
    | .arr _ | .str _ => true
    | location => location.isNothing
  | _ => false

/-- Of a list of problems each counts; any other body that is not too deep is describable. -/
def isDescribable (r : Response) (depth : Nat) : Bool :=
  match r.json depth with
  | .ok (.obj fields) =>
    match (Json.get? fields "detail").getD .null with
    | .arr problems => problems.all isDescribableProblem
    | _ => true
  | .ok _ => true
  | .error fault => fault ≠ .tooDeep

/-- No half a character is in the value of the body. -/
def isWhole (r : Response) (depth : Nat) : Bool :=
  match r.json depth with
  | .error .halfCharacter => false
  | _ => true

theorem lastOf_isOk (location : Json) :
    (lastOf location).isOk = match location with
      | .arr _ | .str _ => true
      | location => location.isNothing := by
  unfold lastOf
  split
  · rename_i h
    split <;> first | rfl | exact h.symm
  · rename_i h
    cases location with
    | arr items => rfl
    | str s => rfl
    | _ => exact (Bool.eq_false_iff.mpr h).symm

theorem describeProblem_isOk (problem : Json) : (describeProblem problem).isOk = isDescribableProblem problem := by
  cases problem with
  | obj fields =>
    refine Eq.trans ?_ (lastOf_isOk ((Json.get? fields "loc").getD .null))
    unfold describeProblem
    simp only
    cases lastOf ((Json.get? fields "loc").getD .null) <;> rfl
  | _ => rfl

theorem mapM_isOk {ε α β : Type} (f : α → Except ε β) (xs : List α) :
    (xs.mapM f).isOk = xs.all fun x => (f x).isOk := by
  induction xs with
  | nil => rfl
  | cons x xs ih =>
    rw [List.mapM_cons, List.all_cons, ← ih]
    cases f x with
    | error e => rfl
    | ok y => cases xs.mapM f <;> rfl

theorem describeProblems_isOk (problems : List Json) :
    (describeProblems problems).isOk = problems.all isDescribableProblem := by
  have hparts := mapM_isOk describeProblem problems
  simp only [describeProblem_isOk] at hparts
  rw [← hparts]
  unfold describeProblems
  cases problems.mapM describeProblem <;> rfl

theorem describeObject_isOk (fields : List (Text × Json)) :
    (describeObject fields).isOk = match (Json.get? fields "detail").getD .null with
      | .arr problems => problems.all isDescribableProblem
      | _ => true := by
  unfold describeObject
  simp only
  cases (Json.get? fields "detail").getD .null with
  | arr problems =>
    simp only
    rw [← describeProblems_isOk]
    cases describeProblems problems <;> rfl
  | str detail => rfl
  | _ => cases Json.get? fields "error" <;> rfl

theorem describe_isOk {r : Response} {depth : Nat} (hwhole : r.isWhole depth = true) :
    (r.describe depth).isOk = r.isDescribable depth := by
  unfold isWhole at hwhole
  unfold describe isDescribable
  cases hjson : r.json depth with
  | ok value =>
    cases value with
    | obj fields =>
      simp only
      rw [← describeObject_isOk]
      cases describeObject fields <;> rfl
    | _ => rfl
  | error fault =>
    cases fault with
    | halfCharacter => rw [hjson] at hwhole; cases hwhole
    | _ => rfl

/-! ## Errors -/

/-- The body as it is reported: its value, or its text if it has none. -/
def reported (r : Response) (depth : Nat) : Json :=
  match r.json depth with
  | .ok value => value
  | .error _ => .str r.rawText

/-- The body of a describable answer can be read. -/
theorem body_of_isDescribable {r : Response} {depth : Nat} (hwhole : r.isWhole depth = true)
    (h : r.isDescribable depth = true) : r.body depth = .ok (r.reported depth) := by
  unfold isWhole at hwhole
  unfold isDescribable at h
  unfold body reported
  cases hjson : r.json depth with
  | ok value => rfl
  | error fault =>
    cases fault with
    | tooDeep => rw [hjson] at h; cases h
    | halfCharacter => rw [hjson] at hwhole; cases hwhole
    | _ => rfl

theorem kindOf_iff (status : Int) :
    (kindOf status = .validation ↔ status = 422) ∧ (kindOf status = .notFound ↔ status = 404) ∧
      (kindOf status = .server ↔ 500 ≤ status) := by
  unfold kindOf
  split_ifs <;> simp <;> omega

theorem value_of_isDescribable {r : Response} {depth : Nat} (hbad : r.isSuccess = false)
    (hwhole : r.isWhole depth = true) (h : r.isDescribable depth = true) :
    ∃ description, r.value depth = .error (.client (.api (r.errorOf description (r.reported depth)))) := by
  have hdescribe : (r.describe depth).isOk = true := (describe_isOk hwhole).trans h
  unfold value check
  rw [hbad, body_of_isDescribable hwhole h]
  cases hd : r.describe depth with
  | ok description => exact ⟨description, rfl⟩
  | error e => rw [hd] at hdescribe; cases hdescribe

theorem value_of_not_isDescribable {r : Response} {depth : Nat} (hbad : r.isSuccess = false)
    (hwhole : r.isWhole depth = true) (h : r.isDescribable depth = false) :
    ∃ e, r.value depth = .error e ∧ ∀ error, e ≠ .client (.api error) := by
  have hdescribe : (r.describe depth).isOk = false := (describe_isOk hwhole).trans h
  have hfault : ∀ e, r.describe depth = .error e → ∀ error, e ≠ .client (.api error) := by
    intro e he error
    unfold describe at he
    split at he
    · rename_i fields _
      cases hobject : describeObject fields with
      | ok description => rw [hobject] at he; cases he
      | error fault => rw [hobject] at he; cases he; exact nofun
    all_goals cases he
    all_goals exact nofun
  unfold value check
  rw [hbad]
  cases hd : r.describe depth with
  | ok description => rw [hd] at hdescribe; cases hdescribe
  | error e => exact ⟨e, rfl, hfault e hd⟩

end Response

variable {σ : Type} {c : Connection} {transport : Transport σ} {method path : Text} {params body : Json} {state : σ}
  {a : Addressed} {k : Nat} {r : Response}

theorem request_result_of_answered (ha : addressed c method path params body = .ok a)
    (hends : EndsAt ((checked a.url transport).outcomes a.sent state) c.settings.retries k) (hk : k ≤ 1024)
    (hr : (checked a.url transport).outcomes a.sent state k = .answered r) :
    (request c transport method path params body state).result = r.value c.settings.depth := by
  obtain ⟨_, _, hexchange⟩ := exchange_of_endsAt hends (show 0 + k ≤ 1024 by omega)
  have hcall := (request_of_addressed ha).trans hexchange
  rw [hr] at hcall
  exact congrArg Call.result hcall

/-- The answer without success that ends a call is an error of the server, with its status,
    its body and the kind of its status, if it is describable; if not, the call fails in
    another way. That is so however deep answers can be read, but what has half a character
    in it is left out. A call gets as far as attempt 1024, which is behind the last wait that
    there is. -/
theorem request_raises_api_iff (ha : addressed c method path params body = .ok a)
    (hends : EndsAt ((checked a.url transport).outcomes a.sent state) c.settings.retries k) (hk : k ≤ 1024)
    (hr : (checked a.url transport).outcomes a.sent state k = .answered r) (hbad : r.isSuccess = false)
    (hwhole : r.isWhole c.settings.depth = true) :
    let result := (request c transport method path params body state).result
    let depth := c.settings.depth
    (r.isDescribable depth = true → ∃ e, result = .error (.client (.api e)) ∧ e.status = r.status ∧
        e.body = (match r.json depth with
          | .ok value => value
          | .error _ => .str r.rawText) ∧
        (e.kind = .validation ↔ r.status = 422) ∧ (e.kind = .notFound ↔ r.status = 404) ∧
        (e.kind = .server ↔ 500 ≤ r.status)) ∧
      (r.isDescribable depth = false → ∃ e, result = .error e ∧ ∀ error, e ≠ .client (.api error)) := by
  intro result depth
  have hresult : result = r.value depth := request_result_of_answered ha hends hk hr
  rw [hresult]
  refine ⟨fun h => ?_, Response.value_of_not_isDescribable hbad hwhole⟩
  obtain ⟨description, hvalue⟩ := Response.value_of_isDescribable hbad hwhole h
  obtain ⟨hvalidation, hnotFound, hserver⟩ := Response.kindOf_iff r.status
  exact ⟨_, hvalue, rfl, rfl, hvalidation, hnotFound, hserver⟩

/-- A list of one well-formed problem. -/
theorem request_raises_api_iff_validation :
    let c : Connection := ⟨localSettings, localhost⟩
    let r : Response :=
      ⟨422, .text "\x7b\"detail\": [\x7b\"loc\": [\"body\", \"line\"], \"msg\": \"Field required\"\x7d]\x7d"⟩
    let outcome := (checked healthCheck.url scripted).outcomes healthCheck.sent [.answered r]
    (addressed c "GET" "/health" .null .null = .ok healthCheck ∧ EndsAt outcome c.settings.retries 0 ∧
        outcome 0 = .answered r ∧ r.isSuccess = false ∧ r.isWhole c.settings.depth = true ∧
        r.isDescribable c.settings.depth = true) ∧
      ∃ e, (request c scripted "GET" "/health" .null .null [.answered r]).result = .error (.client (.api e)) ∧
        e.status = 422 ∧ e.kind = .validation := by
  intro c r outcome
  have ha := addressed_health c.settings
  have hends : EndsAt outcome c.settings.retries 0 := .none_left outcome
  have hr : outcome 0 = .answered r := rfl
  have hwhole : r.isWhole c.settings.depth = true := by decide +kernel
  have hdescribable : r.isDescribable c.settings.depth = true := by decide +kernel
  obtain ⟨e, he, hstatus, -, hkind, -⟩ :=
    (request_raises_api_iff ha hends (Nat.zero_le _) hr rfl hwhole).1 hdescribable
  exact ⟨⟨ha, hends, hr, rfl, hwhole, hdescribable⟩, e, he, hstatus, hkind.mpr rfl⟩

/-- A text in the place of a problem: the answer is no success, and yet the call does not
    fail with an error of the server. -/
theorem request_undescribable_text :
    let r : Response := ⟨500, .text "\x7b\"detail\": [\"x\"]\x7d"⟩
    let result := (request ⟨localSettings, localhost⟩ scripted "GET" "/health" .null .null [.answered r]).result
    r.isSuccess = false ∧ result = r.value localSettings.depth ∧ ∀ e, result ≠ .error (.client (.api e)) := by
  intro r result
  have hresult : result = r.value localSettings.depth :=
    request_result_of_answered (addressed_health _) (EndsAt.none_left _) (Nat.zero_le _) rfl
  have hwhole : r.isWhole localSettings.depth = true := by decide +kernel
  have hundescribable : r.isDescribable localSettings.depth = false := by decide +kernel
  obtain ⟨e, hvalue, hne⟩ := Response.value_of_not_isDescribable rfl hwhole hundescribable
  refine ⟨rfl, hresult, fun error h => hne error ?_⟩
  rw [hresult, hvalue] at h
  exact Except.error.inj h

end TreeShell.Client
