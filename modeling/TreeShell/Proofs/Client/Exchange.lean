/-
  TreeShell.Proofs.Client.Exchange — what a call with retries sends, waits for and comes to.

  A transport is asked the same thing again and again, each time in the state that the
  last attempt left (`Transport.outcomes`). An exchange ends at attempt `k` (`EndsAt`)
  when the outcomes before allow another attempt and that of `k` does not or no attempt
  is left; nothing after `k` is asked for (`exchange_of_endsAt`).

  Main statement: a call sends its request up to the first answer that is final, or as
  often as it may, waits half a second doubled with each attempt in between, and comes to
  what its last outcome says (`request_sends_until_final`). Blocking and asynchronous
  calls are this one exchange; they differ in who waits.
-/

import TreeShell.Client.Local
import TreeShell.Proofs.Client.Backoff

namespace TreeShell.Client

open TreeShell.Decimal

/-! ## Attempts -/

section

variable {σ : Type} (transport : Transport σ) (sent : Sent)

/-- The state that an attempt leaves. -/
def Transport.next (state : σ) : σ := (transport sent state).2

/-- The outcome of each attempt, from zero on, if every one before was made. -/
def Transport.outcomes (state : σ) (i : Nat) : Outcome := (transport sent ((transport.next sent)^[i] state)).1

end

/-- With `left` attempts after the first, attempt `k` is the last. -/
structure EndsAt (outcome : Nat → Outcome) (left k : Nat) : Prop where
  le : k ≤ left
  again : ∀ i < k, (outcome i).mayRetry = true
  last : k = left ∨ (outcome k).mayRetry = false

theorem EndsAt.tail {outcome : Nat → Outcome} {left k : Nat} (h : EndsAt outcome (left + 1) (k + 1)) :
    EndsAt (fun i => outcome (i + 1)) left k where
  le := Nat.le_of_succ_le_succ h.le
  again i hi := h.again (i + 1) (Nat.succ_lt_succ hi)
  last := h.last.imp_left Nat.succ.inj

/-- The attempts from one on are that one and the attempts from the next. -/
theorem map_range_attempts {α : Type} (f : Nat → α) (attempt count : Nat) :
    (List.range (count + 1)).map (fun i => f (attempt + i)) =
      f attempt :: (List.range count).map fun i => f (attempt + 1 + i) := by
  rw [List.range_succ_eq_map, List.map_cons, List.map_map]
  congr 1
  refine List.map_congr_left fun i _ => ?_
  rw [Function.comp_apply, Nat.succ_eq_add_one, show attempt + (i + 1) = attempt + 1 + i by omega]

theorem EndsAt.none_left (outcome : Nat → Outcome) : EndsAt outcome 0 0 where
  le := Nat.le_refl 0
  again i hi := absurd hi i.not_lt_zero
  last := .inl rfl

section

variable {σ : Type} {s : Settings} {url : Text} {transport : Transport σ} {sent : Sent} {state : σ}
  {left attempt : Nat}

theorem exchange_last (h : left = 0 ∨ (transport.outcomes sent state 0).mayRetry = false) :
    exchange s url transport sent left attempt state =
      ⟨(transport.outcomes sent state 0).conclude s url, [sent], [], transport.next sent state⟩ := by
  cases left with
  | zero => rfl
  | succ left =>
    have hlast : (transport sent state).1.mayRetry = false := h.resolve_left left.succ_ne_zero
    unfold exchange
    simp only [hlast]
    rfl

theorem exchange_again {delay : Float} (h : (transport.outcomes sent state 0).mayRetry = true)
    (hdelay : backoff backoffBase attempt = some delay) :
    exchange s url transport sent (left + 1) attempt state =
      let rest := exchange s url transport sent left (attempt + 1) (transport.next sent state)
      { rest with requests := sent :: rest.requests, delays := delay :: rest.delays } := by
  have hagain : (transport sent state).1.mayRetry = true := h
  rw [exchange]
  simp only [hagain, hdelay]
  rfl

/-- The waits are given for attempts below 1024; only those before the last are waited for. -/
theorem exchange_of_endsAt {k : Nat} (h : EndsAt (transport.outcomes sent state) left k) (hk : attempt + k ≤ 1024) :
    ∃ delays, delays.map rational? = (List.range k).map (fun i => some (min (1 / 2 * 2 ^ (attempt + i)) 30)) ∧
      exchange s url transport sent left attempt state =
        ⟨(transport.outcomes sent state k).conclude s url, List.replicate (k + 1) sent, delays,
          (transport.next sent)^[k + 1] state⟩ := by
  -- each attempt goes on in the state that it leaves, with its outcomes from the second on
  induction left generalizing attempt k state with
  | zero =>
    obtain rfl : k = 0 := Nat.le_zero.mp h.le
    exact ⟨[], rfl, rfl⟩
  | succ left ih =>
    cases k with
    | zero => exact ⟨[], rfl, exchange_last (h.last.imp_left fun h => by omega)⟩
    | succ k =>
      obtain ⟨delay, hdelay, hvalue⟩ := rational?_backoff (show attempt < 1024 by omega)
      have htail : EndsAt (transport.outcomes sent (transport.next sent state)) left k := h.tail
      obtain ⟨delays, hdelays, hrest⟩ := ih htail (show attempt + 1 + k ≤ 1024 by omega)
      refine ⟨delay :: delays, ?_, ?_⟩
      · rw [List.map_cons, hvalue, hdelays, map_range_attempts (fun n => some (min (1 / 2 * (2 : ℚ) ^ n) 30))]
      · rw [exchange_again (h.again 0 k.succ_pos) hdelay, hrest]
        rfl

end

/-! ## Final outcomes -/

/-- An answer that is taken as it is. -/
def Outcome.isFinal : Outcome → Bool
  | answered r => !retryStatuses.contains r.status
  | _ => false

/-- An answer, or one of the named failures of transport. -/
def Outcome.isOfTransport : Outcome → Bool
  | answered _ => true
  | failed name => FaultKind.ofName name ≠ .foreign
  | refused _ => false

theorem Outcome.mayRetry_eq {o : Outcome} (h : o.isOfTransport = true) : o.mayRetry = !o.isFinal := by
  cases o with
  | answered r => exact (Bool.not_not _).symm
  | failed name => exact h
  | refused fault => cases h

/-- The first final one of `attempts` outcomes; the last of them if none is. -/
def lastAttempt (outcome : Nat → Outcome) (attempts : Nat) : Nat :=
  ((List.range attempts).find? fun i => (outcome i).isFinal).getD (attempts - 1)

theorem endsAt_lastAttempt {outcome : Nat → Outcome} {left : Nat}
    (h : ∀ i < left + 1, (outcome i).isOfTransport = true) :
    EndsAt outcome left (lastAttempt outcome (left + 1)) := by
  unfold lastAttempt
  cases hfind : (List.range (left + 1)).find? fun i => (outcome i).isFinal with
  | none =>
    have hnone := List.find?_range_eq_none.mp hfind
    refine ⟨le_rfl, fun i hi => ?_, .inl rfl⟩
    have hi : i < left + 1 := Nat.lt_succ_of_lt hi
    rw [Outcome.mayRetry_eq (h i hi), hnone i hi]
  | some k =>
    obtain ⟨hfinal, hk, hbefore⟩ := List.find?_range_eq_some.mp hfind
    rw [List.mem_range] at hk
    refine ⟨Nat.le_of_lt_succ hk, fun i hi => ?_, .inr ?_⟩
    · rw [Outcome.mayRetry_eq (h i (hi.trans hk)), hbefore i hi]
    · exact (Outcome.mayRetry_eq (h k hk)).trans (congrArg not hfinal)

/-! ## Calls -/

/-- How often a request is sent at most. -/
def Settings.attempts (s : Settings) : Nat := if s.retryEnabled then (max 1 (s.maxRetries + 1)).toNat else 1

theorem Settings.attempts_eq (s : Settings) : s.attempts = s.retries + 1 := by
  unfold attempts retries
  split <;> omega

theorem Settings.retries_le {s : Settings} (h : s.maxRetries ≤ 1024) : s.retries ≤ 1024 := by
  unfold retries
  split <;> omega

theorem conclude_failed {s : Settings} {url name : Text} (h : (Outcome.failed name).isOfTransport = true) :
    (Outcome.failed name).conclude s url = .error (.client
      (if timeoutFaults.contains name then
        .timeout ("Request to " ++ url ++ " timed out") s.timeout (some url)
      else .connection ("Failed to connect to " ++ url) (some url) (some name))) := by
  have hname : FaultKind.ofName name ≠ .foreign := of_decide_eq_true h
  unfold Outcome.conclude
  by_cases ht : timeoutFaults.contains name = true
  · have hkind : FaultKind.ofName name = .timeout := if_pos ht
    simp only [hkind, if_pos ht]
  · have hc : connectionFaults.contains name = true :=
      by_contra fun hc => hname ((if_neg ht).trans (if_neg hc))
    have hkind : FaultKind.ofName name = .connection := (if_neg ht).trans (if_pos hc)
    simp only [hkind, if_neg ht]

variable {σ : Type} {c : Connection} {transport : Transport σ} {method path : Text} {params body : Json} {state : σ}
  {a : Addressed}

theorem request_of_addressed (ha : addressed c method path params body = .ok a) :
    request c transport method path params body state =
      exchange c.settings (c.settings.base ++ path) (checked a.url transport) a.sent c.settings.retries 0 state := by
  unfold request
  rw [ha]

/-- A client of the service on this machine, with nothing else chosen. -/
def localSettings : Settings := { baseUrl := "http://localhost:8000", depth := 100 }

/-- Their base address. -/
def localhost : Url := ⟨"http", [], "localhost", some 8000, [], none, none⟩

/-- What a look at the health of the service sends. -/
def healthCheck : Addressed := ⟨{ localhost with path := "/health" }, ⟨"GET", "/health", [], .null⟩⟩

theorem addressed_health (s : Settings) :
    addressed ⟨s, localhost⟩ "GET" "/health" .null .null = .ok healthCheck := rfl

/-- Whatever answers and failures the transport has for a call: with `k` the first attempt
    that is allowed and whose answer has a status other than 502, 503 and 504, or the last
    allowed one if there is none, the request is sent `k + 1` times, `0.5 * 2^i` seconds but
    at most 30 are waited after attempt `i`, and the outcome of attempt `k` alone decides
    what the call comes to. -/
theorem request_sends_until_final (ha : addressed c method path params body = .ok a)
    (hmax : c.settings.maxRetries ≤ 1024)
    (htransport : ∀ i < c.settings.attempts, ((checked a.url transport).outcomes a.sent state i).isOfTransport = true) :
    let url := c.settings.base ++ path
    let outcome := (checked a.url transport).outcomes a.sent state
    let k := lastAttempt outcome c.settings.attempts
    let call := request c transport method path params body state
    call.requests = List.replicate (k + 1) a.sent ∧
      call.delays.map rational? = (List.range k).map (fun i => some (min (1 / 2 * 2 ^ i) 30)) ∧
      (∀ r, outcome k = .answered r → call.result = r.value c.settings.depth) ∧
      ∀ name, outcome k = .failed name → call.result = .error (.client
        (if timeoutFaults.contains name then
          .timeout ("Request to " ++ url ++ " timed out") c.settings.timeout (some url)
        else .connection ("Failed to connect to " ++ url) (some url) (some name))) := by
  intro url outcome k call
  have hattempts := c.settings.attempts_eq
  have hends : EndsAt outcome c.settings.retries k := by
    rw [hattempts] at htransport
    have hlast := endsAt_lastAttempt htransport
    rwa [← hattempts] at hlast
  have hk : k < c.settings.attempts := hattempts ▸ Nat.lt_succ_of_le hends.le
  have hbound : k ≤ 1024 := hends.le.trans (Settings.retries_le hmax)
  obtain ⟨delays, hdelays, hexchange⟩ := exchange_of_endsAt hends (show 0 + k ≤ 1024 by omega)
  have hcall : call = _ := (request_of_addressed ha).trans hexchange
  rw [hcall]
  refine ⟨rfl, ?_, fun r hr => ?_, fun name hname => ?_⟩
  · simpa only [Nat.zero_add] using hdelays
  · exact congrArg (Outcome.conclude c.settings url) hr
  · have hfailed : (Outcome.failed name).isOfTransport = true := hname ▸ htransport k hk
    exact (congrArg (Outcome.conclude c.settings url) hname).trans (conclude_failed hfailed)

/-- No connection, an unavailable service and a timeout, then an answer on the last attempt. -/
theorem request_sends_until_final_scripted :
    let c : Connection := ⟨{ localSettings with retryEnabled := true }, localhost⟩
    let script : List Outcome :=
      [.failed "ConnectError", .answered ⟨503, .text "busy"⟩, .failed "ReadTimeout",
        .answered ⟨200, .json (.bool true)⟩]
    let outcome := (checked healthCheck.url scripted).outcomes healthCheck.sent script
    let call := request c scripted "GET" "/health" .null .null script
    (c.settings.connect? = some c ∧ addressed c "GET" "/health" .null .null = .ok healthCheck ∧
        c.settings.maxRetries ≤ 1024 ∧ ∀ i < c.settings.attempts, (outcome i).isOfTransport = true) ∧
      call.requests = List.replicate 4 healthCheck.sent ∧
        call.delays.map rational? = [some (1 / 2), some 1, some 2] ∧
        call.result = .ok (.bool true) := by
  intro c script outcome call
  have ha := addressed_health c.settings
  have hmax : c.settings.maxRetries ≤ 1024 := by decide
  have htransport : ∀ i < c.settings.attempts, (outcome i).isOfTransport = true := by decide
  have hk : lastAttempt outcome c.settings.attempts = 3 := by decide
  obtain ⟨hrequests, hdelays, hresult, -⟩ := request_sends_until_final ha hmax htransport
  rw [hk] at hrequests hdelays hresult
  refine ⟨⟨rfl, ha, hmax, htransport⟩, hrequests, hdelays.trans ?_, hresult _ rfl⟩
  norm_num [List.range_succ]

end TreeShell.Client
