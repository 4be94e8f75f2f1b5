/-
  TreeShell.Proofs.Client.Waits — how many waits there are, and how long they get.

  A wait is half a second doubled with every attempt, at most 30 seconds (`wait`). From
  attempt 6 on that is the cap (`wait_eq_cap`), but the power of two is looked at before the
  cap: from attempt 1024 on it is no double, and there is no wait (`backoff_eq_none`). So a
  call that would go on waiting at attempt 1024 fails there with an overflow, whatever its
  last outcome was (`request_overflow`).

  Main statement: the attempts below 1024 and no others have a wait, which is exact, and
  the waits of any call grow up to the cap and stay there (`waits_up_to_overflow`).
-/

import TreeShell.Proofs.Client.Exchange

namespace TreeShell.Client

open TreeShell.Decimal

/-! ## Waits as numbers -/

/-- The seconds between attempt `n` and the next. -/
def wait (n : Nat) : ℚ := min (1 / 2 * 2 ^ n) 30

theorem wait_le (n : Nat) : wait n ≤ 30 := min_le_right _ _

theorem wait_mono {m n : Nat} (h : m ≤ n) : wait m ≤ wait n := by
  have hpow : (2 : ℚ) ^ m ≤ 2 ^ n := pow_le_pow_right₀ (by norm_num) h
  exact min_le_min_right 30 (mul_le_mul_of_nonneg_left hpow (by norm_num))

theorem wait_eq_cap {n : Nat} (h : 6 ≤ n) : wait n = 30 := by
  have hpow : (2 : ℚ) ^ 6 ≤ 2 ^ n := pow_le_pow_right₀ (by norm_num) h
  exact min_eq_right (by linarith)

theorem backoff_eq_none {n : Nat} (hn : 1024 ≤ n) : backoff backoffBase n = none := by
  have hfactor : factor n = none := if_neg (by omega)
  unfold backoff
  rw [hfactor]
  rfl

theorem rational?_of_backoff {n : Nat} {delay : Float} (h : backoff backoffBase n = some delay) :
    n < 1024 ∧ rational? delay = some (wait n) := by
  have hn : n < 1024 := by
    by_contra hn
    rw [backoff_eq_none (Nat.not_lt.mp hn)] at h
    cases h
  obtain ⟨delay', hdelay, hvalue⟩ := rational?_backoff hn
  obtain rfl := Option.some.inj (h.symm.trans hdelay)
  exact ⟨hn, hvalue⟩

/-! ## Waits of an exchange -/

section

variable {σ : Type} {s : Settings} {url : Text} {transport : Transport σ} {sent : Sent}

theorem exchange_without_wait {state : σ} {left attempt : Nat}
    (h : (transport.outcomes sent state 0).mayRetry = true) (hnone : backoff backoffBase attempt = none) :
    exchange s url transport sent (left + 1) attempt state =
      ⟨.error .waitOverflow, [sent], [], transport.next sent state⟩ := by
  have hagain : (transport sent state).1.mayRetry = true := h
  rw [exchange]
  simp only [hagain, hnone]
  rfl

variable (s url transport sent) in
/-- However the exchange ends, its waits are those of its attempts from the first on. -/
theorem exchange_delays (state : σ) (left attempt : Nat) :
    ∃ count, (exchange s url transport sent left attempt state).delays.map rational? =
      ((List.range count).map fun i => wait (attempt + i)).map some := by
  induction left generalizing attempt state with
  | zero => exact ⟨0, rfl⟩
  | succ left ih =>
    cases hagain : (transport.outcomes sent state 0).mayRetry with
    | false => exact ⟨0, by rw [exchange_last (.inr hagain)]; rfl⟩
    | true =>
      cases hdelay : backoff backoffBase attempt with
      | none => exact ⟨0, by rw [exchange_without_wait hagain hdelay]; rfl⟩
      | some delay =>
        obtain ⟨count, hrest⟩ := ih (transport.next sent state) (attempt + 1)
        refine ⟨count + 1, ?_⟩
        rw [exchange_again hagain hdelay, map_range_attempts]
        simp only [List.map_cons, (rational?_of_backoff hdelay).2, hrest]

/-- The attempts up to 1024 all allow another one, and there is one left. -/
theorem exchange_overflow {state : σ} {left attempt k : Nat} (hk : attempt + k = 1024) (hleft : k < left)
    (hagain : ∀ i ≤ k, (transport.outcomes sent state i).mayRetry = true) :
    (exchange s url transport sent left attempt state).result = .error .waitOverflow ∧
      (exchange s url transport sent left attempt state).delays.length = k := by
  induction k generalizing left attempt state with
  | zero =>
    obtain ⟨left, rfl⟩ := Nat.exists_eq_add_one.mpr hleft
    rw [exchange_without_wait (hagain 0 le_rfl) (backoff_eq_none (by omega))]
    exact ⟨rfl, rfl⟩
  | succ k ih =>
    obtain ⟨left, rfl⟩ := Nat.exists_eq_add_one.mpr (Nat.zero_lt_of_lt hleft)
    obtain ⟨delay, hdelay, -⟩ := rational?_backoff (show attempt < 1024 by omega)
    have hlater : ∀ i ≤ k, (transport.outcomes sent (transport.next sent state) i).mayRetry = true :=
      fun i hi => hagain (i + 1) (Nat.succ_le_succ hi)
    have hcount : attempt + 1 + k = 1024 := by omega
    obtain ⟨hresult, hlength⟩ := ih hcount (Nat.lt_of_succ_lt_succ hleft) hlater
    rw [exchange_again (hagain 0 (Nat.zero_le _)) hdelay]
    exact ⟨hresult, congrArg Nat.succ hlength⟩

end

/-! ## Waits of a call -/

section

variable {σ : Type} (c : Connection) (transport : Transport σ) (method path : Text) (params body : Json) (state : σ)

theorem request_delays :
    ∃ count, (request c transport method path params body state).delays.map rational? =
      ((List.range count).map wait).map some := by
  unfold request
  split
  · rename_i a _
    obtain ⟨count, hdelays⟩ :=
      exchange_delays c.settings (c.settings.base ++ path) (checked a.url transport) a.sent state c.settings.retries 0
    simp only [Nat.zero_add] at hdelays
    exact ⟨count, hdelays⟩
  · exact ⟨0, rfl⟩

/-- A call that is allowed more than 1024 retries and needs them fails where the next wait
    is no double, and not with what its transport last had for it. -/
theorem request_overflow {a : Addressed} (ha : addressed c method path params body = .ok a)
    (hretries : 1024 < c.settings.retries)
    (hagain : ∀ i ≤ 1024, ((checked a.url transport).outcomes a.sent state i).mayRetry = true) :
    (request c transport method path params body state).result = .error .waitOverflow ∧
      (request c transport method path params body state).delays.length = 1024 := by
  rw [request_of_addressed ha]
  exact exchange_overflow (Nat.zero_add 1024) hretries hagain

/-- Attempt `n` has a wait exactly if it is below 1024, and the wait is half a second doubled
    with every attempt before, or 30 seconds if that is less. However many retries are
    configured and whatever the transport has for a call, its waits are those of its
    attempts in their order, never decrease and never exceed 30 seconds. What an overflow
    takes away are the waits from attempt 1024 on: a call that would need them fails. -/
theorem waits_up_to_overflow (n : Nat) :
    ((∃ delay, backoff backoffBase n = some delay ∧ rational? delay = some (min (1 / 2 * 2 ^ n) 30)) ↔ n < 1024) ∧
      (backoff backoffBase n = none ↔ 1024 ≤ n) ∧
      let call := request c transport method path params body state
      ∃ waits : List ℚ, call.delays.map rational? = waits.map some ∧
        waits = (List.range waits.length).map (fun i => min (1 / 2 * 2 ^ i) 30) ∧
        waits.Pairwise (· ≤ ·) ∧ (∀ seconds ∈ waits, seconds ≤ 30) ∧
        ∀ a, addressed c method path params body = .ok a → 1024 < c.settings.retries →
          (∀ i ≤ 1024, ((checked a.url transport).outcomes a.sent state i).mayRetry = true) →
          call.result = .error .waitOverflow ∧ waits.length = 1024 := by
  refine ⟨⟨?_, rational?_backoff⟩, ⟨fun hnone => ?_, backoff_eq_none⟩, ?_⟩
  · rintro ⟨delay, hdelay, -⟩
    exact (rational?_of_backoff hdelay).1
  · by_contra hn
    obtain ⟨delay, hdelay, -⟩ := rational?_backoff (Nat.not_le.mp hn)
    rw [hnone] at hdelay
    cases hdelay
  · intro call
    obtain ⟨count, hdelays⟩ := request_delays c transport method path params body state
    have hlength : call.delays.length = count := by simpa using congrArg List.length hdelays
    refine ⟨(List.range count).map wait, hdelays, ?_, ?_, ?_, fun a ha hretries hagain => ?_⟩
    · rw [List.length_map, List.length_range]
      rfl
    · exact List.pairwise_map.mpr (List.pairwise_lt_range.imp fun h => wait_mono h.le)
    · intro seconds hmem
      obtain ⟨i, -, rfl⟩ := List.mem_map.mp hmem
      exact wait_le i
    · obtain ⟨hresult, hwaits⟩ := request_overflow c transport method path params body state ha hretries hagain
      refine ⟨hresult, ?_⟩
      rw [List.length_map, List.length_range, ← hlength, hwaits]

end

/-- Attempt 1024 has no wait, though it is not the last that the settings allow and 30
    seconds would be due. The transport never gets through, and still the call does not fail
    with that. -/
theorem waits_end_at_overflow :
    let c : Connection := ⟨{ localSettings with retryEnabled := true, maxRetries := 1025 }, localhost⟩
    let call := request c scripted "GET" "/health" .null .null []
    backoff backoffBase 1024 = none ∧ min (1 / 2 * 2 ^ 1024) 30 = (30 : ℚ) ∧
      call.result = .error .waitOverflow ∧ call.delays.length = 1024 := by
  intro c call
  have hagain : ∀ i ≤ 1024, ((checked healthCheck.url scripted).outcomes healthCheck.sent [] i).mayRetry = true := by
    intro i _
    have hstate : (Transport.next (checked healthCheck.url scripted) healthCheck.sent)^[i] [] = [] :=
      Function.iterate_fixed rfl i
    unfold Transport.outcomes
    rw [hstate]
    rfl
  exact ⟨backoff_eq_none le_rfl, wait_eq_cap (by decide),
    request_overflow c scripted _ _ _ _ [] (addressed_health c.settings) (by decide) hagain⟩

end TreeShell.Client
