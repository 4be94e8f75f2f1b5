/-
  TreeShell.Client.Backoff — how long to wait before a request is sent again.

  The wait doubles with each attempt and is capped. The power of two is an integer that
  has to fit a double: from attempt 1024 on it does not, and there is no wait to give.
-/

namespace TreeShell.Client

/-- In seconds. -/
def backoffBase : Float := 0.5

/-- In seconds. -/
def backoffCap : Float := 30.0

/-- `2^n`, for `n` below 1024. -/
def powerOfTwo (n : Nat) : Float := Float.ofNat (Nat.pow 2 n)

/-- `2^-n`; too small for a double, it is zero. -/
def inversePowerOfTwo (n : Nat) : Float :=
  if n ≤ 1023 then 1.0 / powerOfTwo n
  else if n ≤ 1074 then 1.0 / powerOfTwo 1023 / powerOfTwo (n - 1023)
  else 0.0

def factor : Int → Option Float
  | .ofNat n => if n < 1024 then some (powerOfTwo n) else none
  | .negSucc n => some (inversePowerOfTwo (n + 1))

/-- `base * 2^attempt` seconds, at most the cap. -/
def backoff (base : Float) (attempt : Int) : Option Float :=
  (factor attempt).map fun f =>
    let wait := base * f
    if backoffCap < wait then backoffCap else wait

end TreeShell.Client
