/-!
# Reconnect schedule

Delays are exact numbers of nanoseconds, at most `Nanos.longest`.

* `Policy.delayFor`  the delay before an attempt: doubled from attempt to attempt, sixteen times at
                     most, and never above the policy's maximum;
* `Backoff`          counts attempts against the budget of a policy.
-/

namespace ServerConsole.Link

abbrev Nanos := Nat

namespace Nanos

/-- 2^64 - 1 seconds and 999999999 nanoseconds -/
def longest : Nanos := (UInt64.size - 1) * 1000000000 + 999999999

def ofMillis (ms : Nat) : Nanos := ms * 1000000

def toMillis (n : Nanos) : Nat := n / 1000000

/-- a multiple, the longest delay when it does not fit -/
def times (n : Nanos) (k : Nat) : Nanos := min (n * k) longest

end Nanos

structure Policy where
  initial : Nanos
  maximum : Nanos
  maxAttempts : UInt32
  deriving DecidableEq

namespace Policy

def standard : Policy := ⟨Nanos.ofMillis 500, Nanos.ofMillis 15000, 10⟩

/-- doublings before an attempt, counted from one -/
def doublings (attempt : UInt32) : Nat := min (attempt.toNat - 1) 16

def delayFor (p : Policy) (attempt : UInt32) : Nanos :=
  min (p.initial.times (Nat.pow 2 (doublings attempt))) p.maximum

end Policy

structure Backoff where
  policy : Policy
  attempt : UInt32
  deriving DecidableEq

namespace Backoff

def new (policy : Policy) : Backoff := ⟨policy, 0⟩

/-- claims the next attempt; nothing once the budget is spent -/
def next? (b : Backoff) : Option (Nanos × Backoff) :=
  if b.policy.maxAttempts ≤ b.attempt then none
  else
    let b := { b with attempt := b.attempt + 1 }
    some (b.policy.delayFor b.attempt, b)

def reset (b : Backoff) : Backoff := { b with attempt := 0 }

end Backoff

end ServerConsole.Link
