import RevSync.Time.Duration

/-!
# Retry policy

How long to wait before each new attempt of a failed replication. Attempt 0 is the first try
and waits nothing; attempt `n` waits the initial delay times the multiplier to the power `n - 1`,
capped at the largest delay. The arithmetic is on doubles, so a fractional multiplier gives
delays to the nanosecond; a delay that comes out negative or not a number has no duration.
-/

namespace RevSync

/-- How often and how patiently a replication tries again. -/
structure RetryPolicy where
  maxAttempts : UInt32
  initialDelay : Duration
  maxDelay : Duration
  multiplier : Binary64
  jitter : Bool
  deriving Repr, Inhabited

namespace RetryPolicy

/-- `maxAttempts` tries, starting at two seconds and doubling up to five minutes, with jitter. -/
def standard (maxAttempts : UInt32) : RetryPolicy :=
  { maxAttempts, initialDelay := .ofSecs 2, maxDelay := .ofSecs 300,
    multiplier := Binary64.ofNat 2, jitter := true }

/-- One try and no waiting. -/
def once : RetryPolicy :=
  { maxAttempts := 1, initialDelay := .zero, maxDelay := .zero, multiplier := Binary64.one,
    jitter := false }

/-- The largest exponent a power is taken to. -/
def maxExponent : Nat := Nat.pow 2 31 - 1

/-- The wait before attempt `attempt`, without jitter; `none` when the computed number of
seconds is no duration. -/
def delayFor (p : RetryPolicy) (attempt : UInt32) : Option Duration :=
  if attempt = 0 then some .zero
  else
    let exponent := Nat.min (attempt.toNat - 1) maxExponent
    let base := Binary64.mul p.initialDelay.toSeconds (Binary64.powNat p.multiplier exponent)
    Duration.ofSeconds? (Binary64.min base p.maxDelay.toSeconds)

end RetryPolicy

end RevSync
