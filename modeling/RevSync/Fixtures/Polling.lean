import RevSync.Time.Duration

/-!
# Waiting for background state

Tests wait for state that changes in the background by polling it. A condition is polled at once
and then after each pause of `pollInterval`; a wait succeeds when the condition holds at a poll
made before the timeout, and a condition that holds at the first poll succeeds even with no time
at all. A condition here is described by the first poll at which it holds, if any.

An invariant check samples a counter `1, 2, …` once per millisecond until its duration has
passed, and fails at the first sample the invariant refuses.
-/

namespace RevSync

namespace Fixtures

/-- The pause between polls of a waited-for condition, in milliseconds. -/
def pollInterval : Nat := 10

/-- Whether a condition first holding at poll `first`, polled every `interval` milliseconds, is
seen within `timeout` milliseconds. -/
def seenWithin (interval timeout : Nat) : Option Nat → Bool
  | none => false
  | some first => first == 0 || first * interval < timeout

/-- How a wait ends: the value, or the failure's message. -/
abbrev Waited (α : Type) := Except String α

/-- Waits until a condition holds. -/
def waitUntil (timeout : Nat) (first : Option Nat) : Waited Unit :=
  if seenWithin pollInterval timeout first then .ok ()
  else .error ("condition not met within " ++ (Duration.ofMillis timeout).describe)

/-- Waits until a check yields `value`. -/
def waitFor {α : Type} (timeout : Nat) (first : Option Nat) (value : α) : Waited α :=
  if seenWithin pollInterval timeout first then .ok value
  else .error ("value not available within " ++ (Duration.ofMillis timeout).describe)

/-- Waits for a computation that polls a condition every millisecond and then yields `value`. -/
def within {α : Type} (timeout : Nat) (first : Option Nat) (value : α) : Waited α :=
  if seenWithin 1 timeout first then .ok value
  else .error ("future did not complete within " ++ (Duration.ofMillis timeout).describe)

/-- Samples the counter `1, 2, …` once per millisecond for `duration` milliseconds, checking
that each sample is below `bound` (no bound: every sample passes). -/
def checkFor (duration : Nat) (bound : Option Nat) : Waited Unit :=
  match bound with
  | none => .ok ()
  | some b =>
    -- the first refused sample is `max b 1`, taken `max b 1 - 1` milliseconds in
    let refused := Nat.max b 1
    if refused - 1 < duration then .error ("invariant violated by " ++ toString refused)
    else .ok ()

end Fixtures

end RevSync
