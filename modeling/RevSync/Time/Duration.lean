import RevSync.Number.Binary64

/-!
# Durations

A span of time as whole seconds and the nanoseconds beyond them. Converting from seconds given
as a double is exact: the double's value times 10^9 is rounded to the nearest nanosecond, a half
going to the even neighbour; negative, non-finite and too large values have no duration.
-/

namespace RevSync

/-- A span of time. -/
structure Duration where
  secs : Nat
  nanos : Nat
  deriving DecidableEq, Repr, Inhabited

namespace Duration

/-- Nanoseconds in a second. -/
def nanosPerSec : Nat := 1000000000

/-- No time at all. -/
def zero : Duration := ⟨0, 0⟩

/-- Whole seconds. -/
def ofSecs (s : Nat) : Duration := ⟨s, 0⟩

/-- Milliseconds. -/
def ofMillis (ms : Nat) : Duration := ⟨ms / 1000, ms % 1000 * 1000000⟩

/-- Nanoseconds. -/
def ofNanos (ns : Nat) : Duration := ⟨ns / nanosPerSec, ns % nanosPerSec⟩

/-- The whole span in nanoseconds. -/
def toNanos (d : Duration) : Nat := d.secs * nanosPerSec + d.nanos

/-- The whole span in milliseconds, rounded down. -/
def toMillis (d : Duration) : Nat := d.toNanos / 1000000

/-- The seconds as a double: whole seconds plus the nanoseconds divided by 10^9. -/
def toSeconds (d : Duration) : Binary64 :=
  Binary64.add (Binary64.ofNat d.secs) (Binary64.div (Binary64.ofNat d.nanos) (Binary64.ofNat nanosPerSec))

/-- The duration of a number of seconds, to the nearest nanosecond. -/
def ofSeconds? (x : Binary64) : Option Duration :=
  match x.finite? with
  | none => none
  | some (neg, m, e) =>
    if m = 0 then some zero
    else if neg then none
    else
      let (num, den) := Binary64.magnitude m e
      let ns := Binary64.roundHalfEven (num * nanosPerSec) den
      if ns / nanosPerSec < Nat.pow 2 64 then some (ofNanos ns) else none

/-- A whole amount and a fraction of `scale` parts, with the fraction's digits up to the last
non-zero one: `(1, 500, 1000)` is `1.5`. -/
def decimalText (whole frac scale : Nat) : String :=
  if frac = 0 then toString whole
  else
    let digits := (Nat.toDigits 10 (scale + frac)).drop 1
    let trimmed := (digits.reverse.dropWhile (· == '0')).reverse
    toString whole ++ "." ++ String.ofList trimmed

/-- The duration as its debugging text: in seconds when at least one second, else in the largest
of milliseconds, microseconds and nanoseconds that keeps the whole part non-zero, with as many
decimals as it takes (`15s`, `250ms`, `1.5s`). -/
def describe (d : Duration) : String :=
  if d.secs > 0 then decimalText d.secs d.nanos nanosPerSec ++ "s"
  else if d.nanos ≥ 1000000 then decimalText (d.nanos / 1000000) (d.nanos % 1000000) 1000000 ++ "ms"
  else if d.nanos ≥ 1000 then decimalText (d.nanos / 1000) (d.nanos % 1000) 1000 ++ "µs"
  else toString d.nanos ++ "ns"

end Duration

end RevSync
