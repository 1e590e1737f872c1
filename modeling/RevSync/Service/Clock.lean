import RevSync.Text.Dates
import RevSync.Time.Civil

/-!
# The service clock

Answers are computed as of one fixed moment, so that they are reproducible: certificates are
generated and identities expire relative to it, and the dates shown near it in diagnostics are
masked, within the year before it and the six after.
-/

namespace RevSync

namespace Service

/-- The moment answers are computed at, in Unix seconds (2026-11-13 00:00:00 UTC). -/
def clockNow : Int := 1794528000

/-- The year of the clock. -/
def clockYear : Int := (Timestamp.date { seconds := clockNow }).year

/-- Free text with the dates near the clock masked. -/
def maskNearDates (s : String) : String :=
  Text.maskDates (clockYear - 1).toNat (clockYear + 6).toNat s

end Service

end RevSync
