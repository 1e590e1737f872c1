import RevSync.Time.Civil
import RevSync.X509.Certificate
import Mathlib

/-!
# Dates a certificate can hold

`CivilDate.ofDays` names a real day: a month from 1 to 12 and a day within that month's length
as the certificate reader counts it, leap years included (`ofDays_valid`); and a moment before
the year 10000 falls in a year of at most four digits (`date_year_le`).

Both rest on one fact about an era of 400 years (`dayOfYear_spec`): the era's days split into
centuries of 36524 days and four-year cycles of 1461 days, the era's own last day (a leap day)
apart, and within a cycle the year is the day divided by 365, the cycle's last day staying in its
fourth year. A year counted from March then has 365 days, or 366 when the February that ends it
has a leap day.
-/

namespace RevSync

namespace CivilDate

/-- Whether a year counted from the March of an era's year `y` ends with a leap day: the
February it ends with belongs to the calendar year `y + 1`. -/
def LeapAfter (y : Nat) : Prop := (y + 1) % 4 = 0 ∧ ((y + 1) % 100 ≠ 0 ∨ (y + 1) % 400 = 0)

instance (y : Nat) : Decidable (LeapAfter y) :=
  inferInstanceAs (Decidable (_ ∧ (_ ∨ _)))

/-- A day of an era, its last day apart, as a century, a four-year cycle and a day of the cycle. -/
theorem exists_split {doe : Nat} (h : doe < 146096) :
    ∃ c k s, doe = 36524 * c + 1461 * k + s ∧ c ≤ 3 ∧ k ≤ 24 ∧ s ≤ 1460 ∧ (k = 24 → s ≤ 1459) :=
  ⟨doe / 36524, doe % 36524 / 1461, doe % 36524 % 1461, by omega, by omega, by omega, by omega,
    by omega⟩

theorem yearOfEra_split {c k s : Nat} (hc : c ≤ 3) (hk : k ≤ 24) (hs : s ≤ 1460)
    (hks : k = 24 → s ≤ 1459) :
    let doe := 36524 * c + 1461 * k + s
    (doe - doe / 1460 + doe / 36524 - doe / 146096) / 365 = 100 * c + 4 * k + min (s / 365) 3 := by
  intro doe
  have h146096 : doe / 146096 = 0 := by omega
  have h36524 : doe / 36524 = c := by omega
  have h1460 : doe / 1460 = 25 * c + k + (24 * c + k + s) / 1460 := by omega
  -- the remainder passes a multiple of 1460 only near the cycle's end, and on its last day
  have ht : (24 * c + k + s) / 1460 ≤ 1 := by omega
  have ht1 : (24 * c + k + s) / 1460 = 1 → 1364 ≤ s := by omega
  have ht2 : s = 1460 → (24 * c + k + s) / 1460 = 1 := by omega
  rw [h146096, h36524, h1460]
  omega

/-- The days of an era before the year `100 c + 4 k + j` counted from March. -/
theorem daysBefore_split (c k j : Nat) (hk : k ≤ 24) (hj : j ≤ 3) :
    let yoe := 100 * c + 4 * k + j
    365 * yoe + yoe / 4 - yoe / 100 = 36524 * c + 1461 * k + 365 * j := by
  intro yoe
  have h4 : yoe / 4 = 25 * c + k := by omega
  have h100 : yoe / 100 = c := by omega
  rw [h4, h100]
  omega

/-- The year of an era that a day falls in starts on or before it, and the day is the 365th of
that year only when a leap day ends it. -/
theorem dayOfYear_spec {doe yoe : Nat} (h : doe ≤ 146096)
    (hyoe : (doe - doe / 1460 + doe / 36524 - doe / 146096) / 365 = yoe) :
    yoe ≤ 399 ∧ 365 * yoe + yoe / 4 - yoe / 100 ≤ doe ∧
      (doe - (365 * yoe + yoe / 4 - yoe / 100) ≤ 364 ∨
        (doe - (365 * yoe + yoe / 4 - yoe / 100) = 365 ∧ LeapAfter yoe)) := by
  rcases Nat.lt_or_eq_of_le h with h | rfl
  · obtain ⟨c, k, s, rfl, hc, hk, hs, hks⟩ := exists_split h
    rw [yearOfEra_split hc hk hs hks] at hyoe
    subst hyoe
    rw [daysBefore_split c k _ hk (Nat.min_le_right _ _)]
    unfold LeapAfter
    omega
  · -- the era's last day is the leap day that ends its four hundredth year
    have hy : yoe = 399 := by omega
    subst hy
    exact ⟨le_rfl, by omega, .inr ⟨by omega, by decide⟩⟩

/-- A date of the proleptic calendar names a real day: a month from 1 to 12, and a day within
that month's length in that year. -/
theorem ofDays_valid (days : Int) :
    1 ≤ (ofDays days).month ∧ (ofDays days).month ≤ 12 ∧ 1 ≤ (ofDays days).day ∧
      (ofDays days).day ≤ X509.daysIn (ofDays days).year (ofDays days).month := by
  simp only [ofDays]
  generalize hera : (days + 719468) / 146097 = era
  generalize hdoe : (days + 719468 - era * 146097).toNat = doe
  have hdoe_le : doe ≤ 146096 := by omega
  generalize hyoe : (doe - doe / 1460 + doe / 36524 - doe / 146096) / 365 = yoe
  obtain ⟨-, -, hlast⟩ := dayOfYear_spec hdoe_le hyoe
  generalize doe - (365 * yoe + yoe / 4 - yoe / 100) = doy at hlast ⊢
  generalize hmp : (5 * doy + 2) / 153 = mp
  by_cases hfeb : mp = 11
  · subst hfeb
    norm_num [X509.daysIn]
    rcases hlast with h364 | ⟨rfl, hleap⟩
    · split <;> omega
    · -- the year's 366th day is the leap day of the calendar year that follows
      unfold LeapAfter at hleap
      rw [if_pos (by omega)]
      omega
  · -- the other months have the same length every year
    have hmp_le : mp ≤ 10 := by omega
    interval_cases mp <;> simp [X509.daysIn] <;> omega

/-- A day before 10000-01-01 falls in a year of at most four digits. -/
theorem ofDays_year_le {days : Int} (h : days < 2932897) : (ofDays days).year ≤ 9999 := by
  simp only [ofDays]
  generalize hera : (days + 719468) / 146097 = era
  generalize hdoe : (days + 719468 - era * 146097).toNat = doe
  have hdoe_le : doe ≤ 146096 := by omega
  generalize hyoe : (doe - doe / 1460 + doe / 36524 - doe / 146096) / 365 = yoe
  obtain ⟨hyoe_le, hstart, -⟩ := dayOfYear_spec hdoe_le hyoe
  -- only January and February of the era's year 399 could pass 9999, and they come too late
  split <;> omega

end CivilDate

namespace Timestamp

theorem date_valid (t : Timestamp) :
    1 ≤ t.date.month ∧ t.date.month ≤ 12 ∧ 1 ≤ t.date.day ∧
      t.date.day ≤ X509.daysIn t.date.year t.date.month :=
  CivilDate.ofDays_valid _

/-- A moment before 10000-01-01 falls in a year of at most four digits. -/
theorem date_year_le {t : Timestamp} (h : t.seconds < 253402300800) : t.date.year ≤ 9999 :=
  CivilDate.ofDays_year_le (by unfold secondsPerDay; omega)

theorem secondOfDay_lt (t : Timestamp) : t.secondOfDay < 86400 := by
  unfold secondOfDay secondsPerDay
  omega

end Timestamp

end RevSync
