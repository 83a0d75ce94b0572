import Mathlib.Tactic.IntervalCases
import StatusLine.Calendar.Instant

/-!
# Days and dates

`ofDayNumber` takes the leap days off before it divides by the days of a common year. What it
divides never decreases from one day to the next, so that it is enough to know it on the first and
the last day of each year of an era. A date made from a day is a date of the calendar, and the day
is its number.
-/
namespace StatusLine.Date

/-- The days of an era up to a day, without its leap days. -/
def commonDays (day : Int) : Int := day - day / 1460 + day / 36524 - day / 146096

theorem commonDays_mono {a b : Int} (h : a ≤ b) : commonDays a ≤ commonDays b := by
  have hfour : a - a / 1460 ≤ b - b / 1460 := by omega
  have hcentury : a / 36524 - a / 146096 ≤ b / 36524 - b / 146096 := by
    have ha : a / 146096 = a / 36524 / 4 := by omega
    have hb : b / 146096 = b / 36524 / 4 := by omega
    omega
  unfold commonDays
  omega

theorem commonDays_daysBeforeYear :
    ∀ y : Nat, y < 400 → 365 * (y : Int) ≤ commonDays (daysBeforeYear y) ∧
      (0 < y → commonDays (daysBeforeYear y - 1) < 365 * y) := by
  decide +kernel

def yearOfEra (day : Int) : Int := commonDays day / 365

theorem yearOfEra_bounds {day : Int} (h0 : 0 ≤ day) (h1 : day < 146097) :
    0 ≤ yearOfEra day ∧ yearOfEra day < 400 := by
  have hlow : commonDays 0 ≤ commonDays day := commonDays_mono h0
  have hhigh : commonDays day ≤ commonDays 146096 := commonDays_mono (by omega)
  have hzero : commonDays 0 = 0 := by decide
  have hlast : commonDays 146096 = 145999 := by decide
  unfold yearOfEra
  omega

theorem daysBeforeYear_le {day : Int} (h0 : 0 ≤ day) (h1 : day < 146097) :
    daysBeforeYear (yearOfEra day) ≤ day := by
  obtain ⟨hy0, hy1⟩ := yearOfEra_bounds h0 h1
  obtain ⟨y, hy⟩ := Int.eq_ofNat_of_zero_le hy0
  by_contra hday
  rw [hy] at hday hy1
  have hpos : 0 < y := by
    by_contra hzero
    obtain rfl : y = 0 := by omega
    exact hday h0
  have hbefore := (commonDays_daysBeforeYear y (by omega)).2 hpos
  have hmono : commonDays day ≤ commonDays (daysBeforeYear y - 1) := commonDays_mono (by omega)
  unfold yearOfEra at hy
  omega

theorem lt_daysBeforeYear {day : Int} (h0 : 0 ≤ day) (h1 : day < 146097)
    (h : yearOfEra day < 399) : day < daysBeforeYear (yearOfEra day + 1) := by
  obtain ⟨y, hy⟩ := Int.eq_ofNat_of_zero_le (yearOfEra_bounds h0 h1).1
  by_contra hday
  rw [hy] at hday h
  have hnext := (commonDays_daysBeforeYear (y + 1) (by omega)).1
  rw [Int.natCast_succ] at hnext
  have hmono : commonDays (daysBeforeYear (y + 1)) ≤ commonDays day := commonDays_mono (by omega)
  unfold yearOfEra at hy
  omega

/-- A year has 365 days, and one more when the calendar year that it ends in is a leap year. -/
theorem dayOfYear_bounds {day : Int} (h0 : 0 ≤ day) (h1 : day < 146097) :
    0 ≤ day - daysBeforeYear (yearOfEra day) ∧ day - daysBeforeYear (yearOfEra day) < 366 ∧
      (day - daysBeforeYear (yearOfEra day) = 365 →
        ∀ era, IsLeapYear (400 * era + yearOfEra day + 1)) := by
  have hle := daysBeforeYear_le h0 h1
  obtain ⟨hy0, hy1⟩ := yearOfEra_bounds h0 h1
  by_cases hlast : yearOfEra day < 399
  · have hlt := lt_daysBeforeYear h0 h1 hlast
    generalize yearOfEra day = y at hle hlt ⊢
    unfold daysBeforeYear at hle hlt ⊢
    have hfour : (y + 1) / 4 ≤ y / 4 + (if (y + 1) % 4 = 0 then 1 else 0) := by
      split <;> omega
    have hcentury : y / 100 + (if (y + 1) % 100 = 0 then 1 else 0) ≤ (y + 1) / 100 := by
      split <;> omega
    refine ⟨by omega, by split at hfour <;> omega, ?_⟩
    intro hday era
    have hleap : (y + 1) % 4 = 0 ∧ (y + 1) % 100 ≠ 0 := by
      split at hfour <;> split at hcentury <;> omega
    unfold IsLeapYear
    omega
  · obtain hy : yearOfEra day = 399 := by omega
    rw [hy] at hle ⊢
    have hdays : daysBeforeYear 399 = 145731 := by decide
    refine ⟨by omega, by omega, ?_⟩
    intro _ era
    unfold IsLeapYear
    omega

def monthOfYear (rest : Int) : Int := (5 * rest + 2) / 153

def monthLength (m : Int) : Int :=
  if m = 1 ∨ m = 3 ∨ m = 6 ∨ m = 8 then 30 else if m = 11 then 29 else 31

theorem monthOfYear_bounds :
    ∀ rest : Nat, rest < 366 → 0 ≤ monthOfYear rest ∧ monthOfYear rest ≤ 11 ∧
      daysBeforeMonth (monthOfYear rest) ≤ rest ∧
      rest < daysBeforeMonth (monthOfYear rest) + monthLength (monthOfYear rest) := by
  decide +kernel

def ofDayOfYear (year rest : Int) : Date where
  year := year + if monthOfYear rest < 10 then 0 else 1
  month := (if monthOfYear rest < 10 then monthOfYear rest + 3 else monthOfYear rest - 9).toNat
  day := (rest - daysBeforeMonth (monthOfYear rest) + 1).toNat

theorem ofDayNumber_eq (n : Int) :
    ofDayNumber n =
      ofDayOfYear (400 * ((n + 719468) / 146097) + yearOfEra ((n + 719468) % 146097))
        ((n + 719468) % 146097 - daysBeforeYear (yearOfEra ((n + 719468) % 146097))) := rfl

theorem isValid_ofDayOfYear {year : Int} {rest : Nat} (h : rest < 366)
    (hleap : rest = 365 → IsLeapYear (year + 1)) : (ofDayOfYear year rest).IsValid := by
  obtain ⟨hm0, hm1, hlow, hhigh⟩ := monthOfYear_bounds rest h
  obtain ⟨m, hm⟩ := Int.eq_ofNat_of_zero_le hm0
  simp only [IsValid, ofDayOfYear]
  rw [hm] at hm1 hlow hhigh ⊢
  have hm11 : m ≤ 11 := by omega
  interval_cases m <;> simp [daysBeforeMonth, monthLength, daysInMonth] at hlow hhigh ⊢
  case «11» =>
    split
    · omega
    · have hshort : rest ≠ 365 := fun hrest => absurd (hleap hrest) (by assumption)
      omega
  all_goals omega

theorem dayNumber_ofDayOfYear {era y : Int} {rest : Nat} (hy0 : 0 ≤ y) (hy1 : y < 400)
    (h : rest < 366) :
    dayNumber (ofDayOfYear (400 * era + y) rest) =
      146097 * era + daysBeforeYear y + rest - 719468 := by
  obtain ⟨hm0, hm1, hlow, -⟩ := monthOfYear_bounds rest h
  have hera : (400 * era + y) / 400 = era := by omega
  have hyear : (400 * era + y) % 400 = y := by omega
  have hday : (((rest - daysBeforeMonth (monthOfYear rest) + 1).toNat : Nat) : Int) =
      rest - daysBeforeMonth (monthOfYear rest) + 1 := Int.toNat_of_nonneg (by omega)
  by_cases hm : monthOfYear rest < 10
  · have hmonth : ((monthOfYear rest + 3).toNat : Int) = monthOfYear rest + 3 :=
      Int.toNat_of_nonneg (by omega)
    have hlate : ¬ (monthOfYear rest + 3).toNat ≤ 2 := by omega
    simp only [dayNumber, ofDayOfYear, if_pos hm, if_neg hlate, hday, hmonth, Int.add_zero, hera,
      hyear, Int.add_sub_cancel]
    omega
  · have hmonth : ((monthOfYear rest - 9).toNat : Int) = monthOfYear rest - 9 :=
      Int.toNat_of_nonneg (by omega)
    have hearly : (monthOfYear rest - 9).toNat ≤ 2 := by omega
    simp only [dayNumber, ofDayOfYear, if_neg hm, if_pos hearly, hday, hmonth, Int.add_sub_cancel,
      hera, hyear, Int.sub_add_cancel]
    omega

theorem dayNumber_ofDayNumber (n : Int) : dayNumber (ofDayNumber n) = n := by
  have h0 : 0 ≤ (n + 719468) % 146097 := Int.emod_nonneg _ (by decide)
  have h1 : (n + 719468) % 146097 < 146097 := Int.emod_lt_of_pos _ (by decide)
  obtain ⟨hy0, hy1⟩ := yearOfEra_bounds h0 h1
  obtain ⟨hr0, hr1, -⟩ := dayOfYear_bounds h0 h1
  obtain ⟨rest, hrest⟩ := Int.eq_ofNat_of_zero_le hr0
  rw [ofDayNumber_eq, hrest, dayNumber_ofDayOfYear hy0 hy1 (by omega)]
  omega

theorem isValid_ofDayNumber (n : Int) : (ofDayNumber n).IsValid := by
  have h0 : 0 ≤ (n + 719468) % 146097 := Int.emod_nonneg _ (by decide)
  have h1 : (n + 719468) % 146097 < 146097 := Int.emod_lt_of_pos _ (by decide)
  obtain ⟨hr0, hr1, hleap⟩ := dayOfYear_bounds h0 h1
  obtain ⟨rest, hrest⟩ := Int.eq_ofNat_of_zero_le hr0
  rw [ofDayNumber_eq, hrest]
  exact isValid_ofDayOfYear (by omega) fun h => hleap (by omega) _

theorem year_ofDayOfYear {year : Int} {rest : Nat} :
    (ofDayOfYear year rest).year = year + if rest < 306 then 0 else 1 := by
  have hm : monthOfYear rest < 10 ↔ rest < 306 := by
    unfold monthOfYear
    omega
  simp only [ofDayOfYear, hm]

theorem year_ofDayNumber_bounds {n : Int} (hmin : dayNumber ⟨Instant.minYear, 1, 1⟩ ≤ n)
    (hmax : n ≤ dayNumber ⟨Instant.maxYear, 12, 31⟩) :
    Instant.minYear ≤ (ofDayNumber n).year ∧ (ofDayNumber n).year ≤ Instant.maxYear := by
  have h0 : 0 ≤ (n + 719468) % 146097 := Int.emod_nonneg _ (by decide)
  have h1 : (n + 719468) % 146097 < 146097 := Int.emod_lt_of_pos _ (by decide)
  obtain ⟨hy0, hy1⟩ := yearOfEra_bounds h0 h1
  obtain ⟨hr0, hr1, -⟩ := dayOfYear_bounds h0 h1
  obtain ⟨rest, hrest⟩ := Int.eq_ofNat_of_zero_le hr0
  have hfirst : dayNumber ⟨Instant.minYear, 1, 1⟩ = -96465292 := by decide
  have hlast : dayNumber ⟨Instant.maxYear, 12, 31⟩ = 95026236 := by decide
  rw [hfirst] at hmin
  rw [hlast] at hmax
  rw [ofDayNumber_eq, hrest, year_ofDayOfYear]
  generalize yearOfEra ((n + 719468) % 146097) = y at *
  unfold daysBeforeYear at hrest hr0 hr1
  unfold Instant.minYear Instant.maxYear
  -- the eras of the first and of the last year
  constructor
  · by_cases hera : (n + 719468) / 146097 = -656 <;> split <;> omega
  · by_cases hera : (n + 719468) / 146097 = 655 <;> split <;> omega

end StatusLine.Date
