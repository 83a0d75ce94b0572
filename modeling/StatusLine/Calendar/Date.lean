/-!
# Dates

Dates of the proleptic Gregorian calendar and their day numbers, day 0 being 1 January 1970.
Both directions count years from 1 March, so that the leap day is the last day of its year, and
work inside an era of 400 years, which has 146097 days.
-/
namespace StatusLine

structure Date where
  year : Int
  month : Nat
  day : Nat
  deriving DecidableEq, Repr

namespace Date

def IsLeapYear (year : Int) : Prop := year % 4 = 0 ∧ (year % 100 ≠ 0 ∨ year % 400 = 0)

instance (year : Int) : Decidable (IsLeapYear year) := by unfold IsLeapYear; infer_instance

def daysInMonth (year : Int) : Nat → Nat
  | 2 => if IsLeapYear year then 29 else 28
  | 4 | 6 | 9 | 11 => 30
  | _ => 31

def IsValid (d : Date) : Prop :=
  1 ≤ d.month ∧ d.month ≤ 12 ∧ 1 ≤ d.day ∧ d.day ≤ daysInMonth d.year d.month

instance (d : Date) : Decidable d.IsValid := by unfold IsValid; infer_instance

/-- Days from the start of a year in March to the start of its month `m`, March being 0. -/
def daysBeforeMonth (m : Int) : Int := (153 * m + 2) / 5

def daysBeforeYear (y : Int) : Int := 365 * y + y / 4 - y / 100

def dayNumber (d : Date) : Int :=
  let year := if d.month ≤ 2 then d.year - 1 else d.year
  let month : Int := if d.month ≤ 2 then d.month + 9 else d.month - 3
  146097 * (year / 400) + daysBeforeYear (year % 400) + daysBeforeMonth month + (d.day - 1) - 719468

def ofDayNumber (n : Int) : Date :=
  let era := (n + 719468) / 146097
  let day := (n + 719468) % 146097
  let year := (day - day / 1460 + day / 36524 - day / 146096) / 365
  let rest := day - daysBeforeYear year
  let month := (5 * rest + 2) / 153
  { year := 400 * era + year + if month < 10 then 0 else 1
    month := (if month < 10 then month + 3 else month - 9).toNat
    day := (rest - daysBeforeMonth month + 1).toNat }

example : dayNumber ⟨1970, 1, 1⟩ = 0 ∧ dayNumber ⟨2000, 3, 1⟩ = 11017 := by decide
example : ofDayNumber 0 = ⟨1970, 1, 1⟩ ∧ ofDayNumber 11016 = ⟨2000, 2, 29⟩ := by decide
example : ofDayNumber (dayNumber ⟨-1, 12, 31⟩) = ⟨-1, 12, 31⟩ := by decide

end Date
end StatusLine
