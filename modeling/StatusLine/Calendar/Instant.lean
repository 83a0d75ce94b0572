import StatusLine.Calendar.Date
import StatusLine.Calendar.TimeOfDay

/-!
# Instants

An instant counts seconds since the start of 1970 in universal time, leap seconds left out, and
nanoseconds. A leap second is held in the last second of a minute, as a thousand million
nanoseconds or more. The calendar of instants reaches from the year -262143 to the year 262142.
-/
namespace StatusLine

namespace Instant

def minYear : Int := -262143
def maxYear : Int := 262142

def minSecond : Int := Date.dayNumber ⟨minYear, 1, 1⟩ * 86400

def maxSecond : Int := Date.dayNumber ⟨maxYear, 12, 31⟩ * 86400 + 86399

def IsValid (second : Int) (nano : Nat) : Prop :=
  minSecond ≤ second ∧ second ≤ maxSecond ∧ nano < 2000000000 ∧
    (1000000000 ≤ nano → second % 60 = 59)

instance (second : Int) (nano : Nat) : Decidable (IsValid second nano) := by
  unfold IsValid; infer_instance

end Instant

structure Instant where
  second : Int
  nano : Nat
  valid : Instant.IsValid second nano
  deriving DecidableEq, Repr

namespace Instant

def ofParts? (second : Int) (nano : Nat) : Option Instant :=
  if h : IsValid second nano then some ⟨second, nano, h⟩ else none

theorem ofParts?_eq_some {second : Int} {nano : Nat} {t : Instant} :
    ofParts? second nano = some t ↔ t.second = second ∧ t.nano = nano := by
  unfold ofParts?
  split
  case isTrue h =>
    obtain ⟨s, n, v⟩ := t
    simp [eq_comm]
  case isFalse h =>
    simp only [reduceCtorEq, false_iff]
    intro h
    obtain ⟨rfl, rfl⟩ := h
    exact h t.valid

theorem ofParts?_self (t : Instant) : ofParts? t.second t.nano = some t :=
  ofParts?_eq_some.2 ⟨rfl, rfl⟩

/-- The largest number of seconds whose milliseconds fit in a signed 64-bit word. -/
def maxShift : Int := Bounds.signed64Max / 1000

def IsShift (seconds : Int) : Prop := -maxShift ≤ seconds ∧ seconds ≤ maxShift

instance (seconds : Int) : Decidable (IsShift seconds) := by unfold IsShift; infer_instance

def isLeap (t : Instant) : Bool := 1000000000 ≤ t.nano

/-- The second that a shift leads to. A shift leaves a leap second: the way forward starts in the
second before it, the way back in the second after it. -/
def secondAfter (t : Instant) (seconds : Int) : Int :=
  (if t.isLeap && seconds < 0 then t.second + 1 else t.second) + seconds

def shift? (t : Instant) (seconds : Int) : Option Instant :=
  if seconds = 0 then some t
  else ofParts? (t.secondAfter seconds) (t.nano % 1000000000)

def le (a b : Instant) : Bool := a.second < b.second || (a.second == b.second && a.nano ≤ b.nano)

def timeOfDay (t : Instant) (offset : Int) : TimeOfDay where
  second := ((t.second + offset) % 86400).toNat
  nano := t.nano
  second_lt := by omega
  nano_lt := t.valid.2.2.1

def date (t : Instant) : Date := Date.ofDayNumber (t.second / 86400)

theorem shift?_zero (t : Instant) : t.shift? 0 = some t := rfl

theorem shift?_of_not_isLeap {t : Instant} (h : t.isLeap = false) (seconds : Int) :
    t.shift? seconds = ofParts? (t.second + seconds) t.nano := by
  have hn : t.nano % 1000000000 = t.nano := by
    simp only [isLeap, decide_eq_false_iff_not, Nat.not_le] at h
    exact Nat.mod_eq_of_lt h
  unfold shift?
  split
  case isTrue hs => subst hs; simpa using (ofParts?_self t).symm
  case isFalse hs => simp [secondAfter, h, hn]

end Instant
end StatusLine
