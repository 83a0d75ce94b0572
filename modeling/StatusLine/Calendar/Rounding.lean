/-!
# Rounding of clock times

A rounding names an increment of hours or minutes and a direction. It is valid when its increment
divides the next larger unit: then its multiples divide the day and start over at midnight.
-/
namespace StatusLine

inductive TimeUnit
  | hours
  | minutes
  deriving DecidableEq, Repr

namespace TimeUnit

def all : List TimeUnit := [hours, minutes]

def name : TimeUnit → String
  | hours => "hours"
  | minutes => "minutes"

def ofName? (s : String) : Option TimeUnit := all.find? (·.name == s)

theorem ofName?_name (u : TimeUnit) : ofName? u.name = some u := by cases u <;> decide

def title : TimeUnit → String
  | hours => "Hours"
  | minutes => "Minutes"

def seconds : TimeUnit → Nat
  | hours => 3600
  | minutes => 60

def perParent : TimeUnit → Nat
  | hours => 24
  | minutes => 60

theorem perParent_mul_seconds_dvd (u : TimeUnit) : u.perParent * u.seconds ∣ 86400 := by
  cases u <;> decide

end TimeUnit

inductive Direction
  | nearest
  | up
  | down
  deriving DecidableEq, Repr

namespace Direction

def all : List Direction := [nearest, up, down]

def name : Direction → String
  | nearest => "nearest"
  | up => "up"
  | down => "down"

def ofName? (s : String) : Option Direction := all.find? (·.name == s)

theorem ofName?_name (d : Direction) : ofName? d.name = some d := by cases d <;> decide

def title : Direction → String
  | nearest => "Nearest"
  | up => "Up"
  | down => "Down"

end Direction

structure Rounding where
  increment : Nat
  unit : TimeUnit
  direction : Direction
  deriving DecidableEq, Repr

namespace Rounding

def IsValid (r : Rounding) : Prop :=
  1 ≤ r.increment ∧ r.increment < r.unit.perParent ∧ r.unit.perParent % r.increment = 0

instance (r : Rounding) : Decidable r.IsValid := by unfold IsValid; infer_instance

def seconds (r : Rounding) : Nat := r.increment * r.unit.seconds

/-- How many increments a number of nanoseconds is rounded to, an increment being `size` of them.
A half goes up. -/
def steps (direction : Direction) (size n : Nat) : Nat :=
  match direction with
  | .nearest => if size ≤ 2 * (n % size) then n / size + 1 else n / size
  | .up => if 0 < n % size then n / size + 1 else n / size
  | .down => n / size

theorem IsValid.seconds_pos {r : Rounding} (h : r.IsValid) : 0 < r.seconds := by
  have : 0 < r.unit.seconds := by cases r.unit <;> decide
  exact Nat.mul_pos h.1 this

theorem IsValid.seconds_dvd {r : Rounding} (h : r.IsValid) : r.seconds ∣ 86400 :=
  Nat.dvd_trans (Nat.mul_dvd_mul_right (Nat.dvd_of_mod_eq_zero h.2.2) _)
    (TimeUnit.perParent_mul_seconds_dvd r.unit)

end Rounding
end StatusLine
