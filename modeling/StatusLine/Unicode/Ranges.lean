/-!
# Tables over code points

A property of characters is a list of closed ranges of code points. A map of characters is a list
of runs: from `first` to `last` every `step`-th code point moves by one distance.
-/
namespace StatusLine.Unicode

abbrev Ranges := List (Nat × Nat)

namespace Ranges

def contains (rs : Ranges) (c : Char) : Bool := rs.any fun r => r.1 ≤ c.toNat && c.toNat ≤ r.2

theorem contains_iff (rs : Ranges) (c : Char) :
    rs.contains c = true ↔ ∃ r ∈ rs, r.1 ≤ c.toNat ∧ c.toNat ≤ r.2 := by
  simp [contains]

end Ranges

structure Run where
  first : Nat
  last : Nat
  step : Nat
  distance : Int

namespace Run

def covers (r : Run) (n : Nat) : Bool := r.first ≤ n && n ≤ r.last && (n - r.first) % r.step == 0

/-- The image of a code point: the first run that covers it moves it, all others stay. -/
def move (rs : List Run) (c : Char) : Char :=
  match rs.find? (·.covers c.toNat) with
  | some r => Char.ofNat (c.toNat + r.distance).toNat
  | none => c

theorem move_eq_self {rs : List Run} {c : Char} (h : ∀ r ∈ rs, r.covers c.toNat = false) :
    move rs c = c := by
  have : rs.find? (·.covers c.toNat) = none := by simpa using h
  simp [move, this]

end Run
end StatusLine.Unicode
